import GitPrompt.Proofs.Folding
import GitPrompt.Proofs.Format.Boundaries
import GitPrompt.Proofs.Format.Descent
import GitPrompt.Proofs.Format.Message
import GitPrompt.Proofs.Format.Tiling
import Mathlib.Data.List.Nodup

/-!
Which constructs are open is tracked twice, by the scan that splits a format into tokens and by the
reading of these tokens. As far as the reading comes, the two agree before every token. So a comma
between arguments is met nowhere else, and only a closer can be left over at the end.
-/
namespace GitPrompt.Format

/-- The constructs that are open where a reading stands, the innermost first. -/
def Reading.stack (reading : Reading) : List Frame := frames reading.levels

/-- The constructs that are open behind a token. What a parenthesis opens depends on what stands
before it. -/
def Token.shift (frames : List Frame) : Token → List Frame
  | .groupOpen kind => .group kind :: frames
  | .close closer => closeFrame closer frames
  | _ => frames

def Token.LeadsTo : Token → Phase → Prop
  | .field _, phase => phase.Idle
  | .styleOpen, phase => ¬ phase.Idle
  | .styleCode _, phase => ¬ phase.Idle
  | .semicolon, phase => ¬ phase.Idle
  | _, phase => phase = .ready

namespace Reading.Moves

variable {reading next : Reading} {lexeme : Lexeme}

theorem stack_eq (moves : Moves reading lexeme next) (other : lexeme.token ≠ .parenOpen) :
    next.stack = lexeme.token.shift reading.stack := by
  induction moves with
  | arguments field offset place => exact absurd rfl other
  | body nonempty place => exact absurd rfl other
  | bare called moves ih => exact ih other
  | close level place => simp [stack, frames, Token.shift, closeFrame]
  | _ => rfl

theorem leadsTo (moves : Moves reading lexeme next) (other : lexeme.token ≠ .parenOpen) :
    lexeme.token.LeadsTo next.phase := by
  induction moves with
  | arguments field offset place => exact absurd rfl other
  | body nonempty place => exact absurd rfl other
  | bare called moves ih => exact ih other
  | field field place => exact trivial
  | style place => exact id
  | code derived place => exact id
  | semicolon nonempty place => exact id
  | _ => rfl

theorem paren {place : Nat} (moves : Moves reading ⟨.parenOpen, place⟩ next) :
    next.phase = .ready ∧
      ((reading.phase.Idle ∧ reading.phase ≠ .ready ∧
          next.stack = .arguments :: reading.stack) ∨
        (¬ reading.phase.Idle ∧ next.stack = .style :: reading.stack)) := by
  cases moves with
  | arguments field offset => exact ⟨rfl, .inl ⟨trivial, nofun, rfl⟩⟩
  | body nonempty => exact ⟨rfl, .inr ⟨id, rfl⟩⟩
  | bare called moves => exact absurd rfl called

theorem last_semicolon {opened place : Nat} {codes : List Style.Code}
    (moves : Moves reading lexeme next) (phase : next.phase = .codes opened codes (some place)) :
    lexeme = ⟨.semicolon, place⟩ := by
  induction moves with
  | bare called moves ih => exact ih phase
  | semicolon nonempty place =>
    cases phase
    rfl
  | _ => cases phase

end Reading.Moves

theorem Reading.moves_of_run_reverse {lexeme : Lexeme} {earlier : List Lexeme} {next : Reading}
    (read : initial.run (lexeme :: earlier).reverse = .ok next) :
    ∃ reading, initial.run earlier.reverse = .ok reading ∧ Moves reading lexeme next := by
  rw [List.reverse_cons, run_append] at read
  rcases bind_eq_ok.mp read with ⟨reading, before, last⟩
  rcases moves_of_run last with ⟨same, moves, ended⟩
  cases ended
  exact ⟨reading, before, moves⟩

/-- The phases a reading can be in that has read what a scan in this mode has found. What a quote
or a backslash has begun may stand in any phase. -/
def Mode.Suits : Mode → Phase → Prop
  | .plain, phase => phase = .ready
  | .separator _ _, phase => phase.Idle
  | .fieldEnd, phase => phase.Idle
  | .codes, phase => ¬ phase.Idle
  | .number _ _, phase => ¬ phase.Idle
  | .colour _ _ _, phase => ¬ phase.Idle
  | .literal _ _, _ => True
  | .escape _, _ => True
  | .letterG _, _ => True

/-- Commas stand directly inside arguments, style codes and semicolons in lists of codes. -/
def InPlace (reading : Reading) (lexeme : Lexeme) : Prop :=
  match lexeme.token with
  | .comma => reading.stack.head? = some .arguments ∧ reading.phase.Idle
  | .styleCode _ => ¬ reading.phase.Idle
  | .semicolon => ¬ reading.phase.Idle
  | _ => True

theorem InPlace.endsCodes {reading : Reading} {lexeme : Lexeme} (inPlace : InPlace reading lexeme)
    (idle : reading.phase.Idle) : EndsCodes lexeme := by
  rcases lexeme with ⟨token, place⟩
  cases token with
  | styleCode text => exact absurd idle inPlace
  | semicolon => exact absurd idle inPlace
  | _ => exact ⟨fun _ => Token.noConfusion, Token.noConfusion⟩

def AllInPlace : List Lexeme → Prop
  | [] => True
  | lexeme :: earlier =>
    (∀ reading, Reading.initial.run earlier.reverse = .ok reading → InPlace reading lexeme) ∧
      AllInPlace earlier

theorem AllInPlace.of_split {later earlier : List Lexeme} {lexeme : Lexeme} {reading : Reading}
    (inPlace : AllInPlace (later ++ lexeme :: earlier))
    (read : Reading.initial.run earlier.reverse = .ok reading) : InPlace reading lexeme := by
  induction later with
  | nil => exact inPlace.1 reading read
  | cons other later ih => exact ih inPlace.2

namespace Scan

/-- A reading of what the scan has found knows the same open constructs and is in a phase that
suits the mode of the scan. -/
structure Agrees (scan : Scan) : Prop where
  inPlace : AllInPlace scan.lexemes
  nested : ∀ reading, Reading.initial.run scan.lexemes.reverse = .ok reading →
    reading.stack = scan.frames ∧ scan.mode.Suits reading.phase

theorem agrees_initial : initial.Agrees where
  inPlace := trivial
  nested := by
    intro reading read
    cases read
    exact ⟨rfl, rfl⟩

namespace Agrees

variable {scan next : Scan} {c : Char}

theorem goes_on (agrees : scan.Agrees) (lexemes : next.lexemes = scan.lexemes)
    (open' : next.frames = scan.frames)
    (suits : ∀ phase, scan.mode.Suits phase → next.mode.Suits phase) : next.Agrees where
  inPlace := lexemes ▸ agrees.inPlace
  nested := by
    intro reading read
    rw [lexemes] at read
    have nested := agrees.nested reading read
    exact ⟨by rw [open', nested.1], suits reading.phase nested.2⟩

theorem finds (agrees : scan.Agrees) {token : Token} {start : Nat}
    (lexemes : next.lexemes = ⟨token, start⟩ :: scan.lexemes)
    (open' : next.frames = token.shift scan.frames) (other : token ≠ .parenOpen)
    (inPlace : ∀ reading : Reading, reading.stack = scan.frames →
      scan.mode.Suits reading.phase → InPlace reading ⟨token, start⟩)
    (suits : ∀ phase, token.LeadsTo phase → next.mode.Suits phase) : next.Agrees where
  inPlace := by
    rw [lexemes]
    refine ⟨?_, agrees.inPlace⟩
    intro reading read
    have nested := agrees.nested reading read
    exact inPlace reading nested.1 nested.2
  nested := by
    intro after read
    rw [lexemes] at read
    rcases Reading.moves_of_run_reverse read with ⟨reading, before, moves⟩
    have nested := agrees.nested reading before
    have same := moves.stack_eq other
    rw [nested.1] at same
    exact ⟨by rw [open', same], suits after.phase (moves.leadsTo other)⟩

theorem finds_paren (agrees : scan.Agrees) {start : Nat}
    (lexemes : next.lexemes = ⟨.parenOpen, start⟩ :: scan.lexemes) (mode : next.mode = .plain)
    (arguments : ∀ phase, scan.mode.Suits phase → phase.Idle → phase ≠ .ready →
      next.frames = .arguments :: scan.frames)
    (body : ∀ phase, scan.mode.Suits phase → ¬ phase.Idle → next.frames = .style :: scan.frames) :
    next.Agrees where
  inPlace := by
    rw [lexemes]
    exact ⟨fun reading read => trivial, agrees.inPlace⟩
  nested := by
    intro after read
    rw [lexemes] at read
    rcases Reading.moves_of_run_reverse read with ⟨reading, before, moves⟩
    have nested := agrees.nested reading before
    rcases moves.paren with ⟨ready, ⟨idle, called, opened⟩ | ⟨listed, opened⟩⟩
    · rw [nested.1] at opened
      exact ⟨by rw [opened, arguments _ nested.2 idle called], by rw [mode]; exact ready⟩
    · rw [nested.1] at opened
      exact ⟨by rw [opened, body _ nested.2 listed], by rw [mode]; exact ready⟩

theorem settle (agrees : scan.Agrees) : scan.settle.Agrees := by
  rcases scan with ⟨offset, lexemes, open', mode⟩
  cases mode with
  | separator start text =>
    exact agrees.finds rfl rfl Token.noConfusion (fun _ _ _ => trivial) fun _ => id
  | letterG start =>
    exact agrees.finds rfl rfl Token.noConfusion (fun _ _ _ => trivial) fun _ => id
  | number start digits =>
    exact agrees.finds rfl rfl Token.noConfusion (fun _ _ => id) fun _ => id
  | colour start closer text =>
    exact agrees.finds rfl rfl Token.noConfusion (fun _ _ => id) fun _ => id
  | _ => exact agrees

theorem readPlain (agrees : scan.Agrees) (paren : c = '(' → scan.mode = .plain)
    (idle : c ∈ codesEnd ∨ ∀ phase, scan.mode.Suits phase → phase.Idle) :
    (scan.readPlain c).Agrees := by
  unfold Scan.readPlain
  split
  · exact agrees.goes_on rfl rfl fun _ _ => trivial
  split
  · exact agrees.goes_on rfl rfl fun _ _ => trivial
  split
  · exact agrees.finds rfl rfl Token.noConfusion (fun _ _ _ => trivial) fun _ => id
  split
  · rw [leave_eq]
    exact agrees.finds rfl rfl Token.noConfusion (fun _ _ _ => trivial) fun _ => id
  split
  · rename_i comma
    simp only [Bool.and_eq_true, decide_eq_true_eq] at comma
    have other : c ∉ codesEnd := by
      rw [comma.1]
      decide
    refine agrees.finds rfl rfl Token.noConfusion ?_ fun _ => id
    intro reading nested suits
    refine ⟨?_, idle.resolve_left other reading.phase suits⟩
    rw [nested]
    exact eq_of_beq comma.2
  split
  · rename_i separator
    refine agrees.goes_on rfl rfl ?_
    have other : c ∉ codesEnd := by
      intro ends
      revert separator
      simp only [codesEnd, List.mem_cons, List.not_mem_nil, or_false] at ends
      rcases ends with rfl | rfl | rfl | rfl <;> decide
    exact idle.resolve_left other
  split
  · rename_i opened
    have plain := paren opened
    refine agrees.finds_paren rfl rfl ?_ ?_
    · intro phase suits _ called
      rw [plain] at suits
      exact absurd suits called
    · intro phase suits listed
      rw [plain] at suits
      subst suits
      exact absurd trivial listed
  · exact agrees.finds rfl rfl Token.noConfusion (fun _ _ _ => trivial) fun _ => id

theorem readCodes (agrees : scan.Agrees) (mode : scan.mode = .codes) :
    (scan.readCodes c).Agrees := by
  have listed : ∀ phase, scan.mode.Suits phase → ¬ phase.Idle := by
    intro phase suits
    rwa [mode] at suits
  unfold Scan.readCodes
  split
  · refine agrees.finds_paren rfl rfl ?_ fun _ _ _ => rfl
    intro phase suits idle
    exact absurd idle (listed phase suits)
  rename_i other
  split
  · rename_i ends
    refine agrees.readPlain (fun paren => absurd paren other) (.inl ?_)
    simpa [codesEnd, or_assoc] using Or.inr ends
  split
  · exact agrees.finds rfl rfl Token.noConfusion (fun reading _ => listed reading.phase) fun _ => id
  split
  · exact agrees.goes_on rfl rfl listed
  split
  · exact agrees.goes_on rfl rfl listed
  split
  · exact agrees.goes_on rfl rfl listed
  · exact agrees.finds rfl rfl Token.noConfusion (fun reading _ => listed reading.phase) fun _ => id

theorem step (agrees : scan.Agrees) (stepped : scan.step c = .ok next) : next.Agrees := by
  rcases exists_reads_of_step stepped with ⟨after, reads, moved⟩
  subst moved
  have settled := agrees.settle
  have moves : ∀ {after : Scan}, after.Agrees →
      Scan.Agrees { after with offset := scan.offset + 1 } :=
    fun agrees => agrees.goes_on rfl rfl fun _ => id
  cases reads with
  | plain mode =>
    refine moves (settled.readPlain (fun _ => mode) (.inr ?_))
    intro phase ready
    rw [mode] at ready
    cases ready
    trivial
  | uncalled mode other =>
    refine moves (settled.readPlain (fun paren => absurd paren other) (.inr ?_))
    intro phase suits
    rwa [mode] at suits
  | codes mode => exact moves (settled.readCodes mode)
  | called mode =>
    refine agrees.finds_paren rfl rfl (fun _ _ _ _ => rfl) ?_
    intro phase idle listed
    rw [mode] at idle
    exact absurd idle listed
  | separator mode => exact agrees.goes_on rfl rfl (mode ▸ fun _ => id)
  | digit mode => exact agrees.goes_on rfl rfl (mode ▸ fun _ => id)
  | colour mode => exact agrees.goes_on rfl rfl (mode ▸ fun _ => id)
  | literal mode => exact agrees.goes_on rfl rfl fun _ _ => trivial
  | letterG mode => exact agrees.goes_on rfl rfl fun _ _ => trivial
  | bracket mode =>
    refine agrees.finds rfl rfl Token.noConfusion ?_ fun _ => id
    intro reading _ listed
    rwa [mode] at listed
  | quote mode => exact agrees.finds rfl rfl Token.noConfusion (fun _ _ _ => trivial) fun _ => id
  | group kind mode =>
    exact agrees.finds rfl rfl Token.noConfusion (fun _ _ _ => trivial) fun _ => id
  | bare mode => exact agrees.finds rfl rfl Token.noConfusion (fun _ _ _ => trivial) fun _ => id
  | escaped mode => exact agrees.finds rfl rfl Token.noConfusion (fun _ _ _ => trivial) fun _ => id
  | field mode => exact agrees.finds rfl rfl Token.noConfusion (fun _ _ _ => trivial) fun _ => id

theorem run (agrees : scan.Agrees) {text : Text} (run : scan.run text = .ok next) :
    next.Agrees := by
  induction text generalizing scan with
  | nil =>
    cases run
    exact agrees
  | cons c text ih =>
    rw [run_cons] at run
    rcases bind_eq_ok.mp run with ⟨after, stepped, later⟩
    exact ih (agrees.step stepped) later

end Agrees

end Scan

namespace Reading.Stops

variable {reading : Reading} {lexeme : Lexeme} {error : FormatError}

theorem offset_eq (stops : Stops reading lexeme error) :
    error.offset = lexeme.offset ∨
      ∃ opened codes, reading.phase = .codes opened codes (some error.offset) := by
  induction stops with
  | bare other stops ih =>
    rcases ih with here | ⟨opened, codes, phase⟩
    · exact .inl here
    · cases phase
  | lastSemicolon ends nonempty => exact .inr ⟨_, _, rfl⟩
  | _ => exact .inl rfl

theorem not_comma (stops : Stops reading lexeme error) (inPlace : InPlace reading lexeme) :
    lexeme.token ≠ .comma := by
  induction stops with
  | bare other stops ih => exact ih inPlace
  | leftOver place stray =>
    intro comma
    subst comma
    cases inPlace.1
  | unclosed level place other between =>
    intro comma
    have apart := between comma
    subst comma
    exact apart (Option.some.inj inPlace.1)
  | noCodes ends | lastSemicolon ends | noBody ends =>
    intro comma
    rw [InPlace, comma] at inPlace
    exact inPlace.2
  | _ => exact Token.noConfusion

theorem closer (stops : Stops reading lexeme error) (inPlace : InPlace reading lexeme)
    (trailing : error.kind = .trailingInput) :
    ∃ closer, lexeme.token = .close closer ∧
      error = ⟨.closesNothing (.close closer), lexeme.offset⟩ := by
  induction stops with
  | bare other stops ih => exact ih inPlace trailing
  | closesNothing closer place => exact ⟨closer, rfl, rfl⟩
  | leftOver place stray =>
    rcases stray with comma | codes
    · subst comma
      cases inPlace.1
    · exact absurd (inPlace.endsCodes trivial) codes
  | badCode place refused => cases styleCode_fault refused <;> cases trailing
  | _ => cases trailing

end Reading.Stops

theorem Reading.semicolon_of_run {before : List Lexeme} {reading : Reading} {opened place : Nat}
    {codes : List Style.Code} (read : initial.run before = .ok reading)
    (phase : reading.phase = .codes opened codes (some place)) : ⟨.semicolon, place⟩ ∈ before := by
  rw [← List.reverse_reverse before] at read
  rw [← List.mem_reverse]
  generalize before.reverse = latest at read ⊢
  cases latest with
  | nil =>
    cases read
    cases phase
  | cons lexeme earlier =>
    rcases moves_of_run_reverse read with ⟨last, -, moves⟩
    rw [moves.last_semicolon phase]
    exact List.mem_cons_self

section
variable {source : Text} {before after : List Lexeme} {lexeme : Lexeme} {reading : Reading}

theorem exists_scan_before (tokenized : tokenize source = .ok (before ++ lexeme :: after))
    (read : Reading.initial.run before = .ok reading) :
    ∃ scan, Scan.initial.run (source.take lexeme.offset) = .ok scan ∧
      scan.settle.lexemes.reverse = before ∧ scan.frames = reading.stack := by
  rcases Scan.exists_run_of_tokenize (tokenize_take tokenized) with ⟨scan, run, -, found⟩
  rw [List.reverse_append, List.reverse_singleton, List.singleton_append] at found
  have lexemes : scan.settle.lexemes.reverse = before := by
    rw [(List.cons.inj found).2, List.reverse_reverse]
  have agrees := (Scan.agrees_initial.run run).settle
  have nested := agrees.nested reading (by rw [lexemes]; exact read)
  exact ⟨scan, run, lexemes, by rw [nested.1, scan.settle_frames]⟩

theorem inPlace_of_tokenize (tokenized : tokenize source = .ok (before ++ lexeme :: after))
    (read : Reading.initial.run before = .ok reading) : InPlace reading lexeme := by
  rcases Scan.exists_run_of_tokenize tokenized with ⟨scan, run, -, found⟩
  have agrees := (Scan.agrees_initial.run run).settle
  have inPlace : AllInPlace (⟨.endOfInput, scan.offset⟩ :: scan.settle.lexemes) :=
    ⟨fun _ _ => trivial, agrees.inPlace⟩
  have split : (before ++ lexeme :: after).reverse = after.reverse ++ lexeme :: before.reverse := by
    simp
  rw [found, split] at inPlace
  exact inPlace.of_split (by rw [List.reverse_reverse]; exact read)

end

theorem Token.Sound.separator_of_comma {token : Token} (sound : token.Sound)
    (written : ',' ∈ token.source) (literal : token.kind ≠ .literal)
    (code : token.kind ≠ .styleCode) (comma : token ≠ .comma) : token.kind = .separator := by
  cases token with
  | literal text => exact absurd rfl literal
  | styleCode text => exact absurd rfl code
  | comma => exact absurd rfl comma
  | separator text => rfl
  | escaped c =>
    rcases sound with quote | backslash
    · subst quote
      exact absurd written (by decide)
    · subst backslash
      exact absurd written (by decide)
  | field c =>
    have named : ',' = c := by simpa [source] using written
    subst named
    have letter : isFieldLetter ',' = true := sound
    exact absurd letter (by decide)
  | unknown c =>
    have named : ',' = c := by simpa [source, text] using written
    subst named
    have stray : isStray ',' = true := sound
    exact absurd stray (by decide)
  | groupOpen kind => cases kind <;> exact absurd written (by decide)
  | close closer => cases closer <;> exact absurd written (by decide)
  | _ => exact absurd written (by decide)

/-- What the scan and the reading know alike when the reading comes to a lexeme. -/
structure MeetsAlike (source : Text) (before : List Lexeme) (lexeme : Lexeme)
    (reading : Reading) : Prop where
  nested : ∃ scan, Scan.initial.run (source.take lexeme.offset) = .ok scan ∧
    scan.settle.lexemes.reverse = before ∧ scan.frames = reading.stack
  comma : lexeme.token = .comma → reading.stack.head? = some .arguments ∧
    ∃ next, reading.step lexeme = .ok next
  separated : ∀ place, lexeme.covers place = true → source[place]? = some ',' →
    lexeme.token.kind ≠ .literal → lexeme.token.kind ≠ .styleCode →
      reading.stack.head? ≠ some .arguments → lexeme.token.kind = .separator

theorem meetsAlike_of_tokenize {source : Text} {before after : List Lexeme} {lexeme : Lexeme}
    {reading : Reading} (tokenized : tokenize source = .ok (before ++ lexeme :: after))
    (read : Reading.initial.run before = .ok reading) :
    MeetsAlike source before lexeme reading := by
  have lexed := tokenize_eq_ok_iff.mp tokenized
  have inPlace := inPlace_of_tokenize tokenized read
  have member : lexeme ∈ before ++ lexeme :: after :=
    List.mem_append_right before List.mem_cons_self
  refine ⟨exists_scan_before tokenized read, ?_, ?_⟩
  · rcases lexeme with ⟨token, place⟩
    intro comma
    subst comma
    refine ⟨inPlace.1, ?_⟩
    cases outcome : reading.step ⟨.comma, place⟩ with
    | ok next => exact ⟨next, rfl⟩
    | error error => exact absurd rfl ((Reading.stops_of_step outcome).not_comma inPlace)
  · intro place covers here literal code outside
    simp only [Lexeme.covers, decide_eq_true_eq] at covers
    have written : ',' ∈ lexeme.token.source := by
      rw [← lexed.spelled_in_place lexeme member]
      apply List.mem_of_getElem? (i := place - lexeme.offset)
      rw [List.getElem?_take_of_lt (by omega), List.getElem?_drop, ← here]
      congr 1
      omega
    have comma : lexeme.token ≠ .comma := by
      rcases lexeme with ⟨token, offset⟩
      intro comma
      subst comma
      exact outside inPlace.1
    have more : lexeme.token ≠ .endOfInput := by
      intro ended
      rw [ended] at written
      exact absurd written List.not_mem_nil
    exact (lexed.sound_of_mem member more).separator_of_comma written literal code comma

section
variable {source : Text} {lexemes : List Lexeme} {error : FormatError}

theorem exists_stop (tokenized : tokenize source = .ok lexemes)
    (unread : parseLexemes lexemes = .error error) :
    ∃ before lexeme after reading, lexemes = before ++ lexeme :: after ∧
      Reading.initial.run before = .ok reading ∧ Reading.Stops reading lexeme error ∧
      InPlace reading lexeme := by
  rcases exists_of_foldlM_error (run_of_parseLexemes unread) with
    ⟨before, lexeme, after, reading, split, read, stopped⟩
  exact ⟨before, lexeme, after, reading, split, read, Reading.stops_of_step stopped,
    inPlace_of_tokenize (split ▸ tokenized) read⟩

theorem exists_blamed (tokenized : tokenize source = .ok lexemes)
    (unread : parseLexemes lexemes = .error error) :
    ∃ lexeme ∈ lexemes, lexeme.offset = error.offset ∧ lexeme.token ≠ .comma := by
  rcases exists_stop tokenized unread with
    ⟨before, lexeme, after, reading, split, read, stops, inPlace⟩
  rw [split]
  rcases stops.offset_eq with here | ⟨opened, codes, phase⟩
  · exact ⟨lexeme, List.mem_append_right before List.mem_cons_self, here.symm,
      stops.not_comma inPlace⟩
  · have earlier := Reading.semicolon_of_run read phase
    exact ⟨⟨.semicolon, error.offset⟩, List.mem_append_left _ earlier, rfl, Token.noConfusion⟩

theorem offset_ne_of_comma (tokenized : tokenize source = .ok lexemes)
    (unread : parseLexemes lexemes = .error error) {lexeme : Lexeme} (member : lexeme ∈ lexemes)
    (comma : lexeme.token = .comma) : error.offset ≠ lexeme.offset := by
  intro same
  have lexed := tokenize_eq_ok_iff.mp tokenized
  have distinct := lexed.layout.2.nodup_offsets lexed.soundToEnd
  rcases exists_blamed tokenized unread with ⟨blamed, known, there, other⟩
  have equal := List.inj_on_of_nodup_map distinct known member (there.trans same)
  rw [equal] at other
  exact other comma

theorem exists_closer_of_trailing (tokenized : tokenize source = .ok lexemes)
    (unread : parseLexemes lexemes = .error error) (trailing : error.kind = .trailingInput) :
    ∃ closer, ⟨.close closer, error.offset⟩ ∈ lexemes ∧
      error.fault = .closesNothing (.close closer) := by
  rcases exists_stop tokenized unread with
    ⟨before, lexeme, after, reading, split, read, stops, inPlace⟩
  rcases stops.closer inPlace trailing with ⟨closer, closes, equal⟩
  refine ⟨closer, ?_, by rw [equal]⟩
  rw [equal, ← closes, split]
  exact List.mem_append_right before List.mem_cons_self

end

/-- As far as its tokens are read, the scan of a format and the reading of its tokens have the same
constructs open. A comma between arguments is never at fault, and only a closer is left over. -/
theorem scan_nests_as_reading {source : Text} {lexemes : List Lexeme}
    (tokenized : tokenize source = .ok lexemes) :
    (∀ before lexeme after reading, lexemes = before ++ lexeme :: after →
      Reading.initial.run before = .ok reading → MeetsAlike source before lexeme reading) ∧
    ∀ error, parse source = .error error →
      (∀ lexeme ∈ lexemes, lexeme.token = .comma →
        (error.position source).offset ≠ lexeme.offset) ∧
      (error.kind = .trailingInput → ∃ closer, ⟨.close closer, error.offset⟩ ∈ lexemes ∧
        error.fault = .closesNothing (.close closer)) ∧
      ∀ found, error.fault ≠ .leftOver found := by
  refine ⟨?_, ?_⟩
  · intro before lexeme after reading split read
    exact meetsAlike_of_tokenize (split ▸ tokenized) read
  intro error failed
  have inside := offset_of_parse_error failed
  have unread : parseLexemes lexemes = .error error := by
    rw [parse, tokenized] at failed
    exact failed
  refine ⟨?_, exists_closer_of_trailing tokenized unread, ?_⟩
  · intro lexeme member comma
    have place : (error.position source).offset = error.offset :=
      Position.offset_ofOffset_natCast inside
    rw [place]
    exact offset_ne_of_comma tokenized unread member comma
  · intro found left
    have trailing : error.kind = .trailingInput := by
      rw [FormatError.kind, left]
      rfl
    rcases exists_closer_of_trailing tokenized unread trailing with ⟨closer, -, closes⟩
    rw [left] at closes
    cases closes

theorem scan_nests_as_reading_arguments :
    tokenize "\\b(\\(,\\b),\\b)]".toList = .ok
        [⟨.field 'b', 0⟩, ⟨.parenOpen, 2⟩, ⟨.groupOpen .paren, 3⟩, ⟨.separator [','], 5⟩,
          ⟨.field 'b', 6⟩, ⟨.close .paren, 8⟩, ⟨.comma, 9⟩, ⟨.field 'b', 10⟩, ⟨.close .paren, 12⟩,
          ⟨.close .square, 13⟩, ⟨.endOfInput, 14⟩] ∧
      (∃ reading, reading.stack = [.arguments] ∧
        MeetsAlike "\\b(\\(,\\b),\\b)]".toList
          [⟨.field 'b', 0⟩, ⟨.parenOpen, 2⟩, ⟨.groupOpen .paren, 3⟩, ⟨.separator [','], 5⟩,
            ⟨.field 'b', 6⟩, ⟨.close .paren, 8⟩] ⟨.comma, 9⟩ reading) ∧
      ∃ error, parse "\\b(\\(,\\b),\\b)]".toList = .error error ∧
        error.kind = .trailingInput ∧ (error.position "\\b(\\(,\\b),\\b)]".toList).offset ≠ 9 := by
  have tokenized : tokenize "\\b(\\(,\\b),\\b)]".toList = .ok
      [⟨.field 'b', 0⟩, ⟨.parenOpen, 2⟩, ⟨.groupOpen .paren, 3⟩, ⟨.separator [','], 5⟩,
        ⟨.field 'b', 6⟩, ⟨.close .paren, 8⟩, ⟨.comma, 9⟩, ⟨.field 'b', 10⟩, ⟨.close .paren, 12⟩,
        ⟨.close .square, 13⟩, ⟨.endOfInput, 14⟩] := rfl
  have failed : parse "\\b(\\(,\\b),\\b)]".toList =
      .error ⟨.closesNothing (.close .square), 13⟩ := rfl
  obtain ⟨alike, errors⟩ := scan_nests_as_reading tokenized
  have elsewhere := (errors _ failed).1 ⟨.comma, 9⟩ (by decide) rfl
  exact ⟨tokenized, ⟨_, rfl, alike _ _ _ _ rfl rfl⟩, _, failed, rfl, elsewhere⟩

end GitPrompt.Format
