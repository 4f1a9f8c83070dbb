import GitPrompt.Proofs.Format.CodeCuts
import GitPrompt.Proofs.Format.Layout
import GitPrompt.Proofs.Format.Parsing

/-!
The beginnings of a format. A format that is cut anywhere is a format again, or it fails for what
is not finished yet: which errors there can be depends on the token that the cut is in.
-/
namespace GitPrompt.Format

def Token.InCodes (token : Token) : Prop := (∃ text, token = .styleCode text) ∨ token = .semicolon

/-- The errors that a format may have when it is cut at a place between or inside its tokens. -/
def CutAt (lexemes : List Lexeme) (place : Nat) : ErrorKind → Prop
  | .unterminatedLiteral => True
  | .unmatchedDelimiter => True
  | .unrecognizedEscape =>
    ∃ lexeme ∈ lexemes, lexeme.token.source.head? = some '\\' ∧ place = lexeme.offset + 1
  | .unknownField => ∃ offset, ⟨.groupOpen .bare, offset⟩ ∈ lexemes ∧ place = offset + 2
  | .unexpectedToken =>
    ∃ before opened codes body after,
      lexemes = before ++ ⟨.styleOpen, opened⟩ :: codes ++ ⟨.parenOpen, body⟩ :: after ∧
        (∀ lexeme ∈ codes, lexeme.token.InCodes) ∧ opened < place ∧ place ≤ body
  | _ => False

theorem CodesLex.inCodes {rest list : Text} {start : Nat} {lexemes : List Lexeme}
    (lexed : CodesLex rest start list lexemes) : ∀ lexeme ∈ lexemes, lexeme.token.InCodes := by
  induction lexed with
  | done => nofun
  | semicolon others ih => exact List.forall_mem_cons.mpr ⟨.inr rfl, ih⟩
  | single _ _ ih | number _ _ _ _ ih | colour _ _ _ ih =>
    exact List.forall_mem_cons.mpr ⟨.inl ⟨_, rfl⟩, ih⟩
  | unclosed ground inside cut => exact List.forall_mem_cons.mpr ⟨.inl ⟨_, rfl⟩, nofun⟩

theorem CutAt.append {more : List Lexeme} {place : Nat} {kind : ErrorKind}
    (cut : CutAt more place kind) (found : List Lexeme) : CutAt (found ++ more) place kind := by
  cases kind with
  | unrecognizedEscape =>
    obtain ⟨lexeme, member, starts, same⟩ := cut
    exact ⟨lexeme, List.mem_append_right found member, starts, same⟩
  | unknownField =>
    obtain ⟨offset, member, same⟩ := cut
    exact ⟨offset, List.mem_append_right found member, same⟩
  | unexpectedToken =>
    obtain ⟨before, opened, codes, body, after, split, listed, inside⟩ := cut
    exact ⟨found ++ before, opened, codes, body, after, by simp [split], listed, inside⟩
  | _ => exact cut

/-- What becomes of a cut format is a reading, or an error that it may have. -/
def Unfinished (lexemes : List Lexeme) (place : Nat) (outcome : Except FormatError Reading) :
    Prop :=
  ∀ error, outcome = .error error → CutAt lexemes place error.kind

def Phase.Idle : Phase → Prop
  | .codes _ _ _ => False
  | _ => True

namespace Reading

theorem Moves.idle {reading next : Reading} {lexeme : Lexeme} (moves : Moves reading lexeme next)
    (ends : EndsCodes lexeme) (other : lexeme.token ≠ .styleOpen) : next.phase.Idle := by
  induction moves with
  | bare called moves ih => exact ih ends other
  | style place => exact absurd rfl other
  | code derived place => exact absurd rfl (ends.1 _)
  | semicolon nonempty place => exact absurd rfl ends.2
  | _ => exact trivial

theorem Stops.kind_of_end {reading : Reading} {lexeme : Lexeme} {error : FormatError}
    (stops : Stops reading lexeme error) (last : lexeme.token = .endOfInput)
    (idle : reading.phase.Idle) : error.kind = .unmatchedDelimiter := by
  induction stops with
  | unclosed level place other between => rfl
  | bare other stops ih => exact ih last trivial
  | leftOver place stray =>
    cases last
    rcases stray with comma | codes
    · cases comma
    · exact absurd ⟨fun _ => Token.noConfusion, Token.noConfusion⟩ codes
  | closesNothing | unquoted | strayParen | unknownField => cases last
  | _ => exact idle.elim

theorem kind_of_end {reading : Reading} {place : Nat} {error : FormatError}
    (idle : reading.phase.Idle) (failed : reading.run [⟨.endOfInput, place⟩] = .error error) :
    error.kind = .unmatchedDelimiter := by
  rw [run_cons] at failed
  rcases bind_eq_error.mp failed with stopped | ⟨next, -, later⟩
  · exact (stops_of_step stopped).kind_of_end rfl idle
  · cases later

end Reading

/-- What becomes of a reading that a text is still to be scanned for. -/
def Reading.through (reading : Reading) (frames : List Frame) (start : Nat) (text : Text) :
    Except FormatError Reading :=
  Scan.complete ⟨start, [], frames, .plain⟩ text >>= reading.run

theorem Reading.through_of_lexes {reading : Reading} {frames : List Frame} {start : Nat}
    {text : Text} {lexemes : List Lexeme} (lexed : Lexes frames start text lexemes) :
    reading.through frames start text = reading.run lexemes := by
  rw [through, lexed.complete []]
  rfl

theorem Reading.through_append {reading next : Reading} {frames inner : List Frame}
    {start place : Nat} {piece rest : Text} {found : List Lexeme}
    (scans : Scan.complete ⟨start, [], frames, .plain⟩ (piece ++ rest) =
      Scan.complete ⟨place, found.reverse, inner, .plain⟩ rest)
    (read : reading.run found = .ok next) :
    reading.through frames start (piece ++ rest) = next.through inner place rest := by
  rw [through, through, scans, complete_eq_rounds, complete_eq_rounds]
  cases rounds inner place rest with
  | error error => rfl
  | ok more =>
    calc
      _ = reading.run (found ++ more) := by
        rw [List.reverse_reverse]
        rfl
      _ = next.run more := by
        rw [run_append, read]
        rfl

/-- Wherever a text is cut that is read to the end, what becomes of it is unfinished. -/
def Cuts (frames : List Frame) (start : Nat) (text : Text) (lexemes : List Lexeme) : Prop :=
  ∀ reading final : Reading, reading.phase.Idle → reading.run lexemes = .ok final →
    ∀ k, Unfinished lexemes (start + k) (reading.through frames start (text.take k))

theorem unfinished_end {reading : Reading} (idle : reading.phase.Idle) (lexemes : List Lexeme)
    (place last : Nat) : Unfinished lexemes place (reading.run [⟨.endOfInput, last⟩]) := by
  intro error failed
  rw [Reading.kind_of_end idle failed]
  exact trivial

section
variable {frames inner : List Frame} {start : Nat} {more : List Lexeme}

theorem unfinished_nothing {reading : Reading} (idle : reading.phase.Idle) (lexemes : List Lexeme)
    (place : Nat) : Unfinished lexemes place (reading.through frames start []) := by
  rw [Reading.through_of_lexes .done]
  exact unfinished_end idle lexemes place start

theorem Cuts.before (found : List Lexeme) (last : Lexeme) (piece : Text) {rest : Text} {place : Nat}
    (others : Cuts inner place rest more) (length : place = start + piece.length)
    (scans : ∀ j, Scan.complete ⟨start, [], frames, .plain⟩ (piece ++ rest.take j) =
      Scan.complete ⟨place, (found ++ [last]).reverse, inner, .plain⟩ (rest.take j))
    (ends : EndsCodes last) (other : last.token ≠ .styleOpen)
    (here : ∀ reading next : Reading, reading.phase.Idle →
      reading.run (found ++ [last]) = .ok next → ∀ j, j + 1 < piece.length →
        Unfinished (found ++ [last] ++ more) (start + (j + 1))
          (reading.through frames start (piece.take (j + 1)))) :
    Cuts frames start (piece ++ rest) (found ++ [last] ++ more) := by
  intro reading final idle finished k
  rw [Reading.run_append] at finished
  obtain ⟨next, read, later⟩ := bind_eq_ok.mp finished
  rcases Nat.lt_or_ge k piece.length with cut | whole
  · rw [List.take_append_of_le_length (by omega)]
    cases k with
    | zero => exact unfinished_nothing idle _ _
    | succ j => exact here reading next idle read j cut
  · have nextIdle : next.phase.Idle := by
      rw [Reading.run_append] at read
      obtain ⟨middle, -, ended⟩ := bind_eq_ok.mp read
      obtain ⟨same, moves, nothing⟩ := Reading.moves_of_run ended
      cases nothing
      exact moves.idle ends other
    have behind : start + k = place + (k - piece.length) := by omega
    rw [List.take_append, List.take_of_length_le whole, Reading.through_append (scans _) read,
      behind]
    intro error failed
    exact (others next final nextIdle later _ error failed).append _

theorem Cuts.lexeme (lexeme : Lexeme) (piece : Text) {rest : Text} {place : Nat}
    (others : Cuts inner place rest more) (length : place = start + piece.length)
    (scans : ∀ j, Scan.complete ⟨start, [], frames, .plain⟩ (piece ++ rest.take j) =
      Scan.complete ⟨place, [lexeme], inner, .plain⟩ (rest.take j))
    (ends : EndsCodes lexeme) (other : lexeme.token ≠ .styleOpen)
    (here : ∀ reading next : Reading, reading.phase.Idle → reading.step lexeme = .ok next →
      ∀ j, j + 1 < piece.length → Unfinished (lexeme :: more) (start + (j + 1))
        (reading.through frames start (piece.take (j + 1)))) :
    Cuts frames start (piece ++ rest) (lexeme :: more) := by
  apply others.before [] lexeme piece length scans ends other
  intro reading next idle read j inside
  obtain ⟨after, stepped, -⟩ := bind_eq_ok.mp read
  exact here reading after idle stepped j inside

theorem Cuts.character (token : Token) (c : Char) {rest : Text}
    (others : Cuts inner (start + 1) rest more)
    (scans : ∀ rest, Scan.complete ⟨start, [], frames, .plain⟩ (c :: rest) =
      Scan.complete ⟨start + 1, [⟨token, start⟩], inner, .plain⟩ rest)
    (ends : EndsCodes ⟨token, start⟩) (other : token ≠ .styleOpen) :
    Cuts frames start (c :: rest) (⟨token, start⟩ :: more) := by
  apply others.lexeme ⟨token, start⟩ [c] rfl (fun j => scans _) ends other
  intro reading next idle stepped j inside
  simp at inside

theorem unfinished_backslash {reading : Reading} {lexeme : Lexeme}
    (escape : lexeme.token.source.head? = some '\\') (place : lexeme.offset = start) :
    Unfinished (lexeme :: more) (start + 1) (reading.through frames start ['\\']) := by
  rintro error ⟨⟩
  exact ⟨lexeme, List.mem_cons_self, escape, by rw [place]⟩

theorem Cuts.escape (token : Token) (c : Char) {rest : Text}
    (others : Cuts inner (start + 2) rest more) (written : token.source.head? = some '\\')
    (scans : ∀ j, Scan.complete ⟨start, [], frames, .plain⟩ ('\\' :: c :: rest.take j) =
      Scan.complete ⟨start + 2, [⟨token, start⟩], inner, .plain⟩ (rest.take j))
    (ends : EndsCodes ⟨token, start⟩) (other : token ≠ .styleOpen) :
    Cuts frames start ('\\' :: c :: rest) (⟨token, start⟩ :: more) := by
  apply others.lexeme ⟨token, start⟩ ['\\', c] rfl scans ends other
  intro reading next idle stepped j inside
  have first : j + 1 < 2 := inside
  match j, first with
  | 0, _ => exact unfinished_backslash written rfl

theorem Cuts.call {c : Char} {rest : Text} (letter : isFieldLetter c = true) (named : c ≠ 'g')
    (others : Cuts (.arguments :: frames) (start + 3) rest more) :
    Cuts frames start ('\\' :: c :: '(' :: rest)
      (⟨.field c, start⟩ :: ⟨.parenOpen, start + 2⟩ :: more) := by
  apply others.before [⟨.field c, start⟩] ⟨.parenOpen, start + 2⟩ ['\\', c, '('] rfl
  · intro j
    exact Scan.complete_call letter named _
  · exact ⟨nofun, nofun⟩
  · exact nofun
  · intro reading next idle read j inside
    match j, inside with
    | 0, _ => exact unfinished_backslash rfl rfl
    | 1, _ =>
      have bare : Lexes frames start ['\\', c] [⟨.field c, start⟩, ⟨.endOfInput, start + 2⟩] :=
        .field letter nofun .done
      obtain ⟨middle, stepped, -⟩ := bind_eq_ok.mp read
      have middleIdle := (Reading.moves_of_step stepped).idle ⟨nofun, nofun⟩ nofun
      change Unfinished _ _ (reading.through frames start ['\\', c])
      rw [Reading.through_of_lexes bare, Reading.run_of_step stepped]
      exact unfinished_end middleIdle _ _ _

theorem Reading.run_letterG {reading : Reading} (idle : reading.phase.Idle) (rest : List Lexeme) :
    reading.run (⟨.field 'g', start⟩ :: rest) = .error ⟨.unknownField 'g', start⟩ := by
  rcases reading with ⟨levels, draft, phase⟩
  cases phase with
  | codes opened codes semicolon => exact idle.elim
  | _ => rfl

theorem Cuts.group (kind : GroupKind) {rest : Text}
    (others : Cuts (.group kind :: frames) (start + kind.opener.length) rest more) :
    Cuts frames start (kind.opener ++ rest) (⟨.groupOpen kind, start⟩ :: more) := by
  have ends : EndsCodes ⟨.groupOpen kind, start⟩ := ⟨nofun, nofun⟩
  have scans : ∀ j, Scan.complete ⟨start, [], frames, .plain⟩ (kind.opener ++ rest.take j) =
      Scan.complete ⟨start + kind.opener.length, [⟨.groupOpen kind, start⟩],
        .group kind :: frames, .plain⟩ (rest.take j) := fun j => Scan.complete_group kind _
  apply others.lexeme ⟨.groupOpen kind, start⟩ kind.opener rfl scans ends nofun
  intro reading next idle stepped j inside
  cases kind with
  | bare =>
    match j, inside with
    | 0, _ => exact unfinished_backslash rfl rfl
    | 1, _ =>
      have field : Lexes frames start ['\\', 'g'] [⟨.field 'g', start⟩, ⟨.endOfInput, start + 2⟩] :=
        .field rfl nofun .done
      change Unfinished _ _ (reading.through frames start ['\\', 'g'])
      rw [Reading.through_of_lexes field, Reading.run_letterG idle]
      rintro error ⟨⟩
      exact ⟨start, List.mem_cons_self, rfl⟩
  | _ =>
    match j, inside with
    | 0, _ => exact unfinished_backslash rfl rfl

theorem Reading.exists_step_separator {reading : Reading} (idle : reading.phase.Idle) (run : Text) :
    ∃ next, reading.step ⟨.separator run, start⟩ = .ok next ∧ next.phase.Idle := by
  rcases reading with ⟨levels, draft, phase⟩
  cases phase with
  | codes opened codes semicolon => exact idle.elim
  | _ => exact ⟨_, rfl, trivial⟩

theorem Cuts.separator {text rest : Text} (nonempty : text ≠ [])
    (run : ∀ c ∈ text, (Scope.within frames).Separates separators c)
    (whole : ∀ c ∈ rest.head?, ¬ (Scope.within frames).Separates separators c)
    (others : Cuts frames (start + text.length) rest more) :
    Cuts frames start (text ++ rest) (⟨.separator text, start⟩ :: more) := by
  have still : ∀ j, ∀ c ∈ (rest.take j).head?, ¬ (Scope.within frames).Separates separators c :=
    fun j c next => whole c (mem_head?_of_take next)
  apply others.lexeme ⟨.separator text, start⟩ text rfl
  · exact fun j => Scan.complete_separator nonempty run (still j)
  · exact ⟨nofun, nofun⟩
  · exact nofun
  · intro reading next idle stepped j inside
    have some : text.take (j + 1) ≠ [] := by simpa using nonempty
    have shorter : Lexes frames start (text.take (j + 1) ++ []) _ :=
      .separator some (fun c member => run c (List.mem_of_mem_take member)) nofun .done
    obtain ⟨after, spaced, afterIdle⟩ := Reading.exists_step_separator idle (text.take (j + 1))
    rw [List.append_nil] at shorter
    rw [Reading.through_of_lexes shorter, Reading.run_of_step spaced]
    exact unfinished_end afterIdle _ _ _

theorem Cuts.literal {text rest : Text} (plain : ∀ c ∈ text, c ≠ '\'' ∧ c ≠ '\\')
    (others : Cuts frames (start + text.length + 2) rest more) :
    Cuts frames start ('\'' :: text ++ '\'' :: rest) (⟨.literal text, start⟩ :: more) := by
  have split : ∀ rest, '\'' :: text ++ '\'' :: rest = '\'' :: text ++ ['\''] ++ rest := by simp
  rw [split]
  apply others.lexeme ⟨.literal text, start⟩ ('\'' :: text ++ ['\'']) (by simp; omega)
  · intro j
    rw [← split]
    exact Scan.complete_literal plain _
  · exact ⟨nofun, nofun⟩
  · exact nofun
  · intro reading next idle stepped j inside
    have short : j ≤ text.length := by
      simp at inside
      omega
    have clean : ∀ c ∈ text.take j, c ≠ '\'' ∧ c ≠ '\\' :=
      fun c member => plain c (List.mem_of_mem_take member)
    rw [List.cons_append, List.take_succ_cons, List.take_append_of_le_length short,
      Reading.through, Scan.complete_open clean]
    rintro error ⟨⟩
    exact trivial

theorem CodesLex.behind {rest other list : Text} {codes : List Lexeme}
    (lexed : CodesLex rest start list codes) (same : other.head? = rest.head?) :
    CodesLex other start list codes := by
  induction lexed with
  | done => exact .done
  | semicolon others ih => exact .semicolon ih
  | single alone others ih => exact .single alone ih
  | number nonempty ascii whole others ih => exact .number nonempty ascii whole ih
  | colour ground inside others ih => exact .colour ground inside ih
  | unclosed ground inside cut => exact .unclosed ground inside (same ▸ cut)

theorem Reading.Moves.opensCodes {reading next : Reading} {lexeme : Lexeme}
    (moves : Moves reading lexeme next) (style : lexeme.token = .styleOpen) :
    ∃ levels draft, next = ⟨levels, draft, .codes lexeme.offset [] none⟩ := by
  induction moves with
  | bare other moves ih => exact ih style
  | style place => exact ⟨_, _, rfl⟩
  | _ => cases style

theorem Reading.exists_run_of_style {reading final : Reading} {place : Nat} {rest : List Lexeme}
    (finished : reading.run (⟨.styleOpen, place⟩ :: rest) = .ok final) :
    ∃ levels draft, reading.step ⟨.styleOpen, place⟩ = .ok ⟨levels, draft, .codes place [] none⟩ ∧
      run ⟨levels, draft, .codes place [] none⟩ rest = .ok final := by
  obtain ⟨next, stepped, later⟩ := bind_eq_ok.mp finished
  obtain ⟨levels, draft, rfl⟩ := (moves_of_step stepped).opensCodes rfl
  exact ⟨levels, draft, stepped, later⟩

theorem Cuts.style {list rest : Text} {codes : List Lexeme}
    (listed : CodesLex ('(' :: rest) (start + 1) list codes)
    (others : Cuts (.style :: frames) (start + list.length + 2) rest more) :
    Cuts frames start ('#' :: list ++ '(' :: rest)
      (⟨.styleOpen, start⟩ :: codes ++ ⟨.parenOpen, start + list.length + 1⟩ :: more) := by
  have text : ∀ rest, '#' :: list ++ '(' :: rest = '#' :: list ++ ['('] ++ rest := by simp
  have tokens : ⟨.styleOpen, start⟩ :: codes ++ ⟨.parenOpen, start + list.length + 1⟩ :: more =
      ⟨.styleOpen, start⟩ :: codes ++ [⟨.parenOpen, start + list.length + 1⟩] ++ more := by simp
  rw [text, tokens]
  apply others.before (⟨.styleOpen, start⟩ :: codes) _ ('#' :: list ++ ['(']) (by simp; omega)
  · intro j
    have ended : ∀ c ∈ ('(' :: rest.take j).head?, c ∈ codesEnd := by
      rintro c ⟨⟩
      decide
    have place : start + 1 + list.length = start + list.length + 1 := by omega
    have kept : CodesLex ('(' :: rest.take j) (start + 1) list codes := listed.behind rfl
    rw [← text, List.cons_append, Scan.complete_style, Scan.complete_codes kept ended, place,
      Scan.complete_body]
    simp
  · exact ⟨fun _ => Token.noConfusion, Token.noConfusion⟩
  · exact Token.noConfusion
  · intro reading next idle read j inside
    have short : j ≤ list.length := by
      simp at inside
      omega
    have cutText : ('#' :: list ++ ['(']).take (j + 1) = '#' :: list.take j := by
      simp [List.take_append_of_le_length short]
    obtain ⟨levels, draft, stepped, later⟩ := Reading.exists_run_of_style read
    obtain ⟨found, lexed, stopped⟩ := listed.cut later j
    obtain ⟨fault, ended, kind⟩ := stopped (start + (list.take j).length + 1)
    have whole : Lexes frames start ('#' :: list.take j ++ []) (⟨.styleOpen, start⟩ ::
        (found ++ [⟨.endOfInput, start + (list.take j).length + 1⟩])) :=
      .codes lexed (by simp) .done
    rw [List.append_nil] at whole
    rw [cutText, Reading.through_of_lexes whole, Reading.run_of_step stepped, ended]
    rintro error ⟨⟩
    cases kind with
    | inl unexpected =>
      rw [unexpected]
      exact ⟨[], start, codes, start + list.length + 1, more, by simp, listed.inCodes, by omega,
        by omega⟩
    | inr unmatched =>
      rw [unmatched]
      exact trivial

theorem Cuts.bodiless {list rest : Text} {codes : List Lexeme}
    (listed : CodesLex rest (start + 1) list codes)
    (bodiless : ∀ c ∈ rest.head?, c ∈ codesEnd ∧ c ≠ '(')
    (later : Lexes frames (start + list.length + 1) rest more) :
    Cuts frames start ('#' :: list ++ rest) (⟨.styleOpen, start⟩ :: codes ++ more) := by
  intro reading final idle finished
  obtain ⟨found, more, rfl, place, ends, bare⟩ := later.head bodiless
  rw [List.cons_append] at finished
  obtain ⟨levels, draft, -, read⟩ := Reading.exists_run_of_style finished
  have outcome : CodesRead levels draft start found more [] none (start + 1) list
      (Reading.run ⟨levels, draft, .codes start [] none⟩ (codes ++ found :: more)) :=
    listed.codesRead ends (by omega) levels draft start [] none more
  cases outcome with
  | inl fails =>
    obtain ⟨error, failed, -⟩ := fails
    rw [failed] at read
    cases read
  | inr opens => exact absurd opens.1 bare

end

theorem Lexes.cuts {frames : List Frame} {start : Nat} {text : Text} {lexemes : List Lexeme}
    (lexed : Lexes frames start text lexemes) : Cuts frames start text lexemes := by
  -- Each rule takes a piece off the text, and the cut is inside the piece or behind it.
  induction lexed with
  | done =>
    intro reading final idle finished k
    rw [List.take_nil]
    exact unfinished_nothing idle _ _
  | literal plain others ih => exact .literal plain ih
  | escaped special others ih =>
    exact ih.escape _ _ rfl (fun j => Scan.complete_escaped special _) ⟨nofun, nofun⟩ nofun
  | @field frames start c rest more letter bare others ih =>
    have still : ∀ j, (rest.take j).head? ≠ some '(' :=
      fun j paren => bare (mem_head?_of_take paren)
    exact ih.escape _ _ rfl (fun j => Scan.complete_field letter (still j)) ⟨nofun, nofun⟩ nofun
  | call letter other others ih => exact .call letter other ih
  | group kind others ih => exact .group kind ih
  | style listed others ih => exact .style listed ih
  | codes listed bodiless others ih => exact .bodiless listed bodiless others
  | close closer others ih =>
    exact ih.character _ _ (Scan.complete_close closer) ⟨nofun, nofun⟩ nofun
  | comma others ih => exact ih.character _ _ Scan.complete_comma ⟨nofun, nofun⟩ nofun
  | separator nonempty run whole others ih => exact .separator nonempty run whole ih
  | paren others ih => exact ih.character _ _ Scan.complete_paren ⟨nofun, nofun⟩ nofun
  | stray unknown others ih =>
    exact ih.character _ _ (Scan.complete_stray unknown) ⟨nofun, nofun⟩ nofun

theorem parse_eq_through (source : Text) :
    parse source = (Reading.initial.through [] 0 source).map fun reading =>
      reading.draft.sequence := by
  have scanned : Reading.initial.through [] 0 source =
      tokenize source >>= Reading.initial.run := rfl
  rw [parse, scanned]
  cases tokenize source <;> rfl

theorem Lexes.exists_text {source : Text} {lexemes : List Lexeme} {lexeme : Lexeme}
    (lexed : Lexes [] 0 source lexemes) (member : lexeme ∈ lexemes) :
    ∃ before after, source = before ++ lexeme.token.source ++ after ∧
      lexeme.offset = before.length := by
  obtain ⟨before, after, split⟩ := List.append_of_mem member
  obtain ⟨whole, placed⟩ := lexed.layout
  refine ⟨written before, written after, ?_, placed.of_split split⟩
  rw [← whole, split]
  simp

theorem Lexes.getElem?_offset {source : Text} {lexemes : List Lexeme} {c : Char}
    (lexed : Lexes [] 0 source lexemes) (lexeme : Lexeme) (member : lexeme ∈ lexemes)
    (begins : lexeme.token.source.head? = some c) : source[lexeme.offset]? = some c := by
  obtain ⟨before, after, split, place⟩ := lexed.exists_text member
  obtain ⟨tail, starts⟩ := List.head?_eq_some_iff.mp begins
  rw [split, place, starts]
  simp

theorem suffix_take {source before piece after : Text} (split : source = before ++ piece ++ after) :
    piece <:+ source.take (before.length + piece.length) := by
  subst split
  rw [← List.length_append, List.take_left]
  exact List.suffix_append before piece

section
variable {source : Text} {lexemes : List Lexeme} {k : Nat}

theorem CutAt.escape_text (cut : CutAt lexemes k .unrecognizedEscape)
    (lexed : Lexes [] 0 source lexemes) : ['\\'] <:+ source.take k := by
  obtain ⟨lexeme, member, escape, rfl⟩ := cut
  obtain ⟨before, after, split, place⟩ := lexed.exists_text member
  obtain ⟨tail, starts⟩ := List.head?_eq_some_iff.mp escape
  have parted : source = before ++ ['\\'] ++ (tail ++ after) := by simp [split, starts]
  rw [place]
  exact suffix_take parted

theorem CutAt.field_text (cut : CutAt lexemes k .unknownField)
    (lexed : Lexes [] 0 source lexemes) :
    ['\\', 'g'] <:+ source.take k ∧ source[k]? = some '(' := by
  obtain ⟨offset, member, rfl⟩ := cut
  obtain ⟨before, after, split, rfl⟩ := lexed.exists_text member
  have parted : source = before ++ ['\\', 'g'] ++ '(' :: after := by
    simp [split, Token.source, GroupKind.opener]
  refine ⟨suffix_take parted, ?_⟩
  rw [parted, List.getElem?_append_right (by simp)]
  simp

theorem CutAt.style_text (cut : CutAt lexemes k .unexpectedToken)
    (lexed : Lexes [] 0 source lexemes) :
    ∃ opened body, source[opened]? = some '#' ∧ source[body]? = some '(' ∧ opened < k ∧
      k ≤ body := by
  obtain ⟨before, opened, codes, body, after, rfl, -, inside⟩ := cut
  have hash := lexed.getElem?_offset ⟨.styleOpen, opened⟩ (by simp) rfl
  have paren := lexed.getElem?_offset ⟨.parenOpen, body⟩ (by simp) rfl
  exact ⟨opened, body, hash, paren, inside⟩

end

/-- The beginning of a format is a format, or it has an error of input that is not finished. Where
the format is cut decides which error it can be. -/
theorem parse_take_unfinished {source : Text} {tree : Sequence} (parsed : parse source = .ok tree)
    (k : Nat) :
    (∃ read, parse (source.take k) = .ok read) ∨
      ∃ error lexemes, parse (source.take k) = .error error ∧ tokenize source = .ok lexemes ∧
        CutAt lexemes k error.kind ∧
        (error.kind = .unrecognizedEscape → ['\\'] <:+ source.take k) ∧
        (error.kind = .unknownField → ['\\', 'g'] <:+ source.take k ∧ source[k]? = some '(') ∧
        (error.kind = .unexpectedToken → ∃ opened body, source[opened]? = some '#' ∧
          source[body]? = some '(' ∧ opened < k ∧ k ≤ body) := by
  obtain ⟨lexemes, lexed, finished⟩ := (parse_eq_ok_iff.mp parsed).run
  have unfinished := lexed.cuts Reading.initial _ trivial finished k
  rw [Nat.zero_add] at unfinished
  rw [parse_eq_through]
  cases outcome : Reading.initial.through [] 0 (source.take k) with
  | ok reading => exact .inl ⟨_, rfl⟩
  | error error =>
    have cut := unfinished error outcome
    refine .inr ⟨error, lexemes, rfl, tokenize_eq_ok_iff.mpr lexed, cut, ?_, ?_, ?_⟩
    · intro kind
      rw [kind] at cut
      exact cut.escape_text lexed
    · intro kind
      rw [kind] at cut
      exact cut.field_text lexed
    · intro kind
      rw [kind] at cut
      exact cut.style_text lexed

theorem parse_take_unfinished_group :
    ∃ tree lexemes, parse "\\g('a'#12(\\b))".toList = .ok tree ∧
      tokenize "\\g('a'#12(\\b))".toList = .ok lexemes ∧
      (∃ error, parse "\\g".toList = .error error ∧ error.kind = .unknownField ∧
        CutAt lexemes 2 .unknownField) ∧
      ∃ error, parse "\\g('a'#1".toList = .error error ∧ error.kind = .unexpectedToken ∧
        CutAt lexemes 8 .unexpectedToken := by
  have parsed : parse "\\g('a'#12(\\b))".toList = .ok (.item []
      (.group .bare (.item [] (.literal ['a']) (.item []
        (.style [.indexed 12] (.item [] (.field .branch .nil 10) (.done []))) (.done []))))
      (.done [])) := rfl
  have group : parse "\\g".toList = .error ⟨.unknownField 'g', 0⟩ := rfl
  have number : parse "\\g('a'#1".toList = .error ⟨.noBody .endOfInput, 8⟩ := rfl
  cases parse_take_unfinished parsed 2 with
  | inl read =>
    obtain ⟨read, again⟩ := read
    cases group.symm.trans again
  | inr first =>
    obtain ⟨error, lexemes, failed, tokenized, cut, -⟩ := first
    cases group.symm.trans failed
    cases parse_take_unfinished parsed 8 with
    | inl read =>
      obtain ⟨read, again⟩ := read
      cases number.symm.trans again
    | inr second =>
      obtain ⟨error, same, failed, again, later, -⟩ := second
      cases number.symm.trans failed
      cases tokenized.symm.trans again
      exact ⟨_, lexemes, parsed, tokenized, ⟨_, group, rfl, cut⟩, _, number, rfl, later⟩

end GitPrompt.Format
