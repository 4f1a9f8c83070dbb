import GitPrompt.Proofs.Format.Lexing
import GitPrompt.Proofs.Format.Steps

/-!
Where a format can be cut. Before each of its tokens, and before what its scan has begun and not
ended yet, the format has just the tokens that the scan had found there.
-/
namespace GitPrompt.Format

namespace Scan

def GoesOn (scan next : Scan) : Prop :=
  ∃ start, scan.mode.start? = some start ∧ next.mode.start? = some start ∧
    next.lexemes = scan.lexemes ∧ (next.mode.mayEnd = false → scan.mode.mayEnd = false)

def Completes (scan next : Scan) : Prop :=
  ∃ start token, scan.mode.start? = some start ∧ next.mode.start? = none ∧
    next.lexemes = ⟨token, start⟩ :: scan.lexemes

def Begins (scan next : Scan) : Prop :=
  next.lexemes = scan.lexemes ∧ next.mode.start? = some scan.offset ∨
    ∃ token, next.lexemes = ⟨token, scan.offset⟩ :: scan.lexemes ∧ next.mode.start? = none

theorem begins_readPlain (scan : Scan) (c : Char) : scan.Begins (scan.readPlain c) := by
  unfold readPlain
  split
  · exact .inl ⟨rfl, rfl⟩
  split
  · exact .inl ⟨rfl, rfl⟩
  split
  · exact .inr ⟨.styleOpen, rfl, rfl⟩
  split
  · rename_i closer _
    rw [leave_eq]
    exact .inr ⟨.close closer, rfl, rfl⟩
  split
  · exact .inr ⟨.comma, rfl, rfl⟩
  split
  · exact .inl ⟨rfl, rfl⟩
  split
  · exact .inr ⟨.parenOpen, rfl, rfl⟩
  · exact .inr ⟨.unknown c, rfl, rfl⟩

theorem begins_readCodes (scan : Scan) (c : Char) : scan.Begins (scan.readCodes c) := by
  unfold readCodes
  split
  · exact .inr ⟨.parenOpen, rfl, rfl⟩
  split
  · exact scan.begins_readPlain c
  split
  · exact .inr ⟨.semicolon, rfl, rfl⟩
  split
  · exact .inl ⟨rfl, rfl⟩
  split
  · exact .inl ⟨rfl, rfl⟩
  split
  · exact .inl ⟨rfl, rfl⟩
  · exact .inr ⟨.styleCode [c], rfl, rfl⟩

/-- A character goes on with what is being read or completes it. Where nothing is being read, or
where it has ended before the character, the character begins something new. -/
theorem step_cases {scan next : Scan} {c : Char} (stepped : scan.step c = .ok next) :
    scan.GoesOn next ∨ scan.Completes next ∨
      scan.mode.mayEnd = true ∧ scan.settle.Begins next := by
  rcases exists_reads_of_step stepped with ⟨after, reads, moved⟩
  subst moved
  have ends : ∀ mode, scan.settle.mode = mode → mode.mayEnd = true →
      scan.mode.mayEnd = true := by
    intro mode settled may
    rw [← scan.mayEnd_settle, settled, may]
  cases reads with
  | plain mode => exact .inr (.inr ⟨ends _ mode rfl, scan.settle.begins_readPlain c⟩)
  | uncalled mode other => exact .inr (.inr ⟨ends _ mode rfl, scan.settle.begins_readPlain c⟩)
  | codes mode => exact .inr (.inr ⟨ends _ mode rfl, scan.settle.begins_readCodes c⟩)
  | called mode =>
    rcases scan with ⟨offset, lexemes, frames, same⟩
    cases mode
    exact .inr (.inr ⟨rfl, .inr ⟨.parenOpen, rfl, rfl⟩⟩)
  | separator mode => exact .inl ⟨_, by rw [mode]; rfl, rfl, rfl, nofun⟩
  | digit mode => exact .inl ⟨_, by rw [mode]; rfl, rfl, rfl, nofun⟩
  | colour mode => exact .inl ⟨_, by rw [mode]; rfl, rfl, rfl, nofun⟩
  | letterG mode => exact .inl ⟨_, by rw [mode]; rfl, rfl, rfl, nofun⟩
  | literal mode => exact .inl ⟨_, by rw [mode]; rfl, rfl, rfl, fun _ => by rw [mode]; rfl⟩
  | bracket mode => exact .inr (.inl ⟨_, _, by rw [mode]; rfl, rfl, rfl⟩)
  | quote mode => exact .inr (.inl ⟨_, _, by rw [mode]; rfl, rfl, rfl⟩)
  | group kind mode => exact .inr (.inl ⟨_, _, by rw [mode]; rfl, rfl, rfl⟩)
  | bare mode => exact .inr (.inl ⟨_, _, by rw [mode]; rfl, rfl, rfl⟩)
  | escaped mode => exact .inr (.inl ⟨_, _, by rw [mode]; rfl, rfl, rfl⟩)
  | field mode => exact .inr (.inl ⟨_, _, by rw [mode]; rfl, rfl, rfl⟩)

end Scan

/-- A text that is cut at a place has the given lexemes there, the latest first, and no others. -/
def CutHere (text : Text) (earlier : List Lexeme) (place : Nat) : Prop :=
  place ≤ text.length ∧
    tokenize (text.take place) = .ok (⟨.endOfInput, place⟩ :: earlier).reverse

def CutBefore (text : Text) : List Lexeme → Prop
  | [] => True
  | lexeme :: earlier => CutHere text earlier lexeme.offset ∧ CutBefore text earlier

theorem CutHere.append {text : Text} {earlier : List Lexeme} {place : Nat}
    (cut : CutHere text earlier place) (more : Text) : CutHere (text ++ more) earlier place := by
  refine ⟨?_, ?_⟩
  · rw [List.length_append]
    exact Nat.le_add_right_of_le cut.1
  · rw [List.take_append_of_le_length cut.1]
    exact cut.2

theorem CutBefore.append {text : Text} {lexemes : List Lexeme} (cut : CutBefore text lexemes)
    (more : Text) : CutBefore (text ++ more) lexemes := by
  induction lexemes with
  | nil => trivial
  | cons lexeme earlier ih => exact ⟨cut.1.append more, ih cut.2⟩

theorem CutBefore.of_split {text : Text} {later earlier : List Lexeme} {lexeme : Lexeme}
    (cut : CutBefore text (later ++ lexeme :: earlier)) : CutHere text earlier lexeme.offset := by
  induction later with
  | nil => exact cut.1
  | cons other later ih => exact ih cut.2

/-- A scan that has read a text. The text can be cut before each lexeme found in it and before
what is being read. If that must still be ended, the text cannot be cut behind its beginning. -/
structure Scan.HasRead (scan : Scan) (text : Text) : Prop where
  run : Scan.initial.run text = .ok scan
  place : scan.offset = text.length
  found : CutBefore text scan.lexemes
  begun : ∀ start, scan.mode.start? = some start → CutHere text scan.lexemes start
  unended : ∀ start, scan.mode.start? = some start → scan.mode.mayEnd = false →
    ∀ k, start < k → k ≤ text.length → ∃ error, tokenize (text.take k) = .error error

namespace Scan

theorem exists_error_of_run {scan : Scan} {text : Text} (run : initial.run text = .ok scan)
    (unended : scan.mode.mayEnd = false) : ∃ error, tokenize text = .error error := by
  rcases finish_eq_error unended with ⟨error, failed, -⟩
  refine ⟨error, ?_⟩
  rw [tokenize, run]
  exact failed

namespace HasRead

variable {text : Text} {scan next : Scan} {c : Char}

theorem of_found (run : initial.run text = .ok scan) (place : scan.offset = text.length)
    (now : scan.mode.start? = none) (found : CutBefore text scan.lexemes) :
    scan.HasRead text where
  run := run
  place := place
  found := found
  begun := by
    intro start begun
    rw [now] at begun
    cases begun
  unended := by
    intro start begun
    rw [now] at begun
    cases begun

theorem of_begun {start : Nat} (run : initial.run text = .ok scan)
    (place : scan.offset = text.length) (now : scan.mode.start? = some start)
    (found : CutBefore text scan.lexemes) (cut : CutHere text scan.lexemes start)
    (unended : scan.mode.mayEnd = false →
      ∀ k, start < k → k ≤ text.length → ∃ error, tokenize (text.take k) = .error error) :
    scan.HasRead text where
  run := run
  place := place
  found := found
  begun := by
    intro other begun
    rw [now] at begun
    cases begun
    exact cut
  unended := by
    intro other begun
    rw [now] at begun
    cases begun
    exact unended

theorem cutHere (hasRead : scan.HasRead text) (ends : scan.mode.mayEnd = true) :
    CutHere text scan.settle.lexemes scan.offset := by
  refine ⟨Nat.le_of_eq hasRead.place, ?_⟩
  rw [hasRead.place, List.take_length, tokenize, hasRead.run, ← hasRead.place]
  exact finish_eq_ok ends

theorem settle (hasRead : scan.HasRead text) : CutBefore text scan.settle.lexemes := by
  have found := hasRead.found
  have begun := hasRead.begun
  rcases scan with ⟨offset, lexemes, frames, mode⟩
  cases mode with
  | separator start text => exact ⟨begun start rfl, found⟩
  | letterG start => exact ⟨begun start rfl, found⟩
  | number start digits => exact ⟨begun start rfl, found⟩
  | colour start closer text => exact ⟨begun start rfl, found⟩
  | _ => exact found

theorem run_step (hasRead : scan.HasRead text) (stepped : scan.step c = .ok next) :
    initial.run (text ++ [c]) = .ok next := by
  rw [run_append, hasRead.run]
  change scan.run [c] = .ok next
  rw [run_cons, stepped]
  rfl

theorem unended_concat {start : Nat} (run : initial.run (text ++ [c]) = .ok next)
    (unended : next.mode.mayEnd = false)
    (before : ∀ k, start < k → k ≤ text.length → ∃ error, tokenize (text.take k) = .error error) :
    ∀ k, start < k → k ≤ (text ++ [c]).length →
      ∃ error, tokenize ((text ++ [c]).take k) = .error error := by
  intro k behind inside
  rw [List.length_append, List.length_singleton] at inside
  rcases Nat.lt_or_ge text.length k with whole | early
  · have all : (text ++ [c]).take k = text ++ [c] := by
      apply List.take_of_length_le
      rw [List.length_append, List.length_singleton]
      exact whole
    rw [all]
    exact exists_error_of_run run unended
  · rw [List.take_append_of_le_length early]
    exact before k behind early

theorem step (hasRead : scan.HasRead text) (stepped : scan.step c = .ok next) :
    next.HasRead (text ++ [c]) := by
  have run := hasRead.run_step stepped
  have place : next.offset = (text ++ [c]).length := by
    rw [offset_of_step stepped, hasRead.place, List.length_append, List.length_singleton]
  rcases step_cases stepped with
    ⟨start, before, now, lexemes, still⟩ | ⟨start, token, before, now, lexemes⟩ | ⟨ends, begins⟩
  · have found := hasRead.found.append [c]
    have cut := (hasRead.begun start before).append [c]
    rw [← lexemes] at found cut
    refine of_begun run place now found cut ?_
    intro unended
    exact unended_concat run unended (hasRead.unended start before (still unended))
  · have found := hasRead.found.append [c]
    have cut := (hasRead.begun start before).append [c]
    exact of_found run place now (lexemes ▸ ⟨cut, found⟩)
  · have found := hasRead.settle.append [c]
    have cut := (hasRead.cutHere ends).append [c]
    rcases begins with ⟨lexemes, now⟩ | ⟨token, lexemes, now⟩
    · rw [← lexemes] at found cut
      rw [settle_offset] at now
      refine of_begun run place now found cut ?_
      intro unended
      apply unended_concat run unended
      intro k behind inside
      rw [hasRead.place] at behind
      omega
    · rw [settle_offset] at lexemes
      exact of_found run place now (lexemes ▸ ⟨cut, found⟩)

theorem run_more (hasRead : scan.HasRead text) {more : Text} (run : scan.run more = .ok next) :
    next.HasRead (text ++ more) := by
  induction more generalizing text scan with
  | nil =>
    cases run
    rw [List.append_nil]
    exact hasRead
  | cons c more ih =>
    rcases bind_eq_ok.mp run with ⟨after, stepped, later⟩
    have whole := ih (hasRead.step stepped) later
    rwa [List.append_assoc] at whole

end HasRead

theorem hasRead_of_run {text : Text} {scan : Scan} (run : initial.run text = .ok scan) :
    scan.HasRead text := by
  have start : initial.HasRead [] := .of_found rfl rfl rfl trivial
  exact start.run_more run

end Scan

theorem tokenize_take {source : Text} {before after : List Lexeme} {lexeme : Lexeme}
    (tokenized : tokenize source = .ok (before ++ lexeme :: after)) :
    tokenize (source.take lexeme.offset) = .ok (before ++ [⟨.endOfInput, lexeme.offset⟩]) := by
  rcases Scan.exists_run_of_tokenize tokenized with ⟨scan, run, ends, lexemes⟩
  have hasRead := Scan.hasRead_of_run run
  have cut : CutBefore source (⟨.endOfInput, scan.offset⟩ :: scan.settle.lexemes) :=
    ⟨hasRead.cutHere ends, hasRead.settle⟩
  have split : (before ++ lexeme :: after).reverse = after.reverse ++ lexeme :: before.reverse := by
    simp
  rw [lexemes, split] at cut
  simpa using cut.of_split.2

end GitPrompt.Format
