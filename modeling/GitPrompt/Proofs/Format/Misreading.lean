import GitPrompt.Proofs.Format.Rounds

/-!
What stands in a format where it cannot be split into tokens: a quote that nothing closes in time,
or a backslash that begins nothing.
-/
namespace GitPrompt.Format

/-- What is wrong with a text whose first token cannot be read. -/
inductive Misread : Text → Fault → Prop
  | literalOpen {inner : Text} (plain : ∀ c ∈ inner, isSpecial c = false) :
      Misread ('\'' :: inner) .literalOpen
  | literalCut {inner : Text} (plain : ∀ c ∈ inner, isSpecial c = false) (rest : Text) :
      Misread ('\'' :: inner ++ '\\' :: rest) .literalBeforeBackslash
  | loneBackslash : Misread ['\\'] .loneBackslash
  | escape {c : Char} (opens : GroupKind.ofChar? c = none) (ordinary : isSpecial c = false)
      (letter : isFieldLetter c = false) (rest : Text) :
      Misread ('\\' :: c :: rest) (.unrecognizedEscape c)

namespace Round

variable {frames : List Frame} {start : Nat} {error : FormatError}

theorem misread_of_quote {tail : Text} (failed : quote frames start tail = .error error) :
    error.offset = start ∧ Misread ('\'' :: tail) error.fault := by
  rcases exists_run (fun c => !isSpecial c) tail with ⟨inner, after, split, taken, run, stop⟩
  have plain : ∀ c ∈ inner, isSpecial c = false := by
    intro c member
    simpa using run c member
  simp only [quote, taken] at failed
  subst split
  simp only [List.drop_left] at failed
  cases after with
  | nil =>
    cases failed
    rw [List.append_nil]
    exact ⟨rfl, .literalOpen plain⟩
  | cons d rest =>
    by_cases closed : d = '\''
    · simp only [if_pos closed] at failed
      cases failed
    · have cut : d = '\\' := by simpa [closed, isSpecial] using stop d rfl
      simp only [if_neg closed] at failed
      cases failed
      rw [cut]
      exact ⟨rfl, .literalCut plain rest⟩

theorem misread_of_backslash {tail : Text} (failed : backslash frames start tail = .error error) :
    error.offset = start ∧ Misread ('\\' :: tail) error.fault := by
  match tail with
  | [] =>
    cases failed
    exact ⟨rfl, .loneBackslash⟩
  | c :: rest =>
    simp only [backslash] at failed
    split at failed
    · cases failed
    rename_i opens
    split at failed
    · cases failed
    split at failed
    · cases failed
    rename_i special
    split at failed
    · split at failed <;> cases failed
    rename_i named
    cases failed
    have ordinary : isSpecial c = false := by simpa using special
    have letter : isFieldLetter c = false := by
      rw [isFieldLetter, Bool.eq_false_iff.mpr named, Bool.and_false]
    exact ⟨rfl, .escape opens ordinary letter rest⟩

theorem misread_of_next {c : Char} {tail : Text}
    (failed : next frames start c tail = .error error) :
    error.offset = start ∧ Misread (c :: tail) error.fault := by
  unfold next at failed
  split at failed
  · subst c
    exact misread_of_quote failed
  · split at failed
    · subst c
      exact misread_of_backslash failed
    · split at failed <;> cases failed

end Round

theorem misread_of_rounds {frames : List Frame} {start : Nat} {text : Text} {error : FormatError}
    (failed : rounds frames start text = .error error) :
    start ≤ error.offset ∧ Misread (text.drop (error.offset - start)) error.fault := by
  fun_induction rounds frames start text with
  | case1 frames start => cases failed
  | case2 frames start c tail found stopped =>
    cases failed
    rcases Round.misread_of_next stopped with ⟨place, misread⟩
    rw [place, Nat.sub_self]
    exact ⟨Nat.le_refl start, misread⟩
  | case3 frames start c tail round found ih =>
    -- The error is in a later round, and its place is told from where that round starts.
    cases later : rounds round.frames (start + round.length) ((c :: tail).drop round.length) with
    | ok more =>
      rw [later] at failed
      cases failed
    | error stopped =>
      rw [later] at failed
      cases failed
      rcases ih later with ⟨behind, misread⟩
      have place : round.length + (error.offset - (start + round.length)) =
          error.offset - start := by omega
      rw [List.drop_drop, place] at misread
      exact ⟨by omega, misread⟩

theorem misread_of_tokenize {source : Text} {error : FormatError}
    (failed : tokenize source = .error error) :
    Misread (source.drop error.offset) error.fault := by
  rw [tokenize_eq_rounds] at failed
  exact (misread_of_rounds failed).2

end GitPrompt.Format
