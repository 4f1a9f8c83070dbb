import GitPrompt.Proofs.Folding
import GitPrompt.Proofs.Format.Boundaries
import GitPrompt.Proofs.Format.Misreading

/-!
Where the scan of a format stops. The error stands at the quote or the backslash that nothing ends
as it should. The format up to there has the tokens that were found, no longer beginning of it can
be split into tokens, and what is written behind the format changes nothing.
-/
namespace GitPrompt.Format

namespace Scan

/-- A scan of the source that ends with an error, at the next character or at the end. -/
inductive Fails (scan : Scan) (source : Text) (error : FormatError) : Prop
  | character {read rest : Text} {c : Char} (split : source = read ++ c :: rest)
      (reached : initial.run read = .ok scan) (failed : scan.step c = .error error)
  | ending (reached : initial.run source = .ok scan) (failed : scan.finish = .error error)

theorem exists_fails {source : Text} {error : FormatError}
    (failed : tokenize source = .error error) : ∃ scan : Scan, scan.Fails source error := by
  rcases bind_eq_error.mp failed with stopped | ⟨scan, reached, unfinished⟩
  · rcases exists_of_foldlM_error stopped with ⟨read, c, rest, scan, split, reached, stopped⟩
    exact ⟨scan, .character split reached stopped⟩
  · exact ⟨scan, .ending reached unfinished⟩

theorem tokenize_of_step_error {scan : Scan} {read : Text} {c : Char} {error : FormatError}
    (reached : initial.run read = .ok scan) (failed : scan.step c = .error error) (rest : Text) :
    tokenize (read ++ c :: rest) = .error error := by
  rw [tokenize, run_append, reached]
  change (scan.run (c :: rest) >>= finish) = .error error
  rw [run_cons, failed]
  rfl

namespace Fails

variable {scan : Scan} {source : Text} {error : FormatError}

theorem exists_read (fails : scan.Fails source error) :
    ∃ read rest, source = read ++ rest ∧ scan.HasRead read ∧
      scan.mode.start? = some error.offset ∧ scan.mode.mayEnd = false ∧
      ∀ k, read.length < k → tokenize (source.take k) = .error error := by
  cases fails with
  | @character read rest c split reached failed =>
    rcases start_of_step_error failed with ⟨start, unended⟩
    refine ⟨read, c :: rest, split, hasRead_of_run reached, start, unended, ?_⟩
    intro k behind
    have more : (c :: rest).take (k - read.length) = c :: rest.take (k - read.length - 1) := by
      rw [List.take_cons (by omega)]
    rw [split, List.take_append, List.take_of_length_le (Nat.le_of_lt behind), more]
    exact tokenize_of_step_error reached failed _
  | ending reached failed =>
    rcases start_of_finish_error failed with ⟨start, unended, -⟩
    refine ⟨source, [], by rw [List.append_nil], hasRead_of_run reached, start, unended, ?_⟩
    intro k behind
    rw [List.take_of_length_le (Nat.le_of_lt behind), tokenize, reached]
    exact failed

theorem tokenize_take (fails : scan.Fails source error) :
    tokenize (source.take error.offset) =
      .ok (scan.lexemes.reverse ++ [⟨.endOfInput, error.offset⟩]) := by
  rcases fails.exists_read with ⟨read, rest, split, hasRead, start, -, -⟩
  rcases hasRead.begun error.offset start with ⟨inside, cut⟩
  rw [split, List.take_append_of_le_length inside, cut, List.reverse_cons]

theorem exists_error_take (fails : scan.Fails source error) {k : Nat} (behind : error.offset < k) :
    ∃ other, tokenize (source.take k) = .error other := by
  rcases fails.exists_read with ⟨read, rest, split, hasRead, start, unended, later⟩
  rcases Nat.lt_or_ge read.length k with outside | inside
  · exact ⟨error, later k outside⟩
  · rw [split, List.take_append_of_le_length inside]
    exact hasRead.unended error.offset start unended k behind inside

end Fails
end Scan

/-- A literal or a backslash that the text ends in. -/
def Unended (text : Text) : Prop :=
  (∃ inner, text = '\'' :: inner ∧ ∀ c ∈ inner, c ≠ '\'' ∧ c ≠ '\\') ∨ text = ['\\']

theorem Misread.unended {text : Text} {fault : Fault} (misread : Misread text fault)
    (runs : fault = .literalOpen ∨ fault = .loneBackslash) : Unended text := by
  cases misread with
  | literalOpen plain =>
    refine .inl ⟨_, rfl, ?_⟩
    intro c member
    have ordinary := plain c member
    simp only [isSpecial, Bool.or_eq_false_iff, beq_eq_false_iff_ne] at ordinary
    exact ⟨ordinary.2, ordinary.1⟩
  | loneBackslash => exact .inr rfl
  | literalCut plain rest => rcases runs with same | same <;> cases same
  | escape opens ordinary letter rest => rcases runs with same | same <;> cases same

theorem Misread.begins {text : Text} {fault : Fault} (misread : Misread text fault) :
    fault.kind = .unterminatedLiteral ∧ text.head? = some '\'' ∨
      fault.kind = .unrecognizedEscape ∧ text.head? = some '\\' := by
  cases misread with
  | literalOpen plain => exact .inl ⟨rfl, rfl⟩
  | literalCut plain rest => exact .inl ⟨rfl, rfl⟩
  | loneBackslash => exact .inr ⟨rfl, rfl⟩
  | escape opens ordinary letter rest => exact .inr ⟨rfl, rfl⟩

theorem tokenize_append_of_error {source : Text} {error : FormatError}
    (failed : tokenize source = .error error) (ended : ¬ Unended (source.drop error.offset))
    (more : Text) : tokenize (source ++ more) = .error error := by
  rcases Scan.exists_fails failed with ⟨scan, fails⟩
  cases fails with
  | @character read rest c split reached stopped =>
    rw [split, List.append_assoc, List.cons_append]
    exact Scan.tokenize_of_step_error reached stopped (rest ++ more)
  | ending reached stopped =>
    have runs := (Scan.start_of_finish_error stopped).2.2
    exact absurd ((misread_of_tokenize failed).unended runs) ended

/-- An error of the scan stands at the end of the longest beginning of the source that can be split
into tokens, which are those that were found before it. -/
theorem tokenize_error_exact {source : Text} {error : FormatError}
    (failed : tokenize source = .error error) :
    (error.kind = .unterminatedLiteral ∧ source[error.offset]? = some '\'' ∨
      error.kind = .unrecognizedEscape ∧ source[error.offset]? = some '\\') ∧
    (∃ lexemes, tokenize (source.take error.offset) = .ok lexemes) ∧
    (∀ k, error.offset < k → ∃ other, tokenize (source.take k) = .error other) ∧
    (¬ Unended (source.drop error.offset) →
      ∀ more, tokenize (source ++ more) = .error error) ∧
    (∃ scan : Scan, scan.Fails source error) ∧
    ∀ scan : Scan, scan.Fails source error →
      tokenize (source.take error.offset) =
        .ok (scan.lexemes.reverse ++ [⟨.endOfInput, error.offset⟩]) := by
  rcases Scan.exists_fails failed with ⟨scan, fails⟩
  refine ⟨?_, ⟨_, fails.tokenize_take⟩, fun k behind => fails.exists_error_take behind,
    tokenize_append_of_error failed, ⟨scan, fails⟩, fun other fails => fails.tokenize_take⟩
  have begins := (misread_of_tokenize failed).begins
  rw [List.head?_drop] at begins
  exact begins

theorem tokenize_error_exact_literal :
    tokenize "\\b#['](x'y\\".toList = .error ⟨.literalBeforeBackslash, 8⟩ ∧
      (∃ lexemes, tokenize ("\\b#['](x'y\\".toList.take 8) = .ok lexemes) ∧
      ∀ more, tokenize ("\\b#['](x'y\\".toList ++ more) = .error ⟨.literalBeforeBackslash, 8⟩ := by
  have failed : tokenize "\\b#['](x'y\\".toList = .error ⟨.literalBeforeBackslash, 8⟩ := rfl
  have ended : ¬ Unended ("\\b#['](x'y\\".toList.drop 8) := by
    rintro (⟨inner, split, plain⟩ | lone)
    · cases split
      exact absurd rfl (plain '\\' (by decide)).2
    · cases lone
  obtain ⟨-, before, -, after, -⟩ := tokenize_error_exact failed
  exact ⟨failed, before, after ended⟩

end GitPrompt.Format
