import GitPrompt.Proofs.Format.Grammar
import GitPrompt.Proofs.Text.Decimal

/-!
Reading one style code: exactly the texts that the grammar derives are codes.
-/
namespace GitPrompt.Format

theorem bind_eq_ok {ε α β : Type} {first : Except ε α} {next : α → Except ε β} {value : β} :
    first >>= next = .ok value ↔ ∃ a, first = .ok a ∧ next a = .ok value := by
  cases first with
  | error error => simp [bind, Except.bind]
  | ok a => simp [bind, Except.bind]

theorem bind_eq_error {ε α β : Type} {first : Except ε α} {next : α → Except ε β} {error : ε} :
    first >>= next = .error error ↔
      first = .error error ∨ ∃ a, first = .ok a ∧ next a = .error error := by
  cases first with
  | error found => simp [bind, Except.bind]
  | ok a => simp [bind, Except.bind]

theorem colourComponent_eq_ok {text : Text} {value : Int} :
    colourComponent text = .ok value ↔ ∃ n : Nat, value = n ∧ Component text n := by
  have ascii : text.all Text.isAsciiDigit = true ↔ ∀ c ∈ text, c.isDigit = true := by
    simp only [List.all_eq_true, Text.isAsciiDigit_iff]
  unfold colourComponent
  by_cases shape : text ≠ [] ∧ ∀ c ∈ text, c.isDigit = true
  · have accepted : (text = [] || !text.all Text.isAsciiDigit) = false := by
      simp [shape.1, ascii.mpr shape.2]
    rw [accepted, Text.numeral_eq_ofDigitChars shape.2]
    by_cases small : Nat.ofDigitChars 10 text 0 ≤ 255
    · have kept : ¬ 255 < Nat.ofDigitChars 10 text 0 := by omega
      simp only [Bool.false_eq_true, ↓reduceIte, kept, Except.ok.injEq]
      constructor
      · intro equal
        exact ⟨_, equal.symm, shape.1, shape.2, rfl, small⟩
      · rintro ⟨n, rfl, component⟩
        rw [component.reads]
    · have large : 255 < Nat.ofDigitChars 10 text 0 := by omega
      simp only [Bool.false_eq_true, ↓reduceIte, large, reduceCtorEq, false_iff]
      rintro ⟨n, -, component⟩
      have := component.small
      rw [component.reads] at small
      exact small this
  · have refused : (text = [] || !text.all Text.isAsciiDigit) = true := by
      by_cases empty : text = []
      · simp [empty]
      · have other : ¬ text.all Text.isAsciiDigit = true :=
          fun all => shape ⟨empty, ascii.mp all⟩
        simp [empty, Bool.eq_false_iff.mpr other]
    simp only [refused, ↓reduceIte, reduceCtorEq, false_iff]
    rintro ⟨n, -, component⟩
    exact shape ⟨component.nonempty, component.digits⟩

theorem Component.not_mem {text : Text} {value : Nat} {c : Char} (component : Component text value)
    (other : c.isDigit = false) : c ∉ text := by
  intro member
  rw [component.digits c member] at other
  exact Bool.noConfusion other

theorem rgbCode_eq_ok {ground : Style.Ground} {text : Text} {code : Style.Code} :
    rgbCode ground text = .ok code ↔
      ∃ red green blue r g b, text = red ++ ',' :: green ++ ',' :: blue ∧
        Component red r ∧ Component green g ∧ Component blue b ∧ code = .rgb ground r g b := by
  constructor
  · intro read
    unfold rgbCode at read
    split at read
    · rename_i red green blue split
      simp only [bind_eq_ok, colourComponent_eq_ok] at read
      rcases read with ⟨_, ⟨r, rfl, first⟩, _, ⟨g, rfl, second⟩, _, ⟨b, rfl, third⟩, read⟩
      have joined : text = [','].intercalate [red, green, blue] := by
        rw [← split, List.intercalate_splitOn]
      refine ⟨red, green, blue, r, g, b, ?_, first, second, third, ?_⟩
      · simpa using joined
      · exact (Except.ok.inj read).symm
    · cases read
  · rintro ⟨red, green, blue, r, g, b, rfl, first, second, third, rfl⟩
    have split : (red ++ ',' :: green ++ ',' :: blue).splitOn ',' = [red, green, blue] := by
      have joined : red ++ ',' :: green ++ ',' :: blue = [','].intercalate [red, green, blue] := by
        simp
      rw [joined, List.splitOn_intercalate]
      · simp only [List.mem_cons, List.not_mem_nil, or_false, forall_eq_or_imp, forall_eq]
        exact ⟨first.not_mem rfl, second.not_mem rfl, third.not_mem rfl⟩
      · simp
    unfold rgbCode
    rw [split]
    simp only [bind_eq_ok, colourComponent_eq_ok]
    exact ⟨r, ⟨r, rfl, first⟩, g, ⟨g, rfl, second⟩, b, ⟨b, rfl, third⟩, rfl⟩

theorem bracketCode_eq_ok (ground : Style.Ground) {text : Text} {code : Style.Code} :
    bracketCode ground (bracketClose ground) text = .ok code ↔
      ∃ red green blue r g b,
        text = red ++ ',' :: green ++ ',' :: blue ++ [bracketClose ground] ∧
        Component red r ∧ Component green g ∧ Component blue b ∧ code = .rgb ground r g b := by
  unfold bracketCode
  constructor
  · intro read
    split at read
    · rename_i closed
      rcases List.getLast?_eq_some_iff.mp closed with ⟨inner, rfl⟩
      rw [List.dropLast_concat, rgbCode_eq_ok] at read
      rcases read with ⟨red, green, blue, r, g, b, rfl, parts⟩
      exact ⟨red, green, blue, r, g, b, rfl, parts⟩
    · cases read
  · rintro ⟨red, green, blue, r, g, b, rfl, parts⟩
    rw [if_pos (List.getLast?_concat ..), List.dropLast_concat, rgbCode_eq_ok]
    exact ⟨red, green, blue, r, g, b, rfl, parts⟩

def codeLetters : Text := Style.Code.lettered.flatMap Style.Code.source

theorem mem_codeLetters {letter : Char} {code : Style.Code}
    (named : Style.Code.ofLetter? letter = some code) : letter ∈ codeLetters := by
  have listed : code ∈ Style.Code.lettered := List.mem_of_find?_eq_some named
  have spelled := Style.Code.source_of_ofLetter? named
  exact List.mem_flatMap.mpr ⟨code, listed, by simp [spelled]⟩

theorem isDigit_codeLetter {letter : Char} {code : Style.Code}
    (named : Style.Code.ofLetter? letter = some code) : letter.isDigit = false := by
  have apart : ∀ c ∈ codeLetters, c.isDigit = false :=
    Text.forall_mem_of_all (by decide)
  exact apart letter (mem_codeLetters named)

theorem numberCode_eq_ok {text : Text} {code : Style.Code} :
    styleCode.numberCode text = .ok code ↔ ∃ n : Nat, Component text n ∧ code = .indexed n := by
  have ascii : text.all Text.isAsciiDigit = true ↔ ∀ c ∈ text, c.isDigit = true := by
    simp only [List.all_eq_true, Text.isAsciiDigit_iff]
  unfold styleCode.numberCode
  constructor
  · intro read
    split at read
    · cases outcome : colourComponent text with
      | error fault =>
        rw [outcome] at read
        cases read
      | ok value =>
        rcases colourComponent_eq_ok.mp outcome with ⟨n, rfl, component⟩
        rw [outcome] at read
        exact ⟨n, component, (Except.ok.inj read).symm⟩
    · cases read
  · rintro ⟨n, component, rfl⟩
    rw [if_pos (ascii.mpr component.digits), colourComponent_eq_ok.mpr ⟨n, rfl, component⟩]
    rfl

theorem styleCode_eq_ok {text : Text} {code : Style.Code} :
    styleCode text = .ok code ↔ CodeDerives code text := by
  constructor
  · intro read
    unfold styleCode at read
    split at read
    · rename_i rest
      rcases (bracketCode_eq_ok .fore).mp read with
        ⟨red, green, blue, r, g, b, rfl, first, second, third, rfl⟩
      exact CodeDerives.rgb .fore first second third
    · rename_i rest
      rcases (bracketCode_eq_ok .back).mp read with
        ⟨red, green, blue, r, g, b, rfl, first, second, third, rfl⟩
      exact CodeDerives.rgb .back first second third
    · split at read
      · split at read
        · rename_i named
          cases read
          exact CodeDerives.letter named
        · rcases numberCode_eq_ok.mp read with ⟨n, component, rfl⟩
          exact CodeDerives.number component
      · rcases numberCode_eq_ok.mp read with ⟨n, component, rfl⟩
        exact CodeDerives.number component
  · intro derived
    cases derived with
    | @letter letter code named =>
      have apart : ∀ c ∈ codeLetters, c ≠ '[' ∧ c ≠ '\x7b' :=
        Text.forall_mem_of_all (by decide)
      rcases apart letter (mem_codeLetters named) with ⟨square, curly⟩
      unfold styleCode
      split
      · rename_i equal
        exact absurd (List.cons.inj equal).1 square
      · rename_i equal
        exact absurd (List.cons.inj equal).1 curly
      · simp only [named]
    | number component =>
      have digit : ∀ c ∈ text, c.isDigit = true := component.digits
      unfold styleCode
      split
      · exact absurd (digit _ List.mem_cons_self) (by decide)
      · exact absurd (digit _ List.mem_cons_self) (by decide)
      · split
        · split
          · rename_i named
            have := isDigit_codeLetter named
            simp_all
          · exact numberCode_eq_ok.mpr ⟨_, component, rfl⟩
        · exact numberCode_eq_ok.mpr ⟨_, component, rfl⟩
    | @rgb ground red green blue r g b first second third =>
      have inner := (bracketCode_eq_ok ground).mpr
        ⟨red, green, blue, r, g, b, rfl, first, second, third, rfl⟩
      cases ground with
      | fore => exact inner
      | back => exact inner

end GitPrompt.Format
