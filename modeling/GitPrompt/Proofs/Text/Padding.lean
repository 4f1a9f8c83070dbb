import GitPrompt.Proofs.Text.Decimal

/-!
Numbers in a text without the zeros in front of them. A run of digits that is written so is what is
written for its number.
-/
namespace GitPrompt.Text

/-- The text without the zeros that stand in front of other digits of a number. `inside` tells
whether a digit that is kept stands right before the text. -/
def unpadded (inside : Bool) : Text → Text
  | [] => []
  | c :: rest =>
    if !inside && c == '0' && rest.head?.any Char.isDigit then unpadded false rest
    else c :: unpadded c.isDigit rest

theorem head?_unpadded (text : Text) : (unpadded true text).head? = text.head? := by
  cases text <;> simp [unpadded]

theorem unpadded_unpadded (inside : Bool) (text : Text) :
    unpadded inside (unpadded inside text) = unpadded inside text := by
  induction text generalizing inside with
  | nil => rfl
  | cons c rest ih =>
    by_cases padding : (!inside && c == '0' && rest.head?.any Char.isDigit) = true
    · have outside : inside = false := by
        simp only [Bool.and_eq_true, Bool.not_eq_true'] at padding
        exact padding.1.1
      subst outside
      rw [unpadded, if_pos padding, ih]
    · rw [unpadded, if_neg padding, unpadded]
      -- A zero that is kept is followed by what followed it before.
      have kept : ¬ (!inside && c == '0' && (unpadded c.isDigit rest).head?.any Char.isDigit) =
          true := by
        intro again
        apply padding
        simp only [Bool.and_eq_true, beq_iff_eq] at again ⊢
        obtain ⟨zero, digit⟩ := again
        rw [zero.2] at digit
        refine ⟨zero, ?_⟩
        rwa [← head?_unpadded]
      rw [if_neg kept, ih]

theorem unpadded_append {c : Char} (apart : c.isDigit = false) (inside : Bool)
    (before rest : Text) :
    unpadded inside (before ++ c :: rest) = unpadded inside before ++ c :: unpadded false rest := by
  have other : c ≠ '0' := by
    rintro rfl
    exact Bool.noConfusion apart
  induction before generalizing inside with
  | nil => simp [unpadded, other, apart]
  | cons d before ih =>
    have next : (before ++ c :: rest).head?.any Char.isDigit = before.head?.any Char.isDigit := by
      cases before with
      | nil => simp [apart]
      | cons e before => rfl
    rw [List.cons_append, unpadded, next, ih, ih, unpadded]
    split <;> rfl

section
variable {digits : Text}

theorem unpadded_inside (ascii : ∀ c ∈ digits, c.isDigit = true) :
    unpadded true digits = digits := by
  induction digits with
  | nil => rfl
  | cons c rest ih =>
    simp only [List.mem_cons, forall_eq_or_imp] at ascii
    simp [unpadded, ascii.1, ih ascii.2]

theorem toDigits_digit {c : Char} (digit : c.isDigit = true) :
    Nat.toDigits 10 (c.toNat - '0'.toNat) = [c] := by
  have all : ∀ d ∈ asciiDigits, Nat.toDigits 10 (d.toNat - '0'.toNat) = [d] :=
    forall_mem_of_all (by decide)
  exact all c (List.contains_iff_mem.mp ((isAsciiDigit_iff c).mpr digit))

theorem toDigits_ofDigitChars {number : Nat} (positive : 0 < number)
    (ascii : ∀ c ∈ digits, c.isDigit = true) :
    Nat.toDigits 10 (Nat.ofDigitChars 10 digits number) = Nat.toDigits 10 number ++ digits := by
  induction digits generalizing number with
  | nil => simp
  | cons c rest ih =>
    simp only [List.mem_cons, forall_eq_or_imp] at ascii
    have small : c.toNat - '0'.toNat < 10 := by
      have bounds : c.toNat ≤ 57 := by
        have digit := ascii.1
        simp [Char.isDigit, UInt32.le_iff_toNat_le] at digit
        exact digit.2
      have zero : '0'.toNat = 48 := rfl
      omega
    calc
      _ = Nat.toDigits 10 (Nat.ofDigitChars 10 rest (10 * number + (c.toNat - '0'.toNat))) := by
        rw [Nat.ofDigitChars_cons]
      _ = Nat.toDigits 10 (10 * number + (c.toNat - '0'.toNat)) ++ rest :=
        ih (by omega) ascii.2
      _ = Nat.toDigits 10 number ++ c :: rest := by
        rw [← Nat.toDigits_append_toDigits (by decide) positive small, toDigits_digit ascii.1]
        simp

theorem unpadded_digits (nonempty : digits ≠ []) (ascii : ∀ c ∈ digits, c.isDigit = true) :
    unpadded false digits = decimal (Nat.ofDigitChars 10 digits 0) := by
  induction digits with
  | nil => exact absurd rfl nonempty
  | cons c rest ih =>
    simp only [List.mem_cons, forall_eq_or_imp] at ascii
    rw [Nat.ofDigitChars_cons, Nat.mul_zero, Nat.zero_add, unpadded, ascii.1]
    by_cases zero : c = '0'
    · subst zero
      cases rest with
      | nil => rfl
      | cons d rest =>
        have digit : d.isDigit = true := ascii.2 d List.mem_cons_self
        simpa [digit] using ih (List.cons_ne_nil d rest) ascii.2
    · have positive : 0 < c.toNat - '0'.toNat := by
        have all : ∀ d ∈ asciiDigits, d ≠ '0' → 0 < d.toNat - '0'.toNat :=
          forall_mem_of_all (by decide)
        exact all c (List.contains_iff_mem.mp ((isAsciiDigit_iff c).mpr ascii.1)) zero
      simp only [zero, beq_iff_eq, Bool.not_false, Bool.true_and, Bool.and_eq_true, false_and,
        ↓reduceIte]
      rw [unpadded_inside ascii.2, decimal, toDigits_ofDigitChars positive ascii.2,
        toDigits_digit ascii.1]
      rfl

end

end GitPrompt.Text
