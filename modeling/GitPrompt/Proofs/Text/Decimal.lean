import GitPrompt.Text

/-!
Decimal numbers: what is written for a number are ASCII digits, and they read back as it.
-/
namespace GitPrompt.Text

theorem forall_mem_of_all {table : Text} {holds : Char → Prop} [DecidablePred holds]
    (all : table.all (fun c => decide (holds c)) = true) : ∀ c ∈ table, holds c := by
  intro c member
  exact of_decide_eq_true (List.all_eq_true.mp all c member)

theorem isAsciiDigit_iff (c : Char) : isAsciiDigit c = true ↔ c.isDigit = true := by
  simp only [isAsciiDigit, List.contains_iff_mem]
  constructor
  · intro member
    simp only [asciiDigits, List.mem_cons, List.not_mem_nil, or_false] at member
    rcases member with rfl | rfl | rfl | rfl | rfl | rfl | rfl | rfl | rfl | rfl <;> rfl
  · intro digit
    have bounds : 48 ≤ c.toNat ∧ c.toNat ≤ 57 := by
      simpa [Char.isDigit, UInt32.le_iff_toNat_le] using digit
    have number : c.toNat = 48 ∨ c.toNat = 49 ∨ c.toNat = 50 ∨ c.toNat = 51 ∨ c.toNat = 52 ∨
        c.toNat = 53 ∨ c.toNat = 54 ∨ c.toNat = 55 ∨ c.toNat = 56 ∨ c.toNat = 57 := by
      omega
    rw [← Char.ofNat_toNat c]
    rcases number with h | h | h | h | h | h | h | h | h | h <;> rw [h] <;> decide

theorem digitValue?_of_isDigit {c : Char} (digit : c.isDigit = true) :
    digitValue? c = some (c.toNat - '0'.toNat) := by
  have member := (isAsciiDigit_iff c).mpr digit
  simp only [isAsciiDigit, List.contains_iff_mem, asciiDigits, List.mem_cons, List.not_mem_nil,
    or_false] at member
  rcases member with rfl | rfl | rfl | rfl | rfl | rfl | rfl | rfl | rfl | rfl <;> rfl

theorem numeral_eq_ofDigitChars {digits : Text} (ascii : ∀ c ∈ digits, c.isDigit = true) :
    numeral digits = Nat.ofDigitChars 10 digits 0 := by
  have fold : ∀ number : Nat, digits.foldl
      (fun number c => 10 * number + (digitValue? c).getD 0) number =
        Nat.ofDigitChars 10 digits number := by
    induction digits with
    | nil =>
      intro number
      rfl
    | cons c rest ih =>
      intro number
      simp only [List.mem_cons, forall_eq_or_imp] at ascii
      rw [List.foldl_cons, Nat.ofDigitChars_cons, digitValue?_of_isDigit ascii.1]
      exact ih ascii.2 _
  exact fold 0

/-- More digits than the limit admits, whatever number they write. -/
def Overlong (limit : Option Nat) (digits : Text) : Prop := ∃ bound ∈ limit, bound < digits.length

theorem Overlong.ne_nil {limit : Option Nat} {digits : Text} (long : Overlong limit digits) :
    digits ≠ [] := by
  rintro rfl
  rcases long with ⟨bound, -, less⟩
  exact Nat.not_lt_zero bound less

theorem number?_eq_none {limit : Option Nat} {digits : Text} :
    number? limit digits = none ↔ Overlong limit digits := by
  cases limit <;> simp [number?, Overlong]

theorem number?_of_short {limit : Option Nat} {digits : Text} (short : ¬ Overlong limit digits) :
    number? limit digits = some (numeral digits) := by
  unfold number?
  split
  case isTrue none => exact absurd (number?_eq_none.mp (if_pos none)) short
  case isFalse => rfl

theorem ascii_zeros (count : Nat) : (List.replicate count '0').all isAsciiDigit = true := by
  rw [List.all_replicate]
  simp [isAsciiDigit, asciiDigits]

theorem overlong_zeros (bound : Nat) :
    Overlong (some bound) (List.replicate (bound + 1) '0') :=
  ⟨bound, rfl, by simp⟩

theorem decimal_ne_nil (n : Nat) : decimal n ≠ [] := Nat.toDigits_ne_nil

theorem signed_ne_nil (number : Int) : signed number ≠ [] := by
  cases number with
  | ofNat n => exact decimal_ne_nil n
  | negSucc n => exact List.cons_ne_nil _ _

theorem isDigit_of_mem_decimal {n : Nat} {c : Char} (member : c ∈ decimal n) :
    c.isDigit = true :=
  Nat.isDigit_of_mem_toDigits (by decide) (by decide) member

theorem ofDigitChars_decimal (n : Nat) : Nat.ofDigitChars 10 (decimal n) 0 = n :=
  Nat.ofDigitChars_toDigits (by decide) (by decide)

theorem numeral_decimal (n : Nat) : numeral (decimal n) = n := by
  rw [numeral_eq_ofDigitChars fun c => isDigit_of_mem_decimal, ofDigitChars_decimal]

end GitPrompt.Text
