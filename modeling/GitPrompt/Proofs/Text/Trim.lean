import GitPrompt.Text

/-!
Blanks, and trimming a text: it takes nothing from a text whose ends are not blank, and all of a
text that is blank.
-/
namespace GitPrompt.Text

theorem isBlank_of_isHexDigit {c : Char} (digit : c.isHexDigit = true) : isBlank c = false := by
  have code : (48 ≤ c.toNat ∧ c.toNat ≤ 57) ∨ (97 ≤ c.toNat ∧ c.toNat ≤ 102) ∨
      (65 ≤ c.toNat ∧ c.toNat ≤ 70) := by
    simpa [Char.isHexDigit, Char.isDigit, UInt32.le_iff_toNat_le, or_assoc] using digit
  simp [isBlank]
  omega

theorem isBlank_of_isDigit {c : Char} (digit : c.isDigit = true) : isBlank c = false :=
  isBlank_of_isHexDigit (by simp [Char.isHexDigit, digit])

theorem isBlank_of_isLineBreak {c : Char} (breaks : isLineBreak c = true) : isBlank c = true := by
  simp [isLineBreak] at breaks
  simp [isBlank]
  omega

def Trimmed (text : Text) : Prop :=
  (∀ c ∈ text.head?, isBlank c = false) ∧ ∀ c ∈ text.getLast?, isBlank c = false

theorem trimLeft_eq_self_iff {text : Text} :
    trimLeft text = text ↔ ∀ c ∈ text.head?, isBlank c = false := by
  cases text with
  | nil => simp [trimLeft]
  | cons c rest =>
    cases blank : isBlank c with
    | true =>
      have shorter : (rest.dropWhile isBlank).length ≤ rest.length :=
        (List.dropWhile_suffix isBlank).length_le
      have dropped : trimLeft (c :: rest) = rest.dropWhile isBlank :=
        List.dropWhile_cons_of_pos blank
      simp only [dropped, List.head?_cons, Option.mem_some_iff, forall_eq', blank, reduceCtorEq,
        iff_false]
      intro same
      rw [same, List.length_cons] at shorter
      omega
    | false => simp [trimLeft, blank]

theorem trim_eq_self_iff {text : Text} : trim text = text ↔ Trimmed text := by
  have ends : trimLeft text.reverse = text.reverse ↔ ∀ c ∈ text.getLast?, isBlank c = false := by
    rw [trimLeft_eq_self_iff, List.head?_reverse]
  constructor
  · intro same
    -- both cuts only shorten, so neither of them took anything
    have second := (List.dropWhile_suffix isBlank (l := (trimLeft text).reverse)).length_le
    have first : trimLeft text <:+ text := List.dropWhile_suffix isBlank
    have total := congrArg List.length same
    rw [trim, List.length_reverse] at total
    rw [List.length_reverse] at second
    have front : trimLeft text = text := first.eq_of_length_le (total ▸ second)
    rw [trim, front, List.reverse_eq_iff] at same
    exact ⟨trimLeft_eq_self_iff.mp front, ends.mp same⟩
  · rintro ⟨front, back⟩
    rw [trim, trimLeft_eq_self_iff.mpr front, ends.mpr back, List.reverse_reverse]

instance (text : Text) : Decidable (Trimmed text) := decidable_of_iff _ trim_eq_self_iff

theorem trimLeft_eq_nil_iff {text : Text} : trimLeft text = [] ↔ ∀ c ∈ text, isBlank c = true := by
  induction text with
  | nil => simp [trimLeft]
  | cons c rest ih =>
    cases blank : isBlank c <;> simp_all [trimLeft]

theorem trimLeft_trimLeft (text : Text) : trimLeft (trimLeft text) = trimLeft text := by
  rw [trimLeft_eq_self_iff]
  intro c first
  have kept := List.head?_dropWhile_not isBlank text
  rw [Option.mem_def] at first
  rw [← trimLeft, first] at kept
  exact kept

theorem trim_eq_nil_iff {text : Text} : trim text = [] ↔ ∀ c ∈ text, isBlank c = true := by
  rw [trim, List.reverse_eq_nil_iff]
  constructor
  · intro empty
    have blank : ∀ c ∈ trimLeft text, isBlank c = true := fun c member =>
      trimLeft_eq_nil_iff.mp empty c (List.mem_reverse.mpr member)
    rw [← trimLeft_eq_nil_iff, ← trimLeft_trimLeft]
    exact trimLeft_eq_nil_iff.mpr blank
  · intro blank
    rw [trimLeft_eq_nil_iff.mpr blank]
    rfl

theorem mem_of_mem_trim {c : Char} {text : Text} (member : c ∈ trim text) : c ∈ text := by
  have kept := (List.dropWhile_suffix isBlank).mem (List.mem_reverse.mp member)
  exact (List.dropWhile_suffix isBlank).mem (List.mem_reverse.mp kept)

theorem trimmed_of_not_blank {text : Text} (visible : ∀ c ∈ text, isBlank c = false) :
    Trimmed text :=
  ⟨fun c first => visible c (List.mem_of_head? first),
    fun c last => visible c (List.mem_of_getLast? last)⟩

end GitPrompt.Text
