import GitPrompt.Position
import GitPrompt.Proofs.Style.Escape
import GitPrompt.Text.Printable

/-!
Texts that stay on one line. A quoted text does, whatever it quotes, because the quoting writes
a line feed as an escape.
-/
namespace GitPrompt

namespace Text

def OneLine (text : Text) : Prop := '\n' ∉ text

instance (text : Text) : Decidable (OneLine text) := inferInstanceAs (Decidable (¬ _))

theorem OneLine.append {first second : Text} (before : OneLine first) (after : OneLine second) :
    OneLine (first ++ second) := by
  intro member
  rcases List.mem_append.mp member with early | late
  · exact before early
  · exact after late

theorem OneLine.cons {c : Char} {text : Text} (other : c ≠ '\n') (after : OneLine text) :
    OneLine (c :: text) := by
  intro member
  rcases List.mem_cons.mp member with same | late
  · exact other same.symm
  · exact after late

theorem oneLine_words {wording : String} (clear : OneLine wording.toList) :
    OneLine (words wording) := by
  rw [words_eq]
  exact clear

theorem oneLine_signed (number : Int) : OneLine (signed number) := by
  intro member
  have other : ¬ ('\n'.isDigit = true ∨ '\n' = '-') := by decide
  exact other (mem_signed member)

theorem oneLine_decimal (number : Nat) : OneLine (decimal number) := oneLine_signed number

theorem exists_digitChar_of_mem_toDigits {code : Nat} {c : Char}
    (member : c ∈ Nat.toDigits 16 code) : ∃ digit < 16, c = Nat.digitChar digit := by
  induction code using Nat.strongRecOn with
  | ind code ih =>
    rw [Nat.toDigits_eq_if (by decide)] at member
    split at member
    · rename_i small
      exact ⟨code, small, List.mem_singleton.mp member⟩
    · rename_i large
      rcases List.mem_append.mp member with early | last
      · exact ih (code / 16) (by omega) early
      · exact ⟨code % 16, Nat.mod_lt code (by decide), List.mem_singleton.mp last⟩

theorem oneLine_hexadecimal (width code : Nat) : OneLine (hexadecimal width code) := by
  have zeros (count : Nat) : OneLine (List.replicate count '0') := by
    intro member
    exact absurd (List.eq_of_mem_replicate member) (by decide)
  refine (zeros _).append ?_
  intro member
  rcases exists_digitChar_of_mem_toDigits member with ⟨digit, small, same⟩
  have other : ∀ digit < 16, '\n' ≠ Nat.digitChar digit := by decide
  exact other digit small same

theorem oneLine_numericEscape (code : Nat) : OneLine (numericEscape code) := by
  have escape {letter : Char} (other : letter ≠ '\n') (width : Nat) :
      OneLine ('\\' :: letter :: hexadecimal width code) :=
    .cons (by decide) (.cons other (oneLine_hexadecimal width code))
  unfold numericEscape
  split
  · exact escape (by decide) 2
  · split
    · exact escape (by decide) 4
    · exact escape (by decide) 8

theorem oneLine_quotedChar {quote : Char} (visible : quote ≠ '\n') (c : Char) :
    OneLine (quotedChar quote c) := by
  unfold quotedChar
  split
  · rename_i special
    have other : c ≠ '\n' := by
      rcases special with rfl | rfl
      · exact visible
      · decide
    exact .cons (by decide) (.cons other (by decide))
  split
  · decide
  split
  · decide
  split
  · decide
  rename_i other _
  split
  · exact .cons other (by decide)
  · exact oneLine_numericEscape c.toNat

theorem oneLine_quoted (text : Text) : OneLine (quoted text) := by
  have visible : quoteFor text ≠ '\n' := by
    unfold quoteFor
    split <;> decide
  have inside : OneLine (text.flatMap (quotedChar (quoteFor text))) := by
    intro member
    rcases List.mem_flatMap.mp member with ⟨c, -, escaped⟩
    exact oneLine_quotedChar visible c escaped
  exact (OneLine.cons visible inside).append (.cons visible (by decide))

end Text

theorem Place.oneLine_text (place : Place) : Text.OneLine place.text :=
  (Text.oneLine_signed place.line).append (.cons (by decide) (Text.oneLine_signed place.column))

end GitPrompt
