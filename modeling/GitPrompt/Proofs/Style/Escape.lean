import GitPrompt.Proofs.Text.Decimal
import GitPrompt.Style.Display

/-!
What stands inside an escape: digits, signs and semicolons, so that the first m ends it.
-/
namespace GitPrompt

namespace Text

theorem mem_signed {number : Int} {c : Char} (member : c ∈ signed number) :
    c.isDigit = true ∨ c = '-' := by
  cases number with
  | ofNat n => exact .inl (isDigit_of_mem_decimal member)
  | negSucc n =>
    rcases List.mem_cons.mp member with sign | later
    · exact .inr sign
    · exact .inl (isDigit_of_mem_decimal later)

theorem mem_joined {separator : Text} {pieces : List Text} {c : Char}
    (member : c ∈ joined separator pieces) : c ∈ separator ∨ ∃ piece ∈ pieces, c ∈ piece := by
  induction pieces with
  | nil => cases member
  | cons piece rest ih =>
    cases rest with
    | nil =>
      rw [joined, List.intercalate_singleton] at member
      exact .inr ⟨piece, List.mem_singleton.mpr rfl, member⟩
    | cons next more =>
      rw [joined, List.intercalate_cons_cons] at member
      rcases List.mem_append.mp member with first | later
      · rcases List.mem_append.mp first with inside | between
        · exact .inr ⟨piece, List.mem_cons_self, inside⟩
        · exact .inl between
      · rcases ih later with between | inside
        · exact .inl between
        · rcases inside with ⟨found, among, holds⟩
          exact .inr ⟨found, List.mem_cons_of_mem piece among, holds⟩

end Text

namespace Style

theorem mem_parameters {numbers : List Int} {c : Char} (member : c ∈ parameters numbers) :
    c.isDigit = true ∨ c = '-' ∨ c = ';' := by
  rcases Text.mem_joined member with between | inside
  · exact .inr (.inr (List.mem_singleton.mp between))
  · rcases inside with ⟨piece, among, holds⟩
    rcases List.mem_map.mp among with ⟨number, -, rfl⟩
    rcases Text.mem_signed holds with digit | sign
    · exact .inl digit
    · exact .inr (.inl sign)

def Display.controls : Text := [escapeStart, hiddenStart, hiddenEnd]

theorem not_mem_parameters {numbers : List Int} {c : Char} (control : c ∈ 'm' :: Display.controls) :
    c ∉ parameters numbers := by
  intro member
  have other : ∀ d ∈ 'm' :: Display.controls, ¬ (d.isDigit = true ∨ d = '-' ∨ d = ';') :=
    Text.forall_mem_of_all (by decide)
  exact other c control (mem_parameters member)

end Style
end GitPrompt
