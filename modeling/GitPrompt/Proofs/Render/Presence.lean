import GitPrompt.Format.Tree
import Mathlib.Algebra.Group.Int.Defs

/-!
Which fields have something to show for a snapshot, which of them cannot show it, and which
fields of a tree are reached when it is rendered.
-/
namespace GitPrompt

namespace Field

/-- A name is present when it is not empty, and a count when it is not zero and, if it compares
with the branch that is followed, when there is such a branch. -/
def Present (snapshot : Snapshot) : Field → Prop
  | .branch => snapshot.branch ≠ []
  | .tracking => ∃ name, snapshot.tracking = some name ∧ name ≠ []
  | .count which =>
    snapshot.count which ≠ 0 ∧ (which.needsTracking = true → snapshot.tracking ≠ none)

/-- A present count that does not fit in thirty-two bits. -/
def OutOfRange (snapshot : Snapshot) (field : Field) (number : Int) : Prop :=
  field.Present snapshot ∧ (number < 0 ∨ 2 ^ 32 - 1 < number) ∧
    ∃ which, field = .count which ∧ snapshot.count which = number

variable {snapshot : Snapshot}

theorem present_eq_none {name : Text} : value.present name = none ↔ name = [] := by
  simp [value.present]

theorem relevant_of_present {which : Count} (present : (count which).Present snapshot) :
    snapshot.relevant which = snapshot.count which := by
  rcases present with ⟨-, followed⟩
  unfold Snapshot.relevant
  cases needs : which.needsTracking with
  | false => rfl
  | true =>
    rw [if_neg]
    simpa using followed needs

theorem relevant_eq_zero {which : Count} :
    snapshot.relevant which = 0 ↔ ¬ (count which).Present snapshot := by
  constructor
  · intro zero present
    rw [relevant_of_present present] at zero
    exact present.1 zero
  · intro absent
    by_cases alone : (which.needsTracking && snapshot.tracking.isNone) = true
    · rw [Snapshot.relevant, if_pos alone]
    · rw [Snapshot.relevant, if_neg alone]
      apply Decidable.byContradiction
      intro nonzero
      refine absent ⟨nonzero, ?_⟩
      intro needs untracked
      simp [needs, untracked] at alone

theorem value_eq_none {field : Field} :
    field.value snapshot = .ok none ↔ ¬ field.Present snapshot := by
  cases field with
  | branch => simp [value, present_eq_none, Present]
  | tracking => simp [value, present_eq_none, Present, Option.bind_eq_none_iff]
  | count which =>
    rw [← relevant_eq_zero]
    by_cases zero : snapshot.relevant which = 0
    · simp [value, zero]
    · simp only [value, zero, ↓reduceIte, iff_false]
      split <;> simp

theorem value_eq_error {field : Field} {number : Int} :
    field.value snapshot = .error number ↔ field.OutOfRange snapshot number := by
  cases field with
  | branch => simp [value, OutOfRange]
  | tracking => simp [value, OutOfRange]
  | count which =>
    constructor
    · intro failed
      have present : (count which).Present snapshot := by
        apply Classical.byContradiction
        intro absent
        rw [value_eq_none.mpr absent] at failed
        cases failed
      have nonzero : ¬ snapshot.count which = 0 := present.1
      simp only [value, relevant_of_present present, if_neg nonzero] at failed
      split at failed
      · cases failed
        rename_i outside
        exact ⟨present, outside, which, rfl, rfl⟩
      · cases failed
    · rintro ⟨present, outside, which, same, rfl⟩
      cases same
      have nonzero : ¬ snapshot.count which = 0 := present.1
      simp only [value, relevant_of_present present, if_neg nonzero]
      exact if_pos outside

end Field

namespace Format

structure Mention where
  field : Field
  offset : Int
  deriving DecidableEq, Repr

mutual
/-- The fields of a tree that are in no argument of an absent field. -/
def Element.Live (snapshot : Snapshot) (mention : Mention) : Element → Prop
  | .literal _ => False
  | .field field arguments offset =>
    mention = ⟨field, offset⟩ ∨ field.Present snapshot ∧ arguments.Live snapshot mention
  | .group _ body => body.Live snapshot mention
  | .style _ body => body.Live snapshot mention
  | .nested sequence => sequence.Live snapshot mention

def Sequence.Live (snapshot : Snapshot) (mention : Mention) : Sequence → Prop
  | .done _ => False
  | .item _ element rest => element.Live snapshot mention ∨ rest.Live snapshot mention

def Arguments.Live (snapshot : Snapshot) (mention : Mention) : Arguments → Prop
  | .nil => False
  | .cons argument rest => argument.Live snapshot mention ∨ rest.Live snapshot mention
end

end Format
end GitPrompt
