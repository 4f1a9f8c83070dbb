import GitPrompt.Porcelain
import GitPrompt.Proofs.Text.Pieces

/-!
What a status tells. A count of files is the number of the lines with the letters for it, and a
line that is no record tells nothing.
-/
namespace GitPrompt

def Count.isTally : Count → Bool
  | .ahead => false
  | .behind => false
  | .stashed => false
  | _ => true

namespace Porcelain

open Text (joined pieces)

def isTracked (line : Text) : Bool := line.take 2 == ['1', ' '] || line.take 2 == ['2', ' ']

def counted (count : Count) (record : Text) : Bool :=
  match count with
  | .stagedAdded => isTracked record && record[2]? == some 'A'
  | .stagedModified => isTracked record && record[2]? == some 'M'
  | .stagedRenamed => isTracked record && record[2]? == some 'R'
  | .stagedDeleted => isTracked record && record[2]? == some 'D'
  | .unstagedModified => isTracked record && record[3]? == some 'M'
  | .unstagedDeleted => isTracked record && record[3]? == some 'D'
  | .unmerged => record.take 2 == ['u', ' ']
  | .untracked => record.take 2 == ['?', ' ']
  | .ahead => false
  | .behind => false
  | .stashed => false

theorem indexCount?_eq_some_iff {letter : Char} {count : Count} :
    indexCount? letter = some count ↔
      (letter, count) ∈ [('A', .stagedAdded), ('M', .stagedModified), ('R', .stagedRenamed),
        ('D', .stagedDeleted)] := by
  unfold indexCount?
  split <;> cases count <;> simp_all

theorem worktreeCount?_eq_some_iff {letter : Char} {count : Count} :
    worktreeCount? letter = some count ↔
      (letter, count) ∈ [('M', Count.unstagedModified), ('D', .unstagedDeleted)] := by
  unfold worktreeCount?
  split <;> cases count <;> simp_all

theorem addsTo_tracked (index worktree : Option Char) (count : Count) :
    (Record.tracked index worktree).addsTo count =
      match count with
      | .stagedAdded => index == some 'A'
      | .stagedModified => index == some 'M'
      | .stagedRenamed => index == some 'R'
      | .stagedDeleted => index == some 'D'
      | .unstagedModified => worktree == some 'M'
      | .unstagedDeleted => worktree == some 'D'
      | _ => false := by
  rw [Bool.eq_iff_iff]
  cases count <;>
    simp [Record.addsTo, Option.bind_eq_some_iff, indexCount?_eq_some_iff,
      worktreeCount?_eq_some_iff]

theorem take_two_iff {line : Text} {first second : Char} :
    line.take 2 = [first, second] ↔ ∃ rest, line = first :: second :: rest := by
  rcases line with _ | ⟨c, _ | ⟨d, rest⟩⟩ <;> simp

theorem addsTo_ofLine (line : Text) (count : Count) :
    (Record.ofLine line).addsTo count = counted count line := by
  unfold Record.ofLine
  split
  case h_2 | h_3 =>
    rw [addsTo_tracked]
    cases count <;> simp [counted, isTracked]
  case h_6 noHeader noEntry noRenamed noUnmerged noUntracked =>
    have starts {first second : Char} (never : ∀ rest, line = first :: second :: rest → False) :
        (line.take 2 == [first, second]) = false := by
      simpa [take_two_iff] using never
    cases count <;>
      simp [Record.addsTo, counted, isTracked, starts noEntry, starts noRenamed,
        starts noUnmerged, starts noUntracked]
  all_goals cases count <;> simp [Record.addsTo, counted, isTracked]

def telling (records : List Record) : List Record := records.filter (· ≠ .other)

theorem branch_telling (records : List Record) : branch (telling records) = branch records := by
  have same : (telling records).filterMap Record.header? = records.filterMap Record.header? := by
    rw [telling, List.filterMap_filter]
    congr 1
    funext record
    cases record <;> rfl
  rw [branch, same, branch]

theorem countP_telling (records : List Record) (count : Count) :
    (telling records).countP (·.addsTo count) = records.countP (·.addsTo count) := by
  rw [telling, List.countP_filter]
  refine List.countP_congr fun record _ => ?_
  cases record <;> simp [Record.addsTo]

theorem snapshot_eq_of_telling {status other : Text}
    (same : telling (records status) = telling (records other)) (stashed : Int) :
    snapshot status stashed = snapshot other stashed := by
  have headed : branch (records status) = branch (records other) := by
    rw [← branch_telling, same, branch_telling]
  have counts (count : Count) : (records status).countP (·.addsTo count) =
      (records other).countP (·.addsTo count) := by
    rw [← countP_telling, same, countP_telling]
  simp only [snapshot, headed, counts]

theorem count_snapshot {count : Count} (tally : count.isTally = true) (status : Text)
    (stashed : Int) :
    (snapshot status stashed).count count = (telling (records status)).countP (·.addsTo count) := by
  rw [countP_telling, snapshot, Snapshot.count_ofCounts]
  cases count <;> first | rfl | exact Bool.noConfusion tally

theorem telling_joined (lines : List Text) :
    telling (records (joined ['\n'] lines)) =
      lines.flatMap fun line => telling ((pieces line).map Record.ofLine) := by
  simp only [telling, records, List.filter_map]
  rw [Text.filter_lines_joined rfl, List.map_flatMap]

end Porcelain
end GitPrompt
