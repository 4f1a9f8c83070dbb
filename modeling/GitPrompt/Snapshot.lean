import GitPrompt.Text

/-!
What is known about a working tree: its branch, the branch it follows, and eleven counts.
-/
namespace GitPrompt

inductive Count
  | ahead | behind
  | stagedAdded | stagedModified | stagedRenamed | stagedDeleted
  | unstagedModified | unstagedDeleted
  | untracked | unmerged | stashed
  deriving DecidableEq, Repr

namespace Count

def all : List Count :=
  [.ahead, .behind, .stagedAdded, .stagedModified, .stagedRenamed, .stagedDeleted,
   .unstagedModified, .unstagedDeleted, .untracked, .unmerged, .stashed]

theorem mem_all (count : Count) : count ∈ all := by cases count <;> decide

def title : Count → String
  | .ahead => "ahead"
  | .behind => "behind"
  | .stagedAdded => "staged added"
  | .stagedModified => "staged modified"
  | .stagedRenamed => "staged renamed"
  | .stagedDeleted => "staged deleted"
  | .unstagedModified => "unstaged modified"
  | .unstagedDeleted => "unstaged deleted"
  | .untracked => "untracked"
  | .unmerged => "unmerged"
  | .stashed => "stashed"

def key : Count → String
  | .stagedAdded => "staged_added"
  | .stagedModified => "staged_modified"
  | .stagedRenamed => "staged_renamed"
  | .stagedDeleted => "staged_deleted"
  | .unstagedModified => "unstaged_modified"
  | .unstagedDeleted => "unstaged_deleted"
  | count => count.title

def mark : Count → Char
  | .ahead => '+'
  | .behind => '-'
  | .stagedAdded => 'A'
  | .stagedModified => 'M'
  | .stagedRenamed => 'R'
  | .stagedDeleted => 'D'
  | .unstagedModified => 'M'
  | .unstagedDeleted => 'D'
  | .untracked => '?'
  | .unmerged => 'U'
  | .stashed => 'H'

def needsTracking : Count → Bool
  | .ahead => true
  | .behind => true
  | _ => false

end Count

/-- The branch is its name, a short commit id when no branch is checked out, or the word
HEAD when there is neither. The branch it follows may have an empty name, which is not the
same as following none. -/
structure Snapshot where
  branch : Text
  tracking : Option Text := none
  ahead : Int := 0
  behind : Int := 0
  stagedAdded : Int := 0
  stagedModified : Int := 0
  stagedRenamed : Int := 0
  stagedDeleted : Int := 0
  unstagedModified : Int := 0
  unstagedDeleted : Int := 0
  untracked : Int := 0
  unmerged : Int := 0
  stashed : Int := 0
  deriving DecidableEq, Repr

namespace Snapshot

def count (snapshot : Snapshot) : Count → Int
  | .ahead => snapshot.ahead
  | .behind => snapshot.behind
  | .stagedAdded => snapshot.stagedAdded
  | .stagedModified => snapshot.stagedModified
  | .stagedRenamed => snapshot.stagedRenamed
  | .stagedDeleted => snapshot.stagedDeleted
  | .unstagedModified => snapshot.unstagedModified
  | .unstagedDeleted => snapshot.unstagedDeleted
  | .untracked => snapshot.untracked
  | .unmerged => snapshot.unmerged
  | .stashed => snapshot.stashed

def ofCounts (branch : Text) (tracking : Option Text) (counts : Count → Int) : Snapshot where
  branch := branch
  tracking := tracking
  ahead := counts .ahead
  behind := counts .behind
  stagedAdded := counts .stagedAdded
  stagedModified := counts .stagedModified
  stagedRenamed := counts .stagedRenamed
  stagedDeleted := counts .stagedDeleted
  unstagedModified := counts .unstagedModified
  unstagedDeleted := counts .unstagedDeleted
  untracked := counts .untracked
  unmerged := counts .unmerged
  stashed := counts .stashed

theorem count_ofCounts (branch : Text) (tracking : Option Text) (counts : Count → Int)
    (count : Count) : (ofCounts branch tracking counts).count count = counts count := by
  cases count <;> rfl

theorem ofCounts_count (snapshot : Snapshot) :
    ofCounts snapshot.branch snapshot.tracking snapshot.count = snapshot := rfl

def outsideRepository : Snapshot where
  branch := []

theorem count_outsideRepository (count : Count) : outsideRepository.count count = 0 := by
  cases count <;> rfl

/-- Without a branch to follow, being ahead of it or behind it means nothing. -/
def relevant (snapshot : Snapshot) (count : Count) : Int :=
  if count.needsTracking && snapshot.tracking.isNone then 0 else snapshot.count count

end Snapshot
end GitPrompt
