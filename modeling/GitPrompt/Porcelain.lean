import GitPrompt.Snapshot
import GitPrompt.Text

/-!
Reading the machine-readable status of a working tree: branch headers, and one line for
each entry, of which only the kind and the two state letters count.
-/
namespace GitPrompt.Porcelain

/-- What the headers say. There is no id before the first commit, and no head when no branch
is checked out. -/
structure Branch where
  id : Option Text := none
  head : Option Text := none
  tracking : Option Text := none
  ahead : Nat := 0
  behind : Nat := 0
  deriving DecidableEq, Repr

namespace Branch

def shortIdLength : Nat := 8

def displayName (branch : Branch) : Text :=
  match branch.head, branch.id with
  | some head, _ => head
  | none, some id => id.take shortIdLength
  | none, none => "HEAD".toList

end Branch

/-- The digits of the two numbers of `+1 -2`; any other text has none. -/
def divergenceDigits? : Text → Option (Text × Text)
  | '+' :: rest =>
    let ahead := rest.takeWhile Text.isDigit
    match rest.dropWhile Text.isDigit with
    | ' ' :: '-' :: behind =>
      if ahead ≠ [] ∧ behind ≠ [] ∧ behind.all Text.isDigit then some (ahead, behind) else none
    | _ => none
  | _ => none

def divergence? (value : Text) : Option (Nat × Nat) :=
  (divergenceDigits? value).map fun (ahead, behind) => (Text.numeral ahead, Text.numeral behind)

def headerKey (header : Text) : Text := header.takeWhile (· ≠ ' ')

def headerValue (header : Text) : Text := Text.trim ((header.dropWhile (· ≠ ' ')).drop 1)

/-- Headers with an unknown key change nothing, nor does a divergence that cannot be read. -/
def Branch.read (branch : Branch) (header : Text) : Branch :=
  let key := headerKey header
  let value := headerValue header
  if key = "branch.oid".toList then
    { branch with id := if value = "(initial)".toList then none else some value }
  else if key = "branch.head".toList then
    { branch with head := if value = "(detached)".toList then none else some value }
  else if key = "branch.upstream".toList then
    { branch with tracking := if value = [] then none else some value }
  else if key = "branch.ab".toList then
    match divergence? value with
    | some (ahead, behind) => { branch with ahead, behind }
    | none => branch
  else branch

def overlong? (limit : Option Nat) (header : Text) : Option Text :=
  if headerKey header = "branch.ab".toList then
    (divergenceDigits? (headerValue header)).bind fun (ahead, behind) =>
      [ahead, behind].find? fun digits => (Text.number? limit digits).isNone
  else none

/-- The state letters of an entry are missing when its line is too short. -/
inductive Record
  | header (text : Text)
  | tracked (index worktree : Option Char)
  | unmerged
  | untracked
  | other
  deriving DecidableEq, Repr

def Record.ofLine : Text → Record
  | '#' :: ' ' :: text => .header text
  | '1' :: ' ' :: entry => .tracked entry[0]? entry[1]?
  | '2' :: ' ' :: entry => .tracked entry[0]? entry[1]?
  | 'u' :: ' ' :: _ => .unmerged
  | '?' :: ' ' :: _ => .untracked
  | _ => .other

def Record.header? : Record → Option Text
  | .header text => some text
  | _ => none

def indexCount? : Char → Option Count
  | 'A' => some .stagedAdded
  | 'M' => some .stagedModified
  | 'R' => some .stagedRenamed
  | 'D' => some .stagedDeleted
  | _ => none

def worktreeCount? : Char → Option Count
  | 'M' => some .unstagedModified
  | 'D' => some .unstagedDeleted
  | _ => none

def Record.addsTo (record : Record) (count : Count) : Bool :=
  match record with
  | .tracked index worktree =>
    index.bind indexCount? == some count || worktree.bind worktreeCount? == some count
  | .unmerged => count == .unmerged
  | .untracked => count == .untracked
  | _ => false

def records (status : Text) : List Record := (Text.lines status).map Record.ofLine

def branch (records : List Record) : Branch :=
  (records.filterMap Record.header?).foldl Branch.read {}

def snapshot (status : Text) (stashed : Int) : Snapshot :=
  let records := records status
  let branch := branch records
  Snapshot.ofCounts branch.displayName branch.tracking fun count =>
    match count with
    | .ahead => branch.ahead
    | .behind => branch.behind
    | .stashed => stashed
    | count => records.countP (·.addsTo count)

/-- The headers are read in their order, up to the first number that cannot be read. -/
def snapshotWithin (limit : Option Nat) (status : Text) (stashed : Int) : Except Text Snapshot :=
  match ((records status).filterMap Record.header?).findSome? (overlong? limit) with
  | some digits => .error digits
  | none => .ok (snapshot status stashed)

def stashCount (list : Text) : Nat :=
  (Text.lines list).countP fun line => Text.trim line ≠ []

end GitPrompt.Porcelain
