import GitPrompt.Format.Descent
import GitPrompt.Git.Session
import GitPrompt.Porcelain

/-!
Asking git about a working tree: whether it is one, its status, and its stash.
-/
namespace GitPrompt.Git

open Text (words)

structure Site where
  behaviour : Behaviour
  directory : Text

structure Completed where
  out : Text
  err : Text
  code : Int
  deriving DecidableEq, Repr

def call (site : Site) (path : Option Given) (command : Command) : Session Completed := do
  Session.log .debug .git (words "Running git command: " ++ command.line)
  Session.record (command.call path)
  match site.behaviour command with
  | .completed out err code => return ⟨out, err, code⟩
  | .notStarted reason => Session.halt (.git (.notStarted reason))
  | .interrupted => Session.halt .interrupted

def output (site : Site) (path : Option Given) (command : Command) : Session Text := do
  let completed ← call site path command
  if completed.code ≠ 0 then
    Session.log .debug .git (words "git stderr: " ++ completed.err)
    Session.halt (.git (.failed command (Text.trim completed.err)))
  else return completed.out

/-- An empty path names the directory that the program runs in, as no path does. -/
def named (site : Site) (path : Option Given) : Text :=
  match path.map Given.contents with
  | none => site.directory
  | some [] => site.directory
  | some path => path

def ensureRepository (site : Site) (path : Option Given) : Session Unit := do
  let completed ← call site path .insideWorkTree
  if completed.code ≠ 0 ∨ Text.trim completed.out ≠ "true".toList then
    Session.log .debug .git (words "git rev-parse stderr: " ++ completed.err)
    Session.halt (.git (.notARepository (named site path)))

def readStashCount (site : Site) (path : Option Given) : Session Nat := do
  let list ← output site path .stashList
  return Porcelain.stashCount list

def snapshotLine (snapshot : Snapshot) : Text :=
  let tracking := (snapshot.tracking.map Text.quoted).getD (words "None")
  let counts := Count.all.map fun count =>
    words count.key ++ '=' :: Text.signed (snapshot.count count)
  words "StatusSnapshot(" ++
    Text.joined (words ", ")
      ((words "branch=" ++ Text.quoted snapshot.branch) :: (words "upstream=" ++ tracking) ::
        counts) ++ [')']

def ask (site : Site) (path : Option Given) : Session (Text × Nat) := do
  ensureRepository site path
  let status ← output site path .status
  let stashed ← readStashCount site path
  return (status, stashed)

def noted (snapshot : Snapshot) : Session Snapshot := do
  Session.log .debug .git (words "Read status snapshot: " ++ snapshotLine snapshot)
  return snapshot

def readStatus (site : Site) (path : Option Given) : Session Snapshot := do
  let (status, stashed) ← ask site path
  noted (Porcelain.snapshot status stashed)

/-- What no report tells. The program ends in it, whatever it is doing. -/
inductive Crash
  | status (digits : Text)
  | format (crash : Format.Crash)
  deriving DecidableEq, Repr

abbrev Guarded := ExceptT Crash Session

def readStatusWithin (limit : Option Nat) (site : Site) (path : Option Given) :
    Guarded Snapshot := do
  let (status, stashed) ← ask site path
  match Porcelain.snapshotWithin limit status stashed with
  | .ok snapshot => noted snapshot
  | .error digits => throw (.status digits)

end GitPrompt.Git
