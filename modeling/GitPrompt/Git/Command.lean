import GitPrompt.Config

/-!
The git commands that a prompt needs and what running one of them can come to.
-/
namespace GitPrompt.Git

inductive Command
  | insideWorkTree | status | stashList
  deriving DecidableEq, Repr

namespace Command

def all : List Command := [.insideWorkTree, .status, .stashList]

def arguments : Command → List String
  | .insideWorkTree => ["rev-parse", "--is-inside-work-tree"]
  | .status => ["status", "--porcelain=v2", "--branch", "--untracked-files=all"]
  | .stashList => ["stash", "list"]

def name : Command → String
  | .insideWorkTree => "rev-parse"
  | .status => "status"
  | .stashList => "stash"

def invocation (command : Command) : List String := "git" :: command.arguments

def line (command : Command) : Text := Text.joined [' '] (command.invocation.map String.toList)

end Command

/-- One run of a command. Without a directory it runs where the program was started. The settings
replace those variables of the program's own environment. -/
structure Call where
  command : Command
  directory : Option Given
  settings : List (String × String)
  deriving DecidableEq, Repr

/-- Set for every call: a prompt must not take locks that other commands wait for. -/
def Call.environment : List (String × String) := [("GIT_OPTIONAL_LOCKS", "0")]

def Command.call (command : Command) (path : Option Given) : Call :=
  ⟨command, path, Call.environment⟩

inductive Answer
  | completed (out err : Text) (code : Int)
  | notStarted (reason : Text)
  | interrupted
  deriving DecidableEq, Repr

abbrev Behaviour := Command → Answer

end GitPrompt.Git
