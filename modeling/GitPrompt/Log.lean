import GitPrompt.Text

/-!
The log of a run. Entries are collected in order; how many of them are shown is decided by
the verbosity.
-/
namespace GitPrompt.Log

open Text (words)

inductive Severity
  | debug | info | warning
  deriving DecidableEq, Repr

def Severity.name : Severity → String
  | .debug => "DEBUG"
  | .info => "INFO"
  | .warning => "WARNING"

def Severity.rank : Severity → Nat
  | .debug => 0
  | .info => 1
  | .warning => 2

inductive Channel
  | git | format | prompt
  deriving DecidableEq, Repr

def Channel.name : Channel → String
  | .git => "glint.git_adapter"
  | .format => "glint.parser"
  | .prompt => "glint.prompt"

structure Entry where
  severity : Severity
  channel : Channel
  message : Text
  deriving DecidableEq, Repr

def threshold (verbosity : Int) : Severity :=
  if verbosity ≤ 0 then .warning else if verbosity = 1 then .info else .debug

def Entry.shown (least : Severity) (entry : Entry) : Bool := least.rank ≤ entry.severity.rank

def Entry.line (entry : Entry) : Text :=
  words "glint " ++ words entry.severity.name ++ ' ' :: words entry.channel.name ++
    words ": " ++ entry.message ++ ['\n']

def shown (verbosity : Int) (entries : List Entry) : Text :=
  (entries.filter (Entry.shown (threshold verbosity))).flatMap Entry.line

end GitPrompt.Log
