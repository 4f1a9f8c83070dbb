import GitPrompt.Git.Command
import GitPrompt.Log
import GitPrompt.Report

/-!
A session with git: steps that may call git and write to the log, and that end early when
something goes wrong. The trace keeps what was done up to that point.
-/
namespace GitPrompt.Git

open Text (words)

inductive GitError
  | notStarted (reason : Text)
  | failed (command : Command) (details : Text)
  | notARepository (path : Text)
  deriving DecidableEq, Repr

namespace GitError

def kind : GitError → ErrorKind
  | .notARepository _ => .notARepository
  | _ => .git

def message : GitError → Text
  | .notStarted reason => words "failed to execute git: " ++ reason
  | .failed command details =>
    words "git command failed: " ++ command.line ++
      if details = [] then [] else words ": " ++ details
  | .notARepository path => words "not a git repository: " ++ path

def failure (error : GitError) : Failure := .other error.kind error.message

end GitError

inductive Halt
  | git (error : GitError)
  | format (source : Text) (error : Format.FormatError)
  | overflow (source : Text) (overflow : Format.Overflow)
  | interrupted
  deriving DecidableEq, Repr

def Halt.failure? : Halt → Option Failure
  | .git error => some error.failure
  | .format source error => some (.ofFormat source error)
  | .overflow source excess => some (.ofOverflow source excess)
  | .interrupted => none

structure Trace where
  calls : List Call := []
  entries : List Log.Entry := []
  deriving DecidableEq, Repr

abbrev Session := ExceptT Halt (StateM Trace)

namespace Session

def log (severity : Log.Severity) (channel : Log.Channel) (message : Text) : Session Unit :=
  modify fun trace => { trace with entries := trace.entries ++ [⟨severity, channel, message⟩] }

def record (call : Call) : Session Unit :=
  modify fun trace => { trace with calls := trace.calls ++ [call] }

def halt {α : Type} (reason : Halt) : Session α := throw reason

theorem run_log (severity : Log.Severity) (channel : Log.Channel) (message : Text)
    (trace : Trace) :
    (log severity channel message).run.run trace =
      (.ok (), { trace with entries := trace.entries ++ [⟨severity, channel, message⟩] }) := rfl

theorem run_record (call : Call) (trace : Trace) :
    (record call).run.run trace = (.ok (), { trace with calls := trace.calls ++ [call] }) := rfl

theorem run_halt {α : Type} (reason : Halt) (trace : Trace) :
    (halt reason : Session α).run.run trace = (.error reason, trace) := rfl

def outcome {α : Type} (session : Session α) : Except Halt α × Trace := session.run.run {}

end Session
end GitPrompt.Git
