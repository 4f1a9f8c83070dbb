import GitPrompt.Git.Command
import GitPrompt.Text

/-!
Transcripts of git's answers, for a program that does not start git itself. An answer is four
fields, each ended by the unit separator: the first argument of the command, the exit code,
the output and the error output.
-/
namespace GitPrompt.Git.Transcript

def fieldEnd : Char := '\x1f'

def exitCode? : Text → Option Int
  | [] => none
  | '-' :: digits => (magnitude? digits).map fun number => -(number : Int)
  | digits => (magnitude? digits).map fun number => (number : Int)
where
  magnitude? (digits : Text) : Option Nat :=
    if digits ≠ [] ∧ digits.all Text.isAsciiDigit then some (Text.numeral digits) else none

/-- In place of an exit code stands the word `interrupted` or the reason why git could not be
started. -/
def answer (code out err : Text) : Answer :=
  if code = "interrupted".toList then .interrupted
  else
    match exitCode? code with
    | some code => .completed out err code
    | none => .notStarted code

def answers : List Text → List (Text × Answer)
  | name :: code :: out :: err :: rest => (name, answer code out err) :: answers rest
  | _ => []

def behaviour (transcript : Text) : Behaviour :=
  let answers := answers (transcript.splitOn fieldEnd)
  fun command =>
    (answers.lookup command.name.toList).getD (.notStarted (Text.words "git gave no answer"))

end GitPrompt.Git.Transcript
