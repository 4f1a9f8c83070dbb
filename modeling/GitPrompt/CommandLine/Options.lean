import GitPrompt.CommandLine.Argument
import GitPrompt.Config

/-!
Reading the arguments of the command line as options and one operand, the format.
-/
namespace GitPrompt.CommandLine

open Text (words)

structure Options where
  format : Option Text := none
  elseFormat : Option Given := none
  path : Option Given := none
  bashEscapes : Bool := false
  noColour : Bool := false
  silent : Bool := false
  verbosity : Nat := 0
  deriving DecidableEq, Repr

inductive Refusal
  | help
  | ambiguous (argument : Text) (candidates : List Switch)
  | valueMissing (switch : Switch)
  | valueIgnored (switch : Switch) (value : Text)
  | unrecognized (arguments : List Text)
  deriving DecidableEq, Repr

namespace Refusal

def about (switch : Switch) (complaint : Text) : Text :=
  words "argument " ++ switch.title ++ words ": " ++ complaint

def message : Refusal → Text
  | .help => []
  | .ambiguous argument candidates =>
    words "ambiguous option: " ++ argument ++ words " could match " ++
      Text.joined (words ", ") (candidates.map Switch.long)
  | .valueMissing switch => about switch (words "expected one argument")
  | .valueIgnored switch value =>
    about switch (words "ignored explicit argument " ++ Text.quoted value)
  | .unrecognized arguments =>
    words "unrecognized arguments: " ++ Text.joined [' '] arguments

end Refusal

/-- Two editions of the conventions for arguments are in use. In the earlier one an equals sign is a
letter like others among bundled options, a letter of no option is an error, and the terminator is
struck out even where it is attached to an option. In the later one an equals sign sets a text off,
a letter of no option is left over with all that follows it, and every attached text is kept. -/
inductive Edition
  | earlier | later
  deriving DecidableEq, Repr

/-- What one argument sets: options with what they are given, and perhaps an option whose value
is the next argument, or letters that are no options. -/
structure Cluster where
  settings : List (Switch × Given) := []
  awaiting : Option Switch := none
  leftOver : Option Text := none
  deriving DecidableEq, Repr

namespace Cluster

def bare (switch : Switch) : Cluster :=
  if switch.takesValue then { awaiting := some switch } else { settings := [(switch, .nothing)] }

def after (switch : Switch) (cluster : Cluster) : Cluster :=
  { cluster with settings := (switch, .nothing) :: cluster.settings }

def value (edition : Edition) (attached : Text) : Given :=
  if edition = .earlier ∧ attached = terminator then .nothing else .text attached

/-- An option with a text attached to it. Short options without a value may be written in one
argument; the text then begins with the letter of the next of them. -/
def attached (edition : Edition) (switch : Switch) (isLong setOff : Bool) (text : Text) :
    Except Refusal Cluster :=
  if switch.takesValue then .ok { settings := [(switch, value edition text)] }
  else
    match text with
    | [] => .error (.valueIgnored switch [])
    | c :: rest =>
      if isLong ∨ c = '-' ∨ edition = .later ∧ setOff then .error (.valueIgnored switch (c :: rest))
      else
        match Switch.ofLetter? c, edition, rest with
        | none, .earlier, _ => .error (.valueIgnored switch (c :: rest))
        | none, .later, _ =>
          .ok { settings := [(switch, .nothing)], leftOver := some ('-' :: c :: rest) }
        | some next, _, [] => .ok (after switch (bare next))
        | some next, .later, '=' :: value =>
          (attached .later next false true value).map (after switch)
        | some next, edition, d :: more =>
          (attached edition next false false (d :: more)).map (after switch)

def ofSwitch (edition : Edition) (switch : Switch) (isLong : Bool) :
    Option Attachment → Except Refusal Cluster
  | none => .ok (bare switch)
  | some attachment => attached edition switch isLong attachment.setOff attachment.text

end Cluster

inductive Expectation
  | anything
  | afterFormat
  | value (switch : Switch) (settings : List (Switch × Given))
  | operands
  deriving DecidableEq, Repr

/-- The arguments read so far. Once the place of the format is taken, further operands are
left over. -/
structure Progress where
  options : Options := {}
  formatTaken : Bool := false
  leftOver : List Text := []
  expectation : Expectation := .anything
  deriving DecidableEq, Repr

namespace Progress

def set (progress : Progress) (switch : Switch) (value : Given) : Except Refusal Progress :=
  let options := progress.options
  match switch with
  | .help => .error .help
  | .elseFormat => .ok { progress with options := { options with elseFormat := some value } }
  | .path => .ok { progress with options := { options with path := some value } }
  | .bashEscapes => .ok { progress with options := { options with bashEscapes := true } }
  | .noColour => .ok { progress with options := { options with noColour := true } }
  | .silent => .ok { progress with options := { options with silent := true } }
  | .verbose =>
    .ok { progress with options := { options with verbosity := options.verbosity + 1 } }

def setAll (progress : Progress) (settings : List (Switch × Given)) : Except Refusal Progress :=
  settings.foldlM (fun progress setting => progress.set setting.1 setting.2) progress

def leave (progress : Progress) (arguments : List Text) : Progress :=
  { progress with leftOver := progress.leftOver ++ arguments }

def expect (progress : Progress) (expectation : Expectation) : Progress :=
  { progress with expectation }

def readOperand (progress : Progress) (operand : Text) : Progress :=
  if progress.formatTaken then progress.leave [operand]
  else
    { progress with options := { progress.options with format := some operand },
                    formatTaken := true }

/-- The `--` goes with the format that it precedes or follows, and is left over when no
operand beside it is the format. -/
def readTerminator (progress : Progress) : Progress :=
  if progress.formatTaken ∧ progress.expectation ≠ .afterFormat then
    (progress.leave [terminator]).expect .operands
  else progress.expect .operands

def readCluster (progress : Progress) (cluster : Cluster) : Except Refusal Progress :=
  match cluster.awaiting with
  | some switch => .ok (progress.expect (.value switch cluster.settings))
  | none =>
    (progress.setAll cluster.settings).map fun progress =>
      (progress.leave cluster.leftOver.toList).expect .anything

def readArgument (edition : Edition) (progress : Progress) (argument : Text) :
    Except Refusal Progress :=
  match Argument.ofText argument with
  | .ambiguous candidates => .error (.ambiguous argument candidates)
  | .unknown => .ok ((progress.leave [argument]).expect .anything)
  | .operand =>
    .ok ((progress.readOperand argument).expect
      (if progress.formatTaken then .anything else .afterFormat))
  | .option switch isLong attached =>
    Cluster.ofSwitch edition switch isLong attached >>= progress.readCluster

def step (edition : Edition) (progress : Progress) (argument : Text) : Except Refusal Progress :=
  match progress.expectation with
  | .operands => .ok (progress.readOperand argument)
  | .value switch settings =>
    if argument = terminator ∨ Argument.ofText argument ≠ .operand then
      .error (.valueMissing switch)
    else (progress.setAll (settings ++ [(switch, .text argument)])).map (·.expect .anything)
  | _ =>
    if argument = terminator then .ok progress.readTerminator
    else progress.readArgument edition argument

def finish (progress : Progress) : Except Refusal Options :=
  match progress.expectation with
  | .value switch _ => .error (.valueMissing switch)
  | _ =>
    if progress.leftOver = [] then .ok progress.options
    else .error (.unrecognized progress.leftOver)

def run (edition : Edition) (progress : Progress) (arguments : List Text) :
    Except Refusal Progress :=
  arguments.foldlM (step edition) progress

theorem run_append (edition : Edition) (progress : Progress) (first second : List Text) :
    progress.run edition (first ++ second) =
      progress.run edition first >>= fun next => next.run edition second := by
  simp [run]

end Progress

def ambiguity? (arguments : List Text) : Option Refusal :=
  (arguments.takeWhile (· ≠ terminator)).findSome? fun argument =>
    match Argument.ofText argument with
    | .ambiguous candidates => some (.ambiguous argument candidates)
    | _ => none

/-- Ambiguous options are refused before any argument takes effect, and arguments left over
after all of them have. -/
def Options.ofArguments (arguments : List Text) (edition : Edition := .earlier) :
    Except Refusal Options :=
  match ambiguity? arguments with
  | some refusal => .error refusal
  | none => Progress.run edition {} arguments >>= Progress.finish

end GitPrompt.CommandLine
