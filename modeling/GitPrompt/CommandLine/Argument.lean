import GitPrompt.Text

/-!
The options of the command line, and what one argument of it is by its spelling alone.
-/
namespace GitPrompt.CommandLine

inductive Switch
  | help | elseFormat | path | bashEscapes | noColour | silent | verbose
  deriving DecidableEq, Repr

namespace Switch

def all : List Switch := [.help, .elseFormat, .path, .bashEscapes, .noColour, .silent, .verbose]

def letter? : Switch → Option Char
  | .help => some 'h'
  | .elseFormat => some 'e'
  | .path => some 'p'
  | .bashEscapes => some 'b'
  | .noColour => none
  | .silent => none
  | .verbose => some 'v'

def longName : Switch → String
  | .help => "--help"
  | .elseFormat => "--else-format"
  | .path => "--path"
  | .bashEscapes => "--bash-escapes"
  | .noColour => "--no-color"
  | .silent => "--silent"
  | .verbose => "--verbose"

def long (switch : Switch) : Text := switch.longName.toList

def takesValue : Switch → Bool
  | .elseFormat => true
  | .path => true
  | _ => false

def title (switch : Switch) : Text :=
  match switch.letter? with
  | some letter => '-' :: letter :: '/' :: switch.long
  | none => switch.long

def ofLetter? (letter : Char) : Option Switch := all.find? (·.letter? == some letter)

def ofLong? (spelling : Text) : Option Switch := all.find? (·.long == spelling)

def ofSpelling? : Text → Option Switch
  | ['-', letter] => ofLetter? letter
  | spelling => ofLong? spelling

end Switch

def terminator : Text := ['-', '-']

structure Attachment where
  text : Text
  setOff : Bool
  deriving DecidableEq, Repr

inductive Argument
  | operand
  | option (switch : Switch) (isLong : Bool) (attached : Option Attachment)
  | ambiguous (candidates : List Switch)
  | unknown
  deriving DecidableEq, Repr

/-- A minus sign and an integer or a number with a decimal point. One line feed may follow. -/
def isNegativeNumber : Text → Bool
  | '-' :: rest =>
    let number := if rest.getLast? = some '\n' then rest.dropLast else rest
    match number.dropWhile Text.isDigit with
    | [] => number ≠ []
    | '.' :: fraction => fraction ≠ [] ∧ fraction.all Text.isDigit
    | _ => false
  | _ => false

def splitEquals (text : Text) : Text × Option Text :=
  match text.dropWhile (· ≠ '=') with
  | [] => (text, none)
  | _ :: value => (text.takeWhile (· ≠ '='), some value)

/-- A long option may be cut short as long as only one option begins that way. -/
def longArgument (text : Text) : Argument :=
  let (start, value) := splitEquals text
  match Switch.all.filter fun switch => Text.startsWith start switch.long with
  | [] => .unknown
  | [switch] => .option switch true (value.map (⟨·, true⟩))
  | candidates => .ambiguous candidates

def shortArgument (letter : Char) (rest : Text) : Argument :=
  match Switch.ofLetter? letter with
  | some switch => .option switch false (some ⟨rest, false⟩)
  | none => .unknown

/-- An argument that is no option, though it begins like one, is an operand when it is a
negative number or holds a space. -/
def orOperand (text : Text) : Argument → Argument
  | .unknown => if isNegativeNumber text || ' ' ∈ text then .operand else .unknown
  | argument => argument

def Argument.ofText (text : Text) : Argument :=
  match text with
  | '-' :: letter :: rest =>
    match Switch.ofSpelling? text with
    | some switch => .option switch (letter = '-') none
    | none =>
      match splitEquals text with
      | (spelling, some value) =>
        match Switch.ofSpelling? spelling with
        | some switch => .option switch (letter = '-') (some ⟨value, true⟩)
        | none => general letter rest
      | _ => general letter rest
  | _ => .operand
where
  general (letter : Char) (rest : Text) : Argument :=
    orOperand text (if letter = '-' then longArgument text else shortArgument letter rest)

end GitPrompt.CommandLine
