import GitPrompt.Format.Fault
import GitPrompt.Text
import GitPrompt.Text.Letter

/-!
Splitting a format into tokens, one character at a time. The scan knows which construct it
is directly in, because a comma between the arguments of a field is a token of its own and
a separator anywhere else.
-/
namespace GitPrompt.Format

def separators : Text := [' ', '|', '@', '_', ':', ';', ',', '.']

def isSeparator (c : Char) : Bool := separators.contains c

def fieldSymbols : Text := ['+', '-']

/-- What the characters read last have begun. A text being read is kept in reverse, and
`start` is where it began. -/
inductive Mode
  | plain
  | separator (start : Nat) (text : Text)
  | literal (start : Nat) (text : Text)
  | escape (start : Nat)
  | letterG (start : Nat)
  | fieldEnd
  | codes
  | number (start : Nat) (digits : Text)
  | colour (start : Nat) (closer : Char) (text : Text)
  deriving DecidableEq, Repr

structure Scan where
  offset : Nat
  lexemes : List Lexeme
  frames : List Frame
  mode : Mode
  deriving DecidableEq, Repr

namespace Scan

def initial : Scan := ⟨0, [], [], .plain⟩

def emitAt (scan : Scan) (token : Token) (start : Nat) (mode : Mode) : Scan :=
  { scan with lexemes := ⟨token, start⟩ :: scan.lexemes, mode := mode }

def emit (scan : Scan) (token : Token) (mode : Mode) : Scan :=
  scan.emitAt token scan.offset mode

def enter (scan : Scan) (frame : Frame) : Scan :=
  { scan with frames := frame :: scan.frames }

/-- A closer that does not fit the innermost construct closes nothing. -/
def leave (scan : Scan) (closer : Closer) : Scan :=
  match scan.frames with
  | [] => scan
  | frame :: outer => if frame.closer = closer then { scan with frames := outer } else scan

def inArguments (scan : Scan) : Bool := scan.frames.head? == some .arguments

def readPlain (scan : Scan) (c : Char) : Scan :=
  if c = '\'' then { scan with mode := .literal scan.offset [] }
  else if c = '\\' then { scan with mode := .escape scan.offset }
  else if c = '#' then scan.emit .styleOpen .codes
  else
    match Closer.ofChar? c with
    | some closer => (scan.emit (.close closer) .plain).leave closer
    | none =>
      if c = ',' && scan.inArguments then scan.emit .comma .plain
      else if isSeparator c then { scan with mode := .separator scan.offset [c] }
      else if c = '(' then scan.emit .parenOpen .plain
      else scan.emit (.unknown c) .plain

/-- A character of a list of style codes. Anything but the characters that end the list is
taken for a code, known or not. -/
def readCodes (scan : Scan) (c : Char) : Scan :=
  if c = '(' then (scan.emit .parenOpen .plain).enter .style
  else if c = ')' || c = '\'' || c = '\\' then scan.readPlain c
  else if c = ';' then scan.emit .semicolon .codes
  else if c = '[' then { scan with mode := .colour scan.offset ']' [c] }
  else if c = '\x7b' then { scan with mode := .colour scan.offset '\x7d' [c] }
  else if Text.isAsciiDigit c then { scan with mode := .number scan.offset [c] }
  else scan.emit (.styleCode [c]) .codes

/-- End a token whose end shows only in the character after it. -/
def settle (scan : Scan) : Scan :=
  match scan.mode with
  | .separator start text => scan.emitAt (.separator text.reverse) start .plain
  | .letterG start => scan.emitAt (.field 'g') start .fieldEnd
  | .number start digits => scan.emitAt (.styleCode digits.reverse) start .codes
  | .colour start _ text => scan.emitAt (.styleCode text.reverse) start .codes
  | _ => scan

/-- The character after a backslash. A `g` opens a group only when a parenthesis follows. -/
def readEscape (scan : Scan) (start : Nat) (c : Char) : Except FormatError Scan :=
  match GroupKind.ofChar? c with
  | some kind => .ok ((scan.emitAt (.groupOpen kind) start .plain).enter (.group kind))
  | none =>
    if c = 'g' then .ok { scan with mode := .letterG start }
    else if c = '\\' || c = '\'' then .ok (scan.emitAt (.escaped c) start .plain)
    else if Text.isLetter c || fieldSymbols.contains c then
      .ok (scan.emitAt (.field c) start .fieldEnd)
    else .error ⟨.unrecognizedEscape c, start⟩

def read (scan : Scan) (c : Char) : Except FormatError Scan :=
  match scan.mode with
  | .plain => .ok (scan.readPlain c)
  | .separator start text =>
    if isSeparator c && !(c = ',' && scan.inArguments) then
      .ok { scan with mode := .separator start (c :: text) }
    else .ok (scan.settle.readPlain c)
  | .literal start text =>
    if c = '\'' then .ok (scan.emitAt (.literal text.reverse) start .plain)
    else if c = '\\' then .error ⟨.literalBeforeBackslash, start⟩
    else .ok { scan with mode := .literal start (c :: text) }
  | .escape start => scan.readEscape start c
  | .letterG start =>
    if c = '(' then .ok ((scan.emitAt (.groupOpen .bare) start .plain).enter (.group .bare))
    else .ok (scan.settle.readPlain c)
  | .fieldEnd =>
    if c = '(' then .ok ((scan.emit .parenOpen .plain).enter .arguments)
    else .ok (scan.readPlain c)
  | .codes => .ok (scan.readCodes c)
  | .number start digits =>
    if Text.isAsciiDigit c then .ok { scan with mode := .number start (c :: digits) }
    else .ok (scan.settle.readCodes c)
  | .colour start closer text =>
    if c = closer then .ok (scan.emitAt (.styleCode (c :: text).reverse) start .codes)
    else if c = '(' then .ok (scan.settle.readCodes c)
    else .ok { scan with mode := .colour start closer (c :: text) }

def step (scan : Scan) (c : Char) : Except FormatError Scan :=
  (scan.read c).map fun next => { next with offset := scan.offset + 1 }

theorem offset_of_step {scan next : Scan} {c : Char} (stepped : scan.step c = .ok next) :
    next.offset = scan.offset + 1 := by
  unfold step at stepped
  cases outcome : scan.read c with
  | error error =>
    rw [outcome] at stepped
    cases stepped
  | ok after =>
    rw [outcome] at stepped
    cases stepped
    rfl

def finish (scan : Scan) : Except FormatError (List Lexeme) :=
  match scan.mode with
  | .literal start _ => .error ⟨.literalOpen, start⟩
  | .escape start => .error ⟨.loneBackslash, start⟩
  | _ => .ok (⟨.endOfInput, scan.offset⟩ :: scan.settle.lexemes).reverse

def run (scan : Scan) (text : Text) : Except FormatError Scan := text.foldlM step scan

theorem run_nil (scan : Scan) : scan.run [] = .ok scan := rfl

theorem run_cons (scan : Scan) (c : Char) (rest : Text) :
    scan.run (c :: rest) = scan.step c >>= fun next => next.run rest := rfl

theorem run_append (scan : Scan) (first second : Text) :
    scan.run (first ++ second) = scan.run first >>= fun next => next.run second := by
  simp [run]

end Scan

def tokenize (source : Text) : Except FormatError (List Lexeme) :=
  Scan.initial.run source >>= Scan.finish

end GitPrompt.Format
