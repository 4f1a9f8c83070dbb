import GitPrompt.ErrorKind
import GitPrompt.Format.Token
import GitPrompt.Position

/-!
What can be wrong with a format, where, and in which words it is reported.
-/
namespace GitPrompt.Format

open Text (words)

inductive Fault
  | literalBeforeBackslash
  | literalOpen
  | loneBackslash
  | unrecognizedEscape (char : Char)
  | unquoted (char : Char)
  | strayParen
  | unclosed (frame : Frame) (opened : Nat) (found : Token)
  | unknownField (letter : Char)
  | straySemicolon
  | noCodes (found : Token)
  | noBody (found : Token)
  | unknownCode (text : Text)
  | colourOpen (closer : Char)
  | colourShape
  | colourText (text : Text)
  | colourRange (value : Nat)
  | closesNothing (found : Token)
  | leftOver (found : Token)
  deriving DecidableEq, Repr

structure FormatError where
  fault : Fault
  offset : Nat
  deriving DecidableEq, Repr

namespace Fault

def kind : Fault → ErrorKind
  | .literalBeforeBackslash => .unterminatedLiteral
  | .literalOpen => .unterminatedLiteral
  | .loneBackslash => .unrecognizedEscape
  | .unrecognizedEscape _ => .unrecognizedEscape
  | .unquoted _ => .unexpectedToken
  | .strayParen => .unexpectedToken
  | .unclosed _ _ _ => .unmatchedDelimiter
  | .unknownField _ => .unknownField
  | .straySemicolon => .unexpectedToken
  | .noCodes _ => .unexpectedToken
  | .noBody _ => .unexpectedToken
  | .unknownCode _ => .unknownStyleCode
  | .colourOpen _ => .unmatchedDelimiter
  | .colourShape => .malformedColour
  | .colourText _ => .malformedColour
  | .colourRange _ => .malformedColour
  | .closesNothing _ => .trailingInput
  | .leftOver _ => .trailingInput

def escapeNamed (char : Char) : Text := ['\'', '\\', char, '\'']

def closerNamed (char : Char) : Text := ['\'', char, '\'']

def openedAt (source : Text) (frame : Frame) (opened : Nat) : Text :=
  words " to close " ++ frame.title ++ words " opened at " ++
    (Position.ofOffset source opened).text

def unclosedMessage (source : Text) (frame : Frame) (opened : Nat) (found : Token) : Text :=
  let closer := closerNamed frame.closer.char
  if found = .endOfInput then
    words "reached end without finding " ++ closer ++ openedAt source frame opened
  else
    words "expected " ++ closer ++ openedAt source frame opened ++ words ", found " ++
      found.described

def message (source : Text) (fault : Fault) : Text :=
  match fault with
  | .literalBeforeBackslash =>
    words "literal must be closed with a quote before a backslash"
  | .literalOpen => words "missing closing quote for literal"
  | .loneBackslash => words "backslash at end of format"
  | .unrecognizedEscape char => escapeNamed char ++ words " is neither a field nor a group"
  | .unquoted char =>
    Text.quoted [char] ++ words " is not a valid expression; quote literal text"
  | .strayParen => words "'(' must directly follow a field or a style"
  | .unclosed frame opened found => unclosedMessage source frame opened found
  | .unknownField letter => escapeNamed letter ++ words " is not a known field"
  | .straySemicolon => words "';' may only appear between two style codes"
  | .noCodes found => words "expected a style code after '#', found " ++ found.described
  | .noBody found => words "expected '(' after style codes, found " ++ found.described
  | .unknownCode text => Text.quoted text ++ words " is not a style"
  | .colourOpen closer => words "colour code is missing its closing " ++ closerNamed closer
  | .colourShape =>
    words "RGB colour must be three comma separated values, e.g. '0,0,0'"
  | .colourText text => Text.quoted text ++ words " is not a colour value"
  | .colourRange value =>
    words "colour value " ++ Text.decimal value ++ words " is outside 0-255"
  | .closesNothing found => found.described ++ words " does not close anything"
  | .leftOver found =>
    words "unexpected " ++ found.described ++ words " after end of format"

end Fault

namespace FormatError

def kind (error : FormatError) : ErrorKind := error.fault.kind

def message (source : Text) (error : FormatError) : Text := error.fault.message source

def position (source : Text) (error : FormatError) : Position :=
  Position.ofOffset source error.offset

end FormatError
end GitPrompt.Format
