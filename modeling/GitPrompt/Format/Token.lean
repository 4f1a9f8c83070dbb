import GitPrompt.Format.Frame
import GitPrompt.Text.Printable

/-!
The tokens of a format.
-/
namespace GitPrompt.Format

open Text (words)

inductive Token
  | literal (text : Text)
  | escaped (char : Char)
  | field (letter : Char)
  | groupOpen (kind : GroupKind)
  | styleOpen
  | styleCode (text : Text)
  | semicolon
  | parenOpen
  | close (closer : Closer)
  | comma
  | separator (text : Text)
  | unknown (char : Char)
  | endOfInput
  deriving DecidableEq, Repr

structure Lexeme where
  token : Token
  offset : Nat
  deriving DecidableEq, Repr

namespace Token

/-- What a token says, without the quotes and backslashes that only mark its kind. -/
def text : Token → Text
  | .literal text => text
  | .escaped char => [char]
  | .field letter => [letter]
  | .groupOpen kind => words kind.name
  | .styleOpen => ['#']
  | .styleCode text => text
  | .semicolon => [';']
  | .parenOpen => ['(']
  | .close closer => [closer.char]
  | .comma => [',']
  | .separator text => text
  | .unknown char => [char]
  | .endOfInput => []

def source : Token → Text
  | .literal text => '\'' :: text ++ ['\'']
  | .escaped char => ['\\', char]
  | .field letter => ['\\', letter]
  | .groupOpen kind => kind.opener
  | token => token.text

def described : Token → Text
  | .endOfInput => words "end of input"
  | token => Text.quoted token.text

inductive Kind
  | literal | escaped | field | groupOpen | styleOpen | styleCode | semicolon | parenOpen
  | close (closer : Closer)
  | comma | separator | unknown | endOfInput
  deriving DecidableEq, Repr

def kind : Token → Kind
  | .literal _ => .literal
  | .escaped _ => .escaped
  | .field _ => .field
  | .groupOpen _ => .groupOpen
  | .styleOpen => .styleOpen
  | .styleCode _ => .styleCode
  | .semicolon => .semicolon
  | .parenOpen => .parenOpen
  | .close closer => .close closer
  | .comma => .comma
  | .separator _ => .separator
  | .unknown _ => .unknown
  | .endOfInput => .endOfInput

def Kind.all : List Kind :=
  [.literal, .escaped, .field, .groupOpen, .styleOpen, .styleCode, .semicolon, .parenOpen,
   .close .paren, .close .curly, .close .square, .close .angle, .comma, .separator, .unknown,
   .endOfInput]

def Kind.name : Kind → String
  | .literal => "LITERAL"
  | .escaped => "ESCAPED"
  | .field => "FIELD"
  | .groupOpen => "GROUP_OPEN"
  | .styleOpen => "STYLE_OPEN"
  | .styleCode => "STYLE_CODE"
  | .semicolon => "STYLE_SEMI"
  | .parenOpen => "LPAREN"
  | .close .paren => "RPAREN"
  | .close .curly => "RBRACE"
  | .close .square => "RBRACKET"
  | .close .angle => "RANGLE"
  | .comma => "COMMA"
  | .separator => "SEPARATOR"
  | .unknown => "UNKNOWN"
  | .endOfInput => "EOF"

def Kind.title : Kind → String
  | .literal => "literal"
  | .escaped => "escaped"
  | .field => "field"
  | .groupOpen => "group open"
  | .styleOpen => "style open"
  | .styleCode => "style code"
  | .semicolon => "';'"
  | .parenOpen => "'('"
  | .close .paren => "')'"
  | .close .curly => "'\x7d'"
  | .close .square => "']'"
  | .close .angle => "'>'"
  | .comma => "','"
  | .separator => "separator"
  | .unknown => "unknown character"
  | .endOfInput => "end of input"

theorem Kind.mem_all (kind : Kind) : kind ∈ all := by
  cases kind with
  | close closer => cases closer <;> decide
  | _ => decide

theorem Kind.nodup_names : (all.map name).Nodup := by decide

theorem Kind.nodup_titles : (all.map title).Nodup := by decide

end Token
end GitPrompt.Format
