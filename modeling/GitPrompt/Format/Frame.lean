import GitPrompt.Text

/-!
The constructs of a format that enclose a sequence, and what opens and closes each of them.
-/
namespace GitPrompt.Format

open Text (words)

inductive Closer
  | paren | curly | square | angle
  deriving DecidableEq, Repr

def Closer.char : Closer → Char
  | .paren => ')'
  | .curly => '\x7d'
  | .square => ']'
  | .angle => '>'

def Closer.ofChar? : Char → Option Closer
  | ')' => some .paren
  | '\x7d' => some .curly
  | ']' => some .square
  | '>' => some .angle
  | _ => none

theorem Closer.ofChar?_char (closer : Closer) : ofChar? closer.char = some closer := by
  cases closer <;> rfl

inductive GroupKind
  | paren | curly | square | angle | bare
  deriving DecidableEq, Repr

namespace GroupKind

def all : List GroupKind := [.paren, .curly, .square, .angle, .bare]

def name : GroupKind → String
  | .paren => "paren"
  | .curly => "curly"
  | .square => "square"
  | .angle => "angle"
  | .bare => "bare"

def opener : GroupKind → Text
  | .paren => ['\\', '(']
  | .curly => ['\\', '\x7b']
  | .square => ['\\', '[']
  | .angle => ['\\', '<']
  | .bare => ['\\', 'g', '(']

/-- The four kinds that the character after the backslash decides alone. -/
def ofChar? : Char → Option GroupKind
  | '(' => some .paren
  | '\x7b' => some .curly
  | '[' => some .square
  | '<' => some .angle
  | _ => none

def closer : GroupKind → Closer
  | .paren => .paren
  | .curly => .curly
  | .square => .square
  | .angle => .angle
  | .bare => .paren

def left : GroupKind → Text
  | .paren => ['(']
  | .curly => ['\x7b']
  | .square => ['[']
  | .angle => ['<']
  | .bare => []

def right : GroupKind → Text
  | .bare => []
  | kind => [kind.closer.char]

end GroupKind

inductive Frame
  | group (kind : GroupKind)
  | arguments
  | style
  deriving DecidableEq, Repr

def Frame.closer : Frame → Closer
  | .group kind => kind.closer
  | _ => .paren

def Frame.title : Frame → Text
  | .group kind => words kind.name ++ words " group"
  | .arguments => words "argument list"
  | .style => words "style"

end GitPrompt.Format
