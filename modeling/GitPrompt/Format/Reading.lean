import GitPrompt.Format.Scan
import GitPrompt.Format.Tree

/-!
Building the tree of a format from its tokens. Each token is read once; constructs that are
still open are kept on a stack together with what stood before them.
-/
namespace GitPrompt.Format

def bracketOpen : Style.Ground → Char
  | .fore => '['
  | .back => '\x7b'

def bracketClose : Style.Ground → Char
  | .fore => ']'
  | .back => '\x7d'

def groundOf? : Char → Option Style.Ground
  | '[' => some .fore
  | '\x7b' => some .back
  | _ => none

def colourComponent (text : Text) : Except Fault Int :=
  if text = [] || !text.all Text.isAsciiDigit then .error (.colourText text)
  else
    let value := Text.numeral text
    if 255 < value then .error (.colourRange value) else .ok value

def rgbCode (ground : Style.Ground) (text : Text) : Except Fault Style.Code :=
  match text.splitOn ',' with
  | [red, green, blue] => do
    let red ← colourComponent red
    let green ← colourComponent green
    let blue ← colourComponent blue
    return .rgb ground red green blue
  | _ => .error .colourShape

def bracketCode (ground : Style.Ground) (closer : Char) (text : Text) :
    Except Fault Style.Code :=
  if text.getLast? = some closer then rgbCode ground text.dropLast else .error (.colourOpen closer)

def styleCode (text : Text) : Except Fault Style.Code :=
  match text with
  | '[' :: rest => bracketCode .fore ']' rest
  | '\x7b' :: rest => bracketCode .back '\x7d' rest
  | _ =>
    match text with
    | [letter] =>
      match Style.Code.ofLetter? letter with
      | some code => .ok code
      | none => numberCode
    | _ => numberCode
where
  numberCode : Except Fault Style.Code :=
    if text.all Text.isAsciiDigit then (colourComponent text).map .indexed
    else .error (.unknownCode text)

/-- A sequence being read: its items, the latest first, and the separators read since. -/
structure Draft where
  items : List (Text × Element) := []
  pending : Text := []
  deriving DecidableEq, Repr

namespace Draft

def empty : Draft := {}

def add (draft : Draft) (element : Element) : Draft := ⟨(draft.pending, element) :: draft.items, []⟩

def space (draft : Draft) (text : Text) : Draft := { draft with pending := draft.pending ++ text }

def sequence (draft : Draft) : Sequence := Sequence.ofItems draft.items.reverse draft.pending

theorem items_sequence (draft : Draft) : draft.sequence.items = draft.items.reverse :=
  Sequence.items_ofItems _ _

theorem trailing_sequence (draft : Draft) : draft.sequence.trailing = draft.pending :=
  Sequence.trailing_ofItems _ _

end Draft

/-- A construct whose sequence is being read, with all that its element will need. Codes and
earlier arguments are kept in reverse. -/
inductive Opening
  | group (kind : GroupKind)
  | arguments (field : Field) (offset : Nat) (before : List Sequence)
  | style (codes : List Style.Code)
  deriving DecidableEq, Repr

namespace Opening

def frame : Opening → Frame
  | .group kind => .group kind
  | .arguments _ _ _ => .arguments
  | .style _ => .style

def element (opening : Opening) (last : Sequence) : Element :=
  match opening with
  | .group kind => .group kind last
  | .arguments field offset before =>
    .field field (Arguments.ofList (last :: before).reverse) offset
  | .style codes => .style codes.reverse last

end Opening

structure Level where
  opening : Opening
  opened : Nat
  outer : Draft
  deriving DecidableEq, Repr

inductive Phase
  | ready
  | fieldRead (field : Field) (offset : Nat)
  | codes (opened : Nat) (codes : List Style.Code) (semicolon : Option Nat)
  deriving DecidableEq, Repr

structure Reading where
  levels : List Level
  draft : Draft
  phase : Phase
  deriving DecidableEq, Repr

namespace Reading

def initial : Reading := ⟨[], .empty, .ready⟩

def add (reading : Reading) (element : Element) : Reading :=
  { reading with draft := reading.draft.add element, phase := .ready }

def enter (reading : Reading) (opening : Opening) (opened : Nat) : Reading :=
  ⟨⟨opening, opened, reading.draft⟩ :: reading.levels, .empty, .ready⟩

/-- A token that no element starts with ends the sequence: it closes the innermost construct,
moves on to its next argument, or is out of place. -/
def stop (reading : Reading) (lexeme : Lexeme) : Except FormatError Reading :=
  match reading.levels with
  | [] =>
    match lexeme.token with
    | .endOfInput => .ok reading
    | .close _ => .error ⟨.closesNothing lexeme.token, lexeme.offset⟩
    | _ => .error ⟨.leftOver lexeme.token, lexeme.offset⟩
  | level :: outer =>
    let sequence := reading.draft.sequence
    if lexeme.token = .close level.opening.frame.closer then
      .ok ⟨outer, level.outer.add (level.opening.element sequence), .ready⟩
    else
      match level.opening, lexeme.token with
      | .arguments field offset before, .comma =>
        .ok ⟨{ level with opening := .arguments field offset (sequence :: before) } :: outer,
          .empty, .ready⟩
      | _, _ =>
        .error ⟨.unclosed level.opening.frame level.opened lexeme.token, lexeme.offset⟩

def readElement (reading : Reading) (lexeme : Lexeme) : Except FormatError Reading :=
  match lexeme.token with
  | .separator text => .ok { reading with draft := reading.draft.space text }
  | .literal text => .ok (reading.add (.literal text))
  | .escaped char => .ok (reading.add (.literal [char]))
  | .field letter =>
    match Field.ofLetter? letter with
    | some field => .ok { reading with phase := .fieldRead field lexeme.offset }
    | none => .error ⟨.unknownField letter, lexeme.offset⟩
  | .groupOpen kind => .ok (reading.enter (.group kind) lexeme.offset)
  | .styleOpen => .ok { reading with phase := .codes lexeme.offset [] none }
  | .unknown char => .error ⟨.unquoted char, lexeme.offset⟩
  | .parenOpen => .error ⟨.strayParen, lexeme.offset⟩
  | _ => reading.stop lexeme

/-- A semicolon is at fault when no code stands before it, when another one follows it, or
when the list ends after it. -/
def readCodes (reading : Reading) (opened : Nat) (codes : List Style.Code)
    (semicolon : Option Nat) (lexeme : Lexeme) : Except FormatError Reading :=
  match lexeme.token with
  | .styleCode text =>
    match styleCode text with
    | .ok code => .ok { reading with phase := .codes opened (code :: codes) none }
    | .error fault => .error ⟨fault, lexeme.offset⟩
  | .semicolon =>
    if codes = [] || semicolon.isSome then .error ⟨.straySemicolon, lexeme.offset⟩
    else .ok { reading with phase := .codes opened codes (some lexeme.offset) }
  | found =>
    if codes = [] then .error ⟨.noCodes found, lexeme.offset⟩
    else
      match semicolon with
      | some offset => .error ⟨.straySemicolon, offset⟩
      | none =>
        if found = .parenOpen then .ok (reading.enter (.style codes) opened)
        else .error ⟨.noBody found, lexeme.offset⟩

def step (reading : Reading) (lexeme : Lexeme) : Except FormatError Reading :=
  match reading.phase with
  | .ready => reading.readElement lexeme
  | .fieldRead field offset =>
    if lexeme.token = .parenOpen then
      .ok (reading.enter (.arguments field offset []) lexeme.offset)
    else (reading.add (.field field .nil offset)).readElement lexeme
  | .codes opened codes semicolon => reading.readCodes opened codes semicolon lexeme

def run (reading : Reading) (lexemes : List Lexeme) : Except FormatError Reading :=
  lexemes.foldlM step reading

theorem run_nil (reading : Reading) : reading.run [] = .ok reading := rfl

theorem run_cons (reading : Reading) (lexeme : Lexeme) (rest : List Lexeme) :
    reading.run (lexeme :: rest) = reading.step lexeme >>= fun next => next.run rest := rfl

theorem run_append (reading : Reading) (first second : List Lexeme) :
    reading.run (first ++ second) = reading.run first >>= fun next => next.run second := by
  simp [run]

end Reading

def parseLexemes (lexemes : List Lexeme) : Except FormatError Sequence :=
  (Reading.initial.run lexemes).map fun reading => reading.draft.sequence

def parse (source : Text) : Except FormatError Sequence :=
  tokenize source >>= parseLexemes

end GitPrompt.Format
