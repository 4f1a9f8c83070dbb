import GitPrompt.Format.Reading

/-!
Reading a format by recursive descent over its tokens. A production begins at an index and
leaves the index of the first token that it did not take. Tokens, tables and numbers are looked up
without a check, and the recursion is given no more depth than there are tokens, so that a descent
can crash. A number may have as many digits as the limit admits.
-/
namespace GitPrompt.Format

/-- What can go wrong besides a fault in the format. -/
inductive Crash
  | beyond (index : Nat)
  | noGroupKind (name : Text)
  | noGroupCloser (kind : GroupKind)
  | noCloserText (kind : Token.Kind)
  | noNumber (text : Text)
  | noCharacter
  | tooDeep
  deriving DecidableEq, Repr

inductive Halt
  | raised (error : FormatError)
  | crashed (crash : Crash)
  deriving DecidableEq, Repr

namespace Descent

def raise {α : Type} (fault : Fault) (offset : Nat) : Except Halt α :=
  .error (.raised ⟨fault, offset⟩)

def sure {α : Type} (crash : Crash) : Option α → Except Halt α
  | some value => .ok value
  | none => .error (.crashed crash)

section
variable (limit : Option Nat)

def number? (text : Text) : Option Nat :=
  if text ≠ [] ∧ text.all Text.isAsciiDigit then Text.number? limit text else none

def component (place : Nat) (text : Text) : Except Halt Int :=
  if text = [] || !text.all Text.isAsciiDigit then raise (.colourText text) place
  else do
    let value ← sure (.noNumber text) (number? limit text)
    if 255 < value then raise (.colourRange value) place else return value

def components (place : Nat) (text : Text) : Except Halt (Int × Int × Int) :=
  match text.splitOn ',' with
  | [red, green, blue] => do
    let red ← component limit place red
    let green ← component limit place green
    let blue ← component limit place blue
    return (red, green, blue)
  | _ => raise .colourShape place

def named? : Text → Option Style.Code
  | [letter] => Style.Code.ofLetter? letter
  | _ => none

def code (place : Nat) (text : Text) : Except Halt Style.Code :=
  match named? text with
  | some code => .ok code
  | none => do
    let first ← sure .noCharacter text.head?
    match groundOf? first with
    | some ground =>
      if text.length < 2 ∨ text.getLast? ≠ some (bracketClose ground) then
        raise (.colourOpen (bracketClose ground)) place
      else do
        let (red, green, blue) ← components limit place text.tail.dropLast
        return .rgb ground red green blue
    | none =>
      if text.all Text.isAsciiDigit then (component limit place text).map .indexed
      else raise (.unknownCode text) place

variable (tokens : List Lexeme)

def token (i : Nat) : Except Halt Lexeme := sure (.beyond i) tokens[i]?

def codes : Nat → List Style.Code → Bool → Nat → Except Halt ((List Style.Code × Bool) × Nat)
  | 0, _, _, _ => .error (.crashed .tooDeep)
  | fuel + 1, before, semicolon, i => do
    let found ← token tokens i
    match found.token with
    | .styleCode text => do
      let code ← code limit found.offset text
      codes fuel (code :: before) false (i + 1)
    | .semicolon =>
      if before = [] ∨ semicolon then raise .straySemicolon found.offset
      else codes fuel before true (i + 1)
    | _ => return ((before, semicolon), i)

def closerTexts : List (Token.Kind × Char) :=
  [(.close .paren, ')'), (.close .curly, '\x7d'), (.close .square, ']'), (.close .angle, '>')]

def groupClosers : List (GroupKind × Token.Kind) :=
  [(.paren, .close .paren), (.curly, .close .curly), (.square, .close .square),
   (.angle, .close .angle), (.bare, .close .paren)]

def closed (closer : Token.Kind) (frame : Frame) (opened : Nat) (element : Element) (i : Nat) :
    Except Halt (Element × Nat) := do
  let found ← token tokens i
  if found.token.kind = closer then return (element, i + 1)
  else
    let _ ← sure (.noCloserText closer) (closerTexts.lookup closer)
    raise (.unclosed frame opened found.token) found.offset

variable (body : Nat → Except Halt (Draft × Nat))

/-- The last argument and the ones before it, the latest first. -/
def arguments : Nat → Draft → List Sequence → Nat → Except Halt ((Draft × List Sequence) × Nat)
  | 0, _, _, _ => .error (.crashed .tooDeep)
  | fuel + 1, last, before, i => do
    let found ← token tokens i
    if found.token = .comma then
      let (argument, j) ← body (i + 1)
      arguments fuel argument (last.sequence :: before) j
    else return ((last, before), i)

def called (fuel : Nat) (field : Field) (place opened i : Nat) : Except Halt (Element × Nat) := do
  let (first, j) ← body i
  let ((last, before), j) ← arguments tokens body fuel first [] j
  closed tokens (.close .paren) .arguments opened
    (.field field (Arguments.ofList (last.sequence :: before).reverse) place) j

def field (fuel : Nat) (letter : Char) (place i : Nat) : Except Halt (Element × Nat) :=
  match Field.ofLetter? letter with
  | none => raise (.unknownField letter) place
  | some field => do
    let opener ← token tokens (i + 1)
    if opener.token ≠ .parenOpen then return (.field field .nil place, i + 1)
    else called tokens body fuel field place opener.offset (i + 2)

def group (opener : Lexeme) (i : Nat) : Except Halt (Element × Nat) := do
  let name := opener.token.text
  let kind ← sure (.noGroupKind name) (GroupKind.all.find? fun kind => Text.words kind.name == name)
  let (inner, j) ← body (i + 1)
  let closer ← sure (.noGroupCloser kind) (groupClosers.lookup kind)
  closed tokens closer (.group kind) opener.offset (.group kind inner.sequence) j

def styled (opened : Nat) (codes : List Style.Code) (semicolon : Bool) (j : Nat) :
    Except Halt (Element × Nat) := do
  let found ← token tokens j
  if codes = [] then raise (.noCodes found.token) found.offset
  else if semicolon then
    let last ← token tokens (j - 1)
    raise .straySemicolon last.offset
  else if found.token ≠ .parenOpen then raise (.noBody found.token) found.offset
  else
    let (inner, k) ← body (j + 1)
    closed tokens (.close .paren) .style opened (.style codes.reverse inner.sequence) k

def style (fuel : Nat) (opener : Lexeme) (i : Nat) : Except Halt (Element × Nat) := do
  let ((codes, semicolon), j) ← codes limit tokens fuel [] false (i + 1)
  styled tokens body opener.offset codes semicolon j

def element (fuel i : Nat) : Except Halt (Element × Nat) := do
  let found ← token tokens i
  match found.token with
  | .literal text => return (.literal text, i + 1)
  | .escaped char => return (.literal [char], i + 1)
  | .field letter => field tokens body fuel letter found.offset i
  | .groupOpen _ => group tokens body found i
  | _ => style limit tokens body fuel found i

end

def startsElement : Token → Bool
  | .literal _ | .escaped _ | .field _ | .groupOpen _ | .styleOpen => true
  | _ => false

def turn (limit : Option Nat) (tokens : List Lexeme)
    (later : Draft → Nat → Except Halt (Draft × Nat)) (fuel : Nat) (draft : Draft) (i : Nat) :
    Except Halt (Draft × Nat) := do
  let found ← token tokens i
  match found.token with
  | .separator text => later (draft.space text) (i + 1)
  | .unknown char => raise (.unquoted char) found.offset
  | .parenOpen => raise .strayParen found.offset
  | start =>
    if startsElement start then
      let (element, j) ← element limit tokens (later .empty) fuel i
      later (draft.add element) j
    else return (draft, i)

def sequence (limit : Option Nat) (tokens : List Lexeme) :
    Nat → Draft → Nat → Except Halt (Draft × Nat)
  | 0, _, _ => .error (.crashed .tooDeep)
  | fuel + 1, draft, i => turn limit tokens (sequence limit tokens fuel) fuel draft i

def parseTokens (limit : Option Nat) (tokens : List Lexeme) : Except Halt Sequence := do
  let (draft, i) ← sequence limit tokens tokens.length .empty 0
  let found ← token tokens i
  match found.token with
  | .endOfInput => return draft.sequence
  | .close _ => raise (.closesNothing found.token) found.offset
  | _ => raise (.leftOver found.token) found.offset

def parse (limit : Option Nat) (source : Text) : Except Halt Sequence :=
  (tokenize source).mapError .raised >>= parseTokens limit

end Descent
end GitPrompt.Format
