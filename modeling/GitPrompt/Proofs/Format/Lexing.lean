import GitPrompt.Format.Source
import GitPrompt.Format.Scan
import GitPrompt.Proofs.Format.Grammar

/-!
The tokens of a format, one rule for each kind of token. A rule says which text the token is
written as, what may follow it, and which constructs are open after it.
-/
namespace GitPrompt.Format

def Scope.within : List Frame → Scope
  | .arguments :: _ => .argument
  | _ => .free

def closeFrame (closer : Closer) : List Frame → List Frame
  | [] => []
  | frame :: outer => if frame.closer = closer then outer else frame :: outer

theorem Scan.leave_eq (scan : Scan) (closer : Closer) :
    scan.leave closer = { scan with frames := closeFrame closer scan.frames } := by
  rcases scan with ⟨offset, lexemes, frames, mode⟩
  cases frames with
  | nil => rfl
  | cons frame outer =>
    simp only [leave, closeFrame]
    split <;> rfl

def codesEnd : Text := ['(', ')', '\'', '\\']

def isSingleCode (c : Char) : Bool :=
  !codesEnd.contains c && c != ';' && c != '[' && c != '\x7b' && !c.isDigit

/-- A field is named by one character that nothing else needs after a backslash. -/
def isFieldLetter (c : Char) : Bool :=
  (GroupKind.ofChar? c).isNone && !isSpecial c && (Text.isLetter c || fieldSymbols.contains c)

def isStray (c : Char) : Bool :=
  c != '\'' && c != '\\' && c != '#' && (Closer.ofChar? c).isNone && !isSeparator c && c != '('

/-- The tokens of a list of style codes, of which `rest` is what follows the list. -/
inductive CodesLex (rest : Text) : Nat → Text → List Lexeme → Prop
  | done {start : Nat} : CodesLex rest start [] []
  | semicolon {start : Nat} {list : Text} {more : List Lexeme}
      (others : CodesLex rest (start + 1) list more) :
      CodesLex rest start (';' :: list) (⟨.semicolon, start⟩ :: more)
  | single {start : Nat} {c : Char} {list : Text} {more : List Lexeme}
      (alone : isSingleCode c = true) (others : CodesLex rest (start + 1) list more) :
      CodesLex rest start (c :: list) (⟨.styleCode [c], start⟩ :: more)
  | number {start : Nat} {digits list : Text} {more : List Lexeme} (nonempty : digits ≠ [])
      (ascii : ∀ c ∈ digits, c.isDigit = true) (whole : ∀ c ∈ list.head?, c.isDigit = false)
      (others : CodesLex rest (start + digits.length) list more) :
      CodesLex rest start (digits ++ list) (⟨.styleCode digits, start⟩ :: more)
  | colour {start : Nat} (ground : Style.Ground) {inner list : Text} {more : List Lexeme}
      (within : ∀ c ∈ inner, c ≠ bracketClose ground ∧ c ≠ '(')
      (others : CodesLex rest (start + inner.length + 2) list more) :
      CodesLex rest start (bracketOpen ground :: inner ++ bracketClose ground :: list)
        (⟨.styleCode (bracketOpen ground :: inner ++ [bracketClose ground]), start⟩ :: more)
  | unclosed {start : Nat} (ground : Style.Ground) {inner : Text}
      (within : ∀ c ∈ inner, c ≠ bracketClose ground ∧ c ≠ '(')
      (cut : ∀ c ∈ rest.head?, c = '(') :
      CodesLex rest start (bracketOpen ground :: inner)
        [⟨.styleCode (bracketOpen ground :: inner), start⟩]

/-- The tokens of a text that begins at an offset, inside the given constructs. -/
inductive Lexes : List Frame → Nat → Text → List Lexeme → Prop
  | done {frames : List Frame} {start : Nat} : Lexes frames start [] [⟨.endOfInput, start⟩]
  | literal {frames : List Frame} {start : Nat} {text rest : Text} {more : List Lexeme}
      (plain : ∀ c ∈ text, c ≠ '\'' ∧ c ≠ '\\')
      (others : Lexes frames (start + text.length + 2) rest more) :
      Lexes frames start ('\'' :: text ++ '\'' :: rest) (⟨.literal text, start⟩ :: more)
  | escaped {frames : List Frame} {start : Nat} {c : Char} {rest : Text} {more : List Lexeme}
      (special : c = '\'' ∨ c = '\\') (others : Lexes frames (start + 2) rest more) :
      Lexes frames start ('\\' :: c :: rest) (⟨.escaped c, start⟩ :: more)
  | field {frames : List Frame} {start : Nat} {c : Char} {rest : Text} {more : List Lexeme}
      (letter : isFieldLetter c = true) (bare : rest.head? ≠ some '(')
      (others : Lexes frames (start + 2) rest more) :
      Lexes frames start ('\\' :: c :: rest) (⟨.field c, start⟩ :: more)
  | call {frames : List Frame} {start : Nat} {c : Char} {rest : Text} {more : List Lexeme}
      (letter : isFieldLetter c = true) (other : c ≠ 'g')
      (others : Lexes (.arguments :: frames) (start + 3) rest more) :
      Lexes frames start ('\\' :: c :: '(' :: rest)
        (⟨.field c, start⟩ :: ⟨.parenOpen, start + 2⟩ :: more)
  | group {frames : List Frame} {start : Nat} (kind : GroupKind) {rest : Text}
      {more : List Lexeme}
      (others : Lexes (.group kind :: frames) (start + kind.opener.length) rest more) :
      Lexes frames start (kind.opener ++ rest) (⟨.groupOpen kind, start⟩ :: more)
  | style {frames : List Frame} {start : Nat} {list rest : Text} {codes more : List Lexeme}
      (listed : CodesLex ('(' :: rest) (start + 1) list codes)
      (others : Lexes (.style :: frames) (start + list.length + 2) rest more) :
      Lexes frames start ('#' :: list ++ '(' :: rest)
        (⟨.styleOpen, start⟩ :: codes ++ ⟨.parenOpen, start + list.length + 1⟩ :: more)
  | codes {frames : List Frame} {start : Nat} {list rest : Text} {codes more : List Lexeme}
      (listed : CodesLex rest (start + 1) list codes)
      (bodiless : ∀ c ∈ rest.head?, c ∈ codesEnd ∧ c ≠ '(')
      (others : Lexes frames (start + list.length + 1) rest more) :
      Lexes frames start ('#' :: list ++ rest) (⟨.styleOpen, start⟩ :: codes ++ more)
  | close {frames : List Frame} {start : Nat} (closer : Closer) {rest : Text}
      {more : List Lexeme}
      (others : Lexes (closeFrame closer frames) (start + 1) rest more) :
      Lexes frames start (closer.char :: rest) (⟨.close closer, start⟩ :: more)
  | comma {frames : List Frame} {start : Nat} {rest : Text} {more : List Lexeme}
      (others : Lexes (.arguments :: frames) (start + 1) rest more) :
      Lexes (.arguments :: frames) start (',' :: rest) (⟨.comma, start⟩ :: more)
  | separator {frames : List Frame} {start : Nat} {text rest : Text} {more : List Lexeme}
      (nonempty : text ≠ []) (run : ∀ c ∈ text, (Scope.within frames).Separates separators c)
      (whole : ∀ c ∈ rest.head?, ¬ (Scope.within frames).Separates separators c)
      (others : Lexes frames (start + text.length) rest more) :
      Lexes frames start (text ++ rest) (⟨.separator text, start⟩ :: more)
  | paren {frames : List Frame} {start : Nat} {rest : Text} {more : List Lexeme}
      (others : Lexes frames (start + 1) rest more) :
      Lexes frames start ('(' :: rest) (⟨.parenOpen, start⟩ :: more)
  | stray {frames : List Frame} {start : Nat} {c : Char} {rest : Text} {more : List Lexeme}
      (unknown : isStray c = true) (others : Lexes frames (start + 1) rest more) :
      Lexes frames start (c :: rest) (⟨.unknown c, start⟩ :: more)

end GitPrompt.Format
