/-!
The kinds of error that are reported to users, and how they are grouped.
-/
namespace GitPrompt

inductive ErrorKind
  | general
  | format
  | lexical | unterminatedLiteral | unrecognizedEscape
  | grammatical | unmatchedDelimiter | unknownField | unknownStyleCode
  | malformedColour | unexpectedToken | trailingInput
  | rendering | overflow
  | git | notARepository
  deriving DecidableEq, Repr

namespace ErrorKind

def name : ErrorKind → String
  | .general => "GlintError"
  | .format => "FormatError"
  | .lexical => "LexError"
  | .unterminatedLiteral => "UnterminatedLiteral"
  | .unrecognizedEscape => "UnrecognizedEscape"
  | .grammatical => "ParseError"
  | .unmatchedDelimiter => "UnmatchedDelimiter"
  | .unknownField => "UnknownField"
  | .unknownStyleCode => "UnknownStyleCode"
  | .malformedColour => "MalformedColorComponent"
  | .unexpectedToken => "UnexpectedToken"
  | .trailingInput => "TrailingInput"
  | .rendering => "RenderError"
  | .overflow => "ArithmeticOverflow"
  | .git => "GitError"
  | .notARepository => "NotARepositoryError"

def wider? : ErrorKind → Option ErrorKind
  | .general => none
  | .format => some .general
  | .lexical => some .format
  | .unterminatedLiteral => some .lexical
  | .unrecognizedEscape => some .lexical
  | .grammatical => some .format
  | .unmatchedDelimiter => some .grammatical
  | .unknownField => some .grammatical
  | .unknownStyleCode => some .grammatical
  | .malformedColour => some .grammatical
  | .unexpectedToken => some .grammatical
  | .trailingInput => some .grammatical
  | .rendering => some .general
  | .overflow => some .rendering
  | .git => some .general
  | .notARepository => some .git

def all : List ErrorKind :=
  [.overflow, .format, .git, .general, .lexical, .malformedColour, .notARepository,
   .grammatical, .rendering, .trailingInput, .unexpectedToken, .unknownField,
   .unknownStyleCode, .unmatchedDelimiter, .unrecognizedEscape, .unterminatedLiteral]

theorem mem_all (kind : ErrorKind) : kind ∈ all := by cases kind <;> decide

def ofName? (name : String) : Option ErrorKind := all.find? (·.name == name)

theorem ofName?_eq_some_iff {name : String} {kind : ErrorKind} :
    ofName? name = some kind ↔ kind.name = name := by
  constructor
  · intro found
    simpa using List.find?_some found
  · rintro rfl
    cases kind <;> rfl

end ErrorKind
end GitPrompt
