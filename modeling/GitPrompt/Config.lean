import GitPrompt.Text.Printable

/-!
What options are given, the configuration of a run, and the two environment variables that it
falls back on.
-/
namespace GitPrompt

/-- An option that was given nothing counts as set all the same, and stands for the empty text. -/
inductive Given
  | text (text : Text)
  | nothing
  deriving DecidableEq, Repr

namespace Given

def contents : Given → Text
  | .text shown => shown
  | .nothing => []

def quoted : Given → Text
  | .text shown => Text.quoted shown
  | .nothing => ['[', ']']

end Given

structure Config where
  format : Text
  elseFormat : Option Given := none
  path : Option Given := none
  colour : Bool := true
  bashEscapes : Bool := false
  silent : Bool := false
  verbosity : Nat := 0
  deriving DecidableEq, Repr

abbrev Environment := List (Text × Text)

namespace Config

def formatVariable : String := "GLINT_FORMAT"

def noColourVariable : String := "NO_COLOR"

def builtinFormat : Text :=
  Text.words
    "#g;*(\\b)\\<#y(\\B)\\(\\+\\-)>\\[#g(\\M\\A\\R\\D) #r(\\m\\d) #k(\\a) #m(\\u)]\\\x7b#c(\\h)\x7d"

/-- An empty variable is as good as none. -/
def setting (environment : Environment) (name : String) : Option Text :=
  match environment.lookup name.toList with
  | none => none
  | some [] => none
  | some value => some value

def formatOf (environment : Environment) : Text :=
  (setting environment formatVariable).getD builtinFormat

def colourOf (environment : Environment) : Bool := (setting environment noColourVariable).isNone

def default : Config where
  format := builtinFormat

end Config
end GitPrompt
