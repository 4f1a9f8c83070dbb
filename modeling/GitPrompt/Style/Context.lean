import GitPrompt.Style.Code

/-!
Style contexts: all that is switched on at one point of a rendering, and how a list of
codes changes it.
-/
namespace GitPrompt.Style

/-- The reset mark remembers that inherited styles were dropped on purpose; it changes no
escape. -/
structure Context where
  foreground : Option Colour := none
  background : Option Colour := none
  bold : Bool := false
  italic : Bool := false
  underline : Bool := false
  reset : Bool := false
  deriving DecidableEq, Repr

namespace Context

def plain : Context := {}

def colour (context : Context) : Ground → Colour → Context
  | .fore, colour => { context with foreground := some colour }
  | .back, colour => { context with background := some colour }

def add (context : Context) : Code → Context
  | .reset => context
  | .bold => { context with bold := true }
  | .italic => { context with italic := true }
  | .underline => { context with underline := true }
  | .named ground hue => context.colour ground (.named hue)
  | .indexed number => context.colour .fore (.indexed number)
  | .rgb ground red green blue => context.colour ground (.rgb red green blue)

/-- What a list of codes starts from: a reset anywhere in it drops all that is inherited. -/
def inherited (context : Context) (codes : List Code) : Context :=
  if .reset ∈ codes then { plain with reset := true } else context

/-- Of two codes of one category the later one wins. -/
def apply (context : Context) (codes : List Code) : Context :=
  codes.foldl add (context.inherited codes)

/-- The numbers of the escape that sets a context up from any state: all is cleared first. -/
def numbers (context : Context) : List Int :=
  0 :: (context.foreground.map (Colour.numbers .fore)).getD [] ++
    (context.background.map (Colour.numbers .back)).getD [] ++
    (if context.bold then [1] else []) ++
    (if context.italic then [3] else []) ++
    (if context.underline then [4] else [])

theorem apply_nil (context : Context) : context.apply [] = context := rfl

theorem apply_append (context : Context) {codes more : List Code} (kept : .reset ∉ more) :
    context.apply (codes ++ more) = (context.apply codes).apply more := by
  simp [apply, inherited, kept]

end Context
end GitPrompt.Style
