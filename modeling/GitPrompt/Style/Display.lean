import GitPrompt.Style.Context

/-!
Displays: what a terminal is sent for a style context. A display without colour is sent
nothing, and for a bash prompt each escape stands between marks that hide its width.
-/
namespace GitPrompt.Style

structure Display where
  colour : Bool := true
  bash : Bool := false
  deriving DecidableEq, Repr

namespace Display

def escapeStart : Char := '\x1b'

def hiddenStart : Char := '\x01'

def hiddenEnd : Char := '\x02'

def sequence (context : Context) : Text :=
  escapeStart :: '[' :: parameters context.numbers ++ ['m']

def escape (display : Display) (context : Context) : Text :=
  if display.colour then
    if display.bash then hiddenStart :: sequence context ++ [hiddenEnd] else sequence context
  else []

theorem escape_colourless (bash : Bool) (context : Context) :
    (Display.mk false bash).escape context = [] := rfl

/-- Enclose a text in the escape of its own context and that of the context around it. -/
def enclose (display : Display) (inner outer : Context) (text : Text) : Text :=
  display.escape inner ++ text ++ display.escape outer

theorem enclose_colourless (bash : Bool) (inner outer : Context) (text : Text) :
    (Display.mk false bash).enclose inner outer text = text := by
  simp [enclose, escape_colourless]

/-- Show a text in the given codes on a plain terminal; no escape is sent around no text. -/
def paint (display : Display) (codes : List Code) (text : Text) : Text :=
  if text = [] then [] else display.enclose (Context.plain.apply codes) .plain text

end Display
end GitPrompt.Style
