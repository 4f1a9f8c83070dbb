import GitPrompt.Config
import GitPrompt.Format.Render
import GitPrompt.Git.Repository

/-!
Prompts: a format rendered for a snapshot, and the whole run that finds the snapshot first. A run
within a limit may crash at a number that has too many digits.
-/
namespace GitPrompt.Prompt

open Text (words)

inductive PromptError
  | format (error : Format.FormatError)
  | overflow (overflow : Format.Overflow)
  deriving DecidableEq, Repr

def PromptError.halt (source : Text) : PromptError → Git.Halt
  | .format error => .format source error
  | .overflow excess => .overflow source excess

/-- Shown text stands between two plain escapes, so that no style leaks into it or out of
it. -/
def framed (display : Style.Display) : Option Text → Text
  | none => []
  | some text => display.enclose .plain .plain text

def showTree (scene : Format.Scene) (tree : Format.Sequence) : Except PromptError Text :=
  match tree.render scene .plain with
  | .ok shown => .ok (framed scene.display shown)
  | .error overflow => .error (.overflow overflow)

def render (scene : Format.Scene) (format : Text) : Except PromptError Text :=
  match Format.parse format with
  | .ok tree => showTree scene tree
  | .error error => .error (.format error)

open Git

def fallback (config : Config) (halt : Halt) : Session (Given × Snapshot) :=
  match halt, config.elseFormat with
  | .git (.notARepository _), some format => do
    Session.log .info .prompt (words "Not inside a git repository; using the alternate format")
    return (format, .outsideRepository)
  | _, _ => Session.halt halt

def chosen (site : Site) (config : Config) : Session (Given × Snapshot) :=
  tryCatch (do
    let snapshot ← readStatus site config.path
    return (.text config.format, snapshot)) (fallback config)

def parsedLine (format : Given) (tree : Format.Sequence) : Text :=
  words "Parsed format " ++ format.quoted ++ words " into " ++
    Text.decimal tree.items.length ++ words " top-level elements"

def logParsed (format : Given) : Session Unit :=
  match Format.parse format.contents with
  | .ok tree => Session.log .debug .format (parsedLine format tree)
  | .error _ => return ()

def renderLogged (scene : Format.Scene) (format : Given) : Session Text := do
  logParsed format
  match render scene format.contents with
  | .ok text => return text
  | .error error => Session.halt (error.halt format.contents)

def run (site : Site) (config : Config) : Session Text := do
  let (format, snapshot) ← chosen site config
  renderLogged ⟨snapshot, ⟨config.colour, config.bashEscapes⟩⟩ format

def chosenWithin (limit : Option Nat) (site : Site) (config : Config) :
    Guarded (Given × Snapshot) :=
  tryCatchThe Halt (do
    let snapshot ← readStatusWithin limit site config.path
    return (.text config.format, snapshot)) fun halt => fallback config halt

def renderWithin (limit : Option Nat) (scene : Format.Scene) (format : Given) : Guarded Text :=
  match Format.Descent.parse limit format.contents with
  | .error (.crashed crash) => throw (.format crash)
  | .error (.raised error) => Session.halt (.format format.contents error)
  | .ok tree => do
    Session.log .debug .format (parsedLine format tree)
    match showTree scene tree with
    | .ok text => return text
    | .error error => Session.halt (error.halt format.contents)

/-- A run in which no number may have more digits than the limit. -/
def runWithin (limit : Option Nat) (site : Site) (config : Config) : Guarded Text := do
  let (format, snapshot) ← chosenWithin limit site config
  renderWithin limit ⟨snapshot, ⟨config.colour, config.bashEscapes⟩⟩ format

end GitPrompt.Prompt
