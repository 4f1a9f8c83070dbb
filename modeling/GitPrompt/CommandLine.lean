import GitPrompt.CommandLine.Options
import GitPrompt.Prompt

/-!
The program as the command line sees it: arguments, environment and the behaviour of git
give an exit code and what is written to the two outputs.
-/
namespace GitPrompt.CommandLine

open Text (words)

structure Outcome where
  exit : Nat
  out : Text
  err : Text
  deriving DecidableEq, Repr

/-- Options win over the environment. -/
def config (options : Options) (environment : Environment) : Config where
  format := options.format.getD (Config.formatOf environment)
  elseFormat := options.elseFormat
  path := options.path
  colour := !options.noColour && Config.colourOf environment
  bashEscapes := options.bashEscapes
  silent := options.silent
  verbosity := options.verbosity

theorem config_default : config {} [] = Config.default := rfl

def interruptedCode : Nat := 130

/-- Errors in a format are reported as they are, or not at all when the run is silent; all
others bear the name of the program. -/
def haltOutcome (config : Config) : Git.Halt → Outcome
  | .interrupted => ⟨interruptedCode, [], []⟩
  | .format source error =>
    if config.silent then ⟨0, [], []⟩
    else ⟨1, [], (Failure.ofFormat source error).report config.colour ++ ['\n']⟩
  | .overflow source overflow => named (.ofOverflow source overflow)
  | .git error => named error.failure
where
  named (failure : Failure) : Outcome :=
    ⟨1, [], words "glint: " ++ failure.report config.colour ++ ['\n']⟩

def outcome (config : Config) : Except Git.Halt Text → Outcome
  | .ok text => ⟨0, text ++ ['\n'], []⟩
  | .error halt => haltOutcome config halt

/-- The log entries that the verbosity shows come before anything else that is written to the
error output. -/
def written (config : Config) (result : Except Git.Halt Text) (trace : Git.Trace) : Outcome :=
  let outcome := outcome config result
  { outcome with err := Log.shown config.verbosity trace.entries ++ outcome.err }

def run (site : Git.Site) (config : Config) : Outcome × List Git.Call :=
  let (result, trace) := (Prompt.run site config).outcome
  (written config result trace, trace.calls)

/-- A run by a machine that reads no number of more digits than the limit. A crash leaves no
outcome. -/
def runWithin (limit : Option Nat) (site : Git.Site) (config : Config) :
    Except Git.Crash Outcome × List Git.Call :=
  match (Prompt.runWithin limit site config).run.outcome with
  | (.ok (.error crash), trace) => (.error crash, trace.calls)
  | (.ok (.ok text), trace) => (.ok (written config (.ok text) trace), trace.calls)
  | (.error halt, trace) => (.ok (written config (.error halt) trace), trace.calls)

def refusedCode : Nat := 2

def refusalLine (refusal : Refusal) : Text := words "glint: error: " ++ refusal.message

end GitPrompt.CommandLine
