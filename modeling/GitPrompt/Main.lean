import GitPrompt.CommandLine
import GitPrompt.Git.Transcript

/-!
The program: it reads a transcript of git's answers from standard input and writes the prompt
that the arguments ask for.
-/
namespace GitPrompt

def usage : String := "usage: glint [option ...] [format]"

def variableNames : List String := [Config.formatVariable, Config.noColourVariable]

def readEnvironment : IO Environment :=
  variableNames.filterMapM fun name => do
    let value ← IO.getEnv name
    return value.map fun value => (name.toList, value.toList)

partial def readAll (input : IO.FS.Stream) : IO String := do
  let line ← input.getLine
  if line.isEmpty then return line else return line ++ (← readAll input)

def readSite : IO Git.Site := do
  let transcript ← readAll (← IO.getStdin)
  let directory ← IO.currentDir
  return ⟨Git.Transcript.behaviour transcript.toList, directory.toString.toList⟩

def runWith (options : CommandLine.Options) : IO UInt32 := do
  let config := CommandLine.config options (← readEnvironment)
  match CommandLine.runWithin Text.usualLimit (← readSite) config with
  | (.ok outcome, _) =>
    IO.print (String.ofList outcome.out)
    IO.eprint (String.ofList outcome.err)
    return outcome.exit.toUInt32
  | (.error _, _) =>
    IO.eprintln "a number has too many digits"
    return 1

def refuse : CommandLine.Refusal → IO UInt32
  | .help => do
    IO.println usage
    return 0
  | refusal => do
    IO.eprintln usage
    IO.eprintln (String.ofList (CommandLine.refusalLine refusal))
    return CommandLine.refusedCode.toUInt32

end GitPrompt

def main (arguments : List String) : IO UInt32 :=
  match GitPrompt.CommandLine.Options.ofArguments (arguments.map String.toList) .later with
  | .ok options => GitPrompt.runWith options
  | .error refusal => GitPrompt.refuse refusal
