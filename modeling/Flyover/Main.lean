import Flyover.CommandLine
/-!
The program: it loads the settings of a provider and tells what they are.
-/

namespace Flyover

def readText (name : String) : IO (Option String) :=
  try return some (← IO.FS.readFile name) catch _ => return none

def readEnvironment : IO (List (String × String)) := do
  return ((← readText "/proc/self/environ").map CommandLine.environmentOf).getD []

def run (options : CommandLine.Options) : IO UInt32 := do
  let file ← options.config.mapM fun name => do return (name, ← readText name)
  match CommandLine.loadSettings file (← readEnvironment) with
  | .ok settings =>
    (CommandLine.notices settings).forM fun n => IO.println (n.line options.style)
    return 0
  | .error fault =>
    IO.eprintln fault.message
    return 1

end Flyover

def main (arguments : List String) : IO UInt32 := do
  match Flyover.CommandLine.Options.ofArguments? arguments with
  | some options => Flyover.run options
  | none =>
    IO.eprintln Flyover.CommandLine.usage
    return 2
