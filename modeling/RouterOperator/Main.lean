import RouterOperator.CommandLine.Command

/-!
# Command line

The program: it reads the environment and perhaps its input, carries out one command, and prints.
-/

namespace RouterOperator

/-- The environment variables that options are read from. -/
def environment : IO (List (String × String)) :=
  Flag.all.filterMapM fun flag => do
    let value ← IO.getEnv flag.envName
    return value.map (flag.envName, ·)

end RouterOperator

open RouterOperator

/-- Runs one command: its output goes to standard output, and an error to standard error. -/
def main (arguments : List String) : IO UInt32 := do
  let result ← match Command.ofArguments? arguments with
    | none => pure (.error .unknownCommand)
    | some command => do
      let env ← environment
      let input ← if command.readsInput then (← IO.getStdin).readToEnd else pure ""
      pure (command.output env input)
  match result with
  | .ok text =>
    IO.print text
    return 0
  | .error reason =>
    IO.eprintln reason.message
    return 2
