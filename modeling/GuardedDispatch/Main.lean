import GuardedDispatch.CommandLine

/-!
# The program

Gathers the arguments, the configuration file and the environment variables that its text mentions,
and prints what the command line answers.
-/

open GuardedDispatch

/-- The text of a file, if it can be read. -/
def fileText? (path : String) : IO (Option String) := do
  try
    return some (← IO.FS.readFile path)
  catch _ => return none

/-- Runs the program and gives its exit code. -/
def main (args : List String) : IO UInt32 := do
  let path := ((CommandLine.read? args).map (·.config)).getD ""
  let text? ← fileText? path
  let text := text?.getD ""
  let values ← (mentionedNames text.length text.toList).mapM fun name => do
    return (name, ← IO.getEnv name)
  let outcome := CommandLine.run args (fun _ => text?) fun name => (values.lookup name).join
  IO.print outcome.output
  match outcome.complaint? with
  | some line => IO.eprintln line
  | none => if outcome.code = 2 then IO.eprint CommandLine.Topic.program.usage
  return outcome.code.toUInt32
