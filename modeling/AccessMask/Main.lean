import AccessMask.CommandLine.Outcome

/-!
# The command line program

All decisions are made by `Invocation.read`, `Invocation.outcome` and
`Invocation.shown`. What is left is to hand over the arguments and the filter of
the journal and to write the streams.
-/

namespace AccessMask.CommandLine

/-- The text that shows how the program is called. -/
def usage : String :=
  "Usage: (query | describe | encode) [OPTIONS] <FLAGS>...\n" ++
    "  query     evaluate every access predicate against a flag mask\n" ++
    "  describe  print the modifier names set in a flag mask\n" ++
    "  encode    print a flag expression as a numeric mask\n" ++
    "Options:\n" ++
    "  -k, --kind <type|class|field|method>  element the flags were read from\n" ++
    "  -f, --format <text|yaml>              layout of a query\n" ++
    "  -h, --help                            this text\n"

/-- The environment variable that holds the filter of the journal. -/
def journalVariable : String := "RUST_LOG"

/-- Runs an invocation and returns its exit code. -/
def runInvocation (invocation : Invocation) : IO UInt32 := do
  for entry in invocation.shown (← IO.getEnv journalVariable) do
    IO.eprintln (entry.level.name ++ " " ++ entry.message)
  let outcome := invocation.outcome
  IO.print outcome.stdout
  IO.eprint outcome.stderr
  return outcome.exitCode.toUInt32

/-- Shows how the program is called and returns the exit code of a refusal. -/
def showUsage (refusal : Refusal) : IO UInt32 := do
  if refusal = .help then IO.print usage else IO.eprint usage
  return refusal.exitCode.toUInt32

end AccessMask.CommandLine

/-- Reads the arguments and runs the invocation or shows how to call the program. -/
def main (arguments : List String) : IO UInt32 :=
  match AccessMask.CommandLine.Invocation.read arguments with
  | .ok invocation => AccessMask.CommandLine.runInvocation invocation
  | .error refusal => AccessMask.CommandLine.showUsage refusal
