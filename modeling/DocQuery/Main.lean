import DocQuery.CommandLine.Run

namespace DocQuery.CommandLine

def readEnvironment : IO Environment := do
  let names := [Environment.storeUrl, Environment.storeKey, Environment.storeSchema,
    Environment.storeTimeout, Environment.strict, Environment.fallbackTable]
  let found ← names.filterMapM fun name => do
    return (← IO.getEnv name).map fun value => (name, value)
  return .ofList found

def readFile? (file : String) : IO (Option String) := do
  try
    return some (← IO.FS.readFile file)
  catch _ =>
    return none

def report (ending : Ending) : IO UInt32 := do
  match ending with
  | .value value => IO.println value.pretty
  | .failure failure => IO.eprintln ("Error: " ++ failure.message)
  | .usage => IO.eprintln "usage: [options] run|get|all|explain <statement> [arguments]"
  return ending.exitCode.toUInt32

end DocQuery.CommandLine

open DocQuery.CommandLine in
def main (words : List String) : IO UInt32 := do
  let env ← readEnvironment
  let text ← match (Invocation.ofWords? words).bind (·.seedFile?) with
    | some file => readFile? file
    | none => pure none
  report (run words env fun _ => text)
