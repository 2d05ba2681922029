import ODataApi.CommandLine.Run

/-!
# The program

`main` runs the command line over the files and the environment of the machine.
-/

namespace ODataApi.CommandLine

/-- Whether an action ends without an error. -/
def succeeds (action : IO Unit) : IO Bool := do
  match ← action.toBaseIO with
  | .ok () => pure true
  | .error _ => pure false

/-- The files of the machine. -/
def Files.ofMachine : Files IO where
  isFile path := succeeds (do let _ ← IO.FS.withFile path .read fun handle => handle.read 1)
  read path := do
    match ← (IO.FS.readFile path).toBaseIO with
    | .ok text => pure (some text)
    | .error _ => pure none
  write path text := succeeds (IO.FS.writeFile path text)

/-- The variables of the environment. -/
def machineVariables : IO (Dictionary String) := do
  match ← (IO.FS.readFile "/proc/self/environ").toBaseIO with
  | .error _ => pure []
  | .ok text =>
    pure (Dictionary.ofList ((text.splitOn "\x00").map fun entry =>
      match entry.splitOn "=" with
      | [] => ("", "")
      | name :: rest => (name, String.intercalate "=" rest)))

end ODataApi.CommandLine

open ODataApi.CommandLine

/-- Run the program with its arguments. -/
def main (arguments : List String) : IO UInt32 := do
  match ← (run Files.ofMachine (← machineVariables) arguments).run with
  | .ok text => do
    IO.print text
    pure 0
  | .error failure => do
    IO.eprintln ("Error: " ++ failure.message)
    pure (UInt32.ofNat failure.exitCode)
