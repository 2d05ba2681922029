import ODataApi.Numeral
import ODataApi.Settings

/-!
# Arguments

Options stand before the subcommand, except for the output file of `convert`.  An
option with a value takes it from the next argument, from behind an equals sign or,
if its name is a single letter, from the rest of its argument.  A value in an
argument of its own does not start with a dash unless it is a dash alone.  Only
`-v` can be given more than once, and several letters can share a dash.

After `--` nothing is an option.  A subcommand has one operand, the model, and no
file has an empty name.
-/

namespace ODataApi.CommandLine

/-- What to do. -/
inductive Command
  /-- Write the OpenAPI document of a model, to a file if one is given. -/
  | convert (model : String) (output : Option String)
  /-- List the paths of a model. -/
  | paths (model : String)
  /-- Check a model and the configuration. -/
  | check (model : String)
deriving DecidableEq, Repr, Inhabited

/-- Arguments, read. -/
structure Invocation where
  /-- The configuration file. -/
  config : Option String := none
  /-- In place of the configured depth. -/
  maxDepth : Option Int := none
  /-- Whether to write the configuration and do nothing else. -/
  printConfig : Bool := false
  /-- How often `-v` is given. -/
  verbosity : Nat := 0
  /-- What to do. -/
  command : Option Command := none
deriving DecidableEq, Repr, Inhabited

/-! ## Values -/

/-- The name of a file. -/
def fileName? (text : String) : Option String := if text.isEmpty then none else some text

/-- A depth in decimal, with a sign or without. -/
def depth? (text : String) : Option Int :=
  (Numeral.signedWhole? text.toList).bind fun n => Settings.int32? (Json.ofInt n)

/-- Whether an argument can be the value of the option before it. -/
def isValue (argument : String) : Bool :=
  argument == "-" || argument.toList.head? != some '-'

/-- What stands behind a letter in its own argument: nothing, or a value with or
without an equals sign. -/
def attached? : List Char → Option String
  | [] => none
  | '=' :: rest => some (String.ofList rest)
  | rest => some (String.ofList rest)

/-- The name of a long option and the value behind its equals sign. -/
def splitLong (argument : String) : String × Option String :=
  match argument.toList.span (· != '=') with
  | (name, _ :: value) => (String.ofList name, some (String.ofList value))
  | (name, []) => (String.ofList name, none)

/-- The value of an option, attached or next, and the arguments after it. -/
def takeValue? (attached : Option String) (rest : List String) : Option (String × List String) :=
  match attached, rest with
  | some value, rest => some (value, rest)
  | none, value :: rest => if isValue value then some (value, rest) else none
  | none, [] => none

/-! ## Subcommands -/

/-- The operand and the output file of a subcommand, while they are read. -/
structure Operands where
  /-- The model. -/
  model : Option String := none
  /-- The output file. -/
  output : Option String := none

/-- The operands with one more operand. -/
def Operands.addModel? (operands : Operands) (text : String) : Option Operands := do
  let name ← fileName? text
  if operands.model.isSome then none else some { operands with model := some name }

/-- The operands with an output file. -/
def Operands.addOutput? (operands : Operands) (text : String) : Option Operands := do
  let name ← fileName? text
  if operands.output.isSome then none else some { operands with output := some name }

/-- The arguments of a subcommand.  `options` says whether it has an output file. -/
def operands? (options : Bool) (operands : Operands) :
    (fuel : Nat) → List String → Option Operands
  | _, [] => some operands
  | 0, _ :: _ => none
  | fuel + 1, argument :: rest =>
    if argument = "--" then rest.foldlM Operands.addModel? operands
    else if isValue argument then
      (operands.addModel? argument).bind fun operands => operands? options operands fuel rest
    else if !options then none
    else
      let output? (attached : Option String) : Option Operands := do
        let (value, rest) ← takeValue? attached rest
        operands? options (← operands.addOutput? value) fuel rest
      match argument.toList with
      | '-' :: '-' :: _ =>
        match splitLong argument with
        | ("--output", attached) => output? attached
        | _ => none
      | '-' :: 'o' :: attached => output? (attached? attached)
      | _ => none

/-- A subcommand by name. -/
def command? (name : String) (arguments : List String) : Option Command := do
  let operands ← operands? (name == "convert") {} arguments.length arguments
  let model ← operands.model
  match name with
  | "convert" => some (.convert model operands.output)
  | "paths" => some (.paths model)
  | "check" => some (.check model)
  | _ => none

/-! ## Options -/

namespace Invocation

/-- With a configuration file. -/
def addConfig? (invocation : Invocation) (text : String) : Option Invocation := do
  let name ← fileName? text
  if invocation.config.isSome then none else some { invocation with config := some name }

/-- With a depth. -/
def addDepth? (invocation : Invocation) (text : String) : Option Invocation := do
  let depth ← depth? text
  if invocation.maxDepth.isSome then none else some { invocation with maxDepth := some depth }

/-- With the configuration to be written. -/
def addPrintConfig? (invocation : Invocation) : Option Invocation :=
  if invocation.printConfig then none else some { invocation with printConfig := true }

/-- With one more `-v`. -/
def addVerbose (invocation : Invocation) : Invocation :=
  { invocation with verbosity := invocation.verbosity + 1 }

/-- The letters behind a dash, and the arguments after them. -/
def letters? (invocation : Invocation) (rest : List String) :
    List Char → Option (Invocation × List String)
  | [] => some (invocation, rest)
  | 'v' :: letters => invocation.addVerbose.letters? rest letters
  | 'c' :: attached => do
    let (value, rest) ← takeValue? (attached? attached) rest
    some (← invocation.addConfig? value, rest)
  | _ => none

/-- A long option, and the arguments after it. -/
def long? (invocation : Invocation) (argument : String) (rest : List String) :
    Option (Invocation × List String) := do
  match splitLong argument with
  | ("--config", attached) =>
    let (value, rest) ← takeValue? attached rest
    some (← invocation.addConfig? value, rest)
  | ("--max-depth", attached) =>
    let (value, rest) ← takeValue? attached rest
    some (← invocation.addDepth? value, rest)
  | ("--print-config", none) => some (← invocation.addPrintConfig?, rest)
  | ("--verbose", none) => some (invocation.addVerbose, rest)
  | _ => none

/-- The arguments from an option or subcommand on. -/
def readFrom? (invocation : Invocation) : (fuel : Nat) → List String → Option Invocation
  | _, [] => some invocation
  | 0, _ :: _ => none
  | fuel + 1, argument :: rest =>
    if argument = "--" then if rest.isEmpty then some invocation else none
    else
      match argument.toList with
      | '-' :: '-' :: _ =>
        (invocation.long? argument rest).bind fun (invocation, rest) =>
          invocation.readFrom? fuel rest
      | '-' :: c :: letters =>
        (invocation.letters? rest (c :: letters)).bind fun (invocation, rest) =>
          invocation.readFrom? fuel rest
      | _ => (command? argument rest).map fun command => { invocation with command }

/-- Arguments, none if they are no proper use. -/
def read? (arguments : List String) : Option Invocation :=
  readFrom? {} arguments.length arguments

end Invocation

/-! ## Tests -/

example : Invocation.read? ["-vv", "--max-depth=-1", "check", "m"]
    = some { verbosity := 2, maxDepth := some (-1), command := some (.check "m") } := by
  decide +kernel
example : Invocation.read? ["--max-depth", "-1"] = none := by decide +kernel
example : Invocation.read? ["convert", "m", "-oout"]
    = some { command := some (.convert "m" (some "out")) } := by decide +kernel
example : Invocation.read? ["paths", "m", "-v"] = none := by decide +kernel

end ODataApi.CommandLine
