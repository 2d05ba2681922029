import ODataApi.CommandLine.Arguments
import ODataApi.CommandLine.Configuration
import ODataApi.CommandLine.Directory
import ODataApi.CommandLine.LogFilter
import ODataApi.Document.Reader
import ODataApi.Document.Resolve
import ODataApi.Json.Printer
import ODataApi.Listing
import ODataApi.OpenApi.Assembly

/-!
# Running a command

A run reads the arguments, then loads the configuration, then does what the
arguments say: it writes the configuration or a document, lists paths, or checks.
The first step that fails ends the run, and nothing is printed then.

The files of a run are reached through `Files`, so a run is the same over the files
of a machine and over a `Directory`.
-/

namespace ODataApi.CommandLine

/-- Access to files. -/
structure Files (m : Type → Type) where
  /-- Whether a path is that of a file. -/
  isFile : String → m Bool
  /-- The text of a file, none if it cannot be read. -/
  read : String → m (Option String)
  /-- Write a file, and say whether it was written. -/
  write : String → String → m Bool

/-- The files of a directory in memory, and the null device. -/
def Files.ofDirectory : Files (StateM Directory) where
  isFile path := do return ((← get).read? path).isSome
  read path := do
    if isNullDevice path then pure (some "") else return (← get).read? path
  write path text := do
    if isNullDevice path then pure true
    else match (← get).write? path text with
      | none => pure false
      | some directory => do
        set directory
        pure true

/-! ## Failures -/

/-- Why a run fails. -/
inductive Failure
  /-- The arguments are no proper use. -/
  | usage
  | missingConfiguration (path : String)
  | invalidConfiguration
  | invalidLogLevel (level : String)
  /-- A text would be cut within a character, which aborts a run. -/
  | torn
  | noCommand
  | unreadableModel (path : String)
  | invalidModel (path : String)
  | settings (error : SettingsError)
  | conversion (error : ConversionError)
  | unwritable (path : String)
deriving DecidableEq, Repr

namespace Failure

/-- A failure in words. -/
def message : Failure → String
  | usage => "usage: [OPTIONS] convert MODEL [-o FILE] | paths MODEL | check MODEL"
  | missingConfiguration path => "config file does not exist: " ++ path
  | invalidConfiguration => "invalid configuration"
  | invalidLogLevel level => "invalid log level '" ++ level ++ "'"
  | torn => "a text is cut within a character"
  | noCommand => "no command given, see --help"
  | unreadableModel path => "failed to read model document " ++ path
  | invalidModel path => "invalid model document " ++ path
  | settings error => error.message
  | conversion error => error.message
  | unwritable path => "failed to write " ++ path

/-- The exit code of a run that fails. -/
def exitCode : Failure → Nat
  | usage => 2
  | torn => 101
  | _ => 1

end Failure

/-! ## Commands -/

variable {m : Type → Type} [Monad m]

/-- The configuration of a run. -/
def configure (files : Files m) (environment : Dictionary String) (invocation : Invocation) :
    ExceptT Failure m Configuration := do
  let file ←
    match invocation.config with
    | none => pure none
    | some path => do
      if !(← files.isFile path) then throw (.missingConfiguration path)
      match ← files.read path with
      | none => throw .invalidConfiguration
      | some text => pure (some text)
  match Configuration.load file environment with
  | .error .malformed => throw .invalidConfiguration
  | .error .torn => throw .torn
  | .ok configuration => pure (configuration.withDepth invocation.maxDepth)

/-- The model of a file. -/
def loadModel (files : Files m) (path : String) : ExceptT Failure m Model := do
  match ← files.read path with
  | none => throw (.unreadableModel path)
  | some text =>
    match Document.read? text with
    | none => throw (.invalidModel path)
    | some document => (document.resolve ⟨0⟩).mapError fun _ => Failure.invalidModel path

/-- What a command prints. -/
def Command.run (files : Files m) (configuration : Configuration) :
    Command → ExceptT Failure m String
  | .convert path output => do
    let model ← loadModel files path
    let conversion ← (model.convert configuration.convert).mapError Failure.conversion
    let text :=
      (OpenApi.Document.ofConversion model conversion configuration.document).toJson.pretty
    match output with
    | none => pure (text ++ "\n")
    | some path => do
      if ← files.write path text then pure "" else throw (.unwritable path)
  | .paths path => do
    let model ← loadModel files path
    let conversion ← (model.convert configuration.convert).mapError Failure.conversion
    pure conversion.listing
  | .check path => do
    configuration.convert.validate.mapError Failure.settings
    let _ ← loadModel files path
    pure "Configuration is valid\n"

/-- What a run prints. -/
def run (files : Files m) (environment : Dictionary String) (arguments : List String) :
    ExceptT Failure m String := do
  let some invocation := Invocation.read? arguments | throw .usage
  let configuration ← configure files environment invocation
  if invocation.printConfig then
    pure (configuration.toJson.pretty ++ "\n")
  else
    match checkLogFilter (configuration.logging.directive invocation.verbosity) with
    | .error .malformed => throw (.invalidLogLevel configuration.logging.level)
    | .error .torn => throw .torn
    | .ok () =>
      match invocation.command with
      | none => throw .noCommand
      | some command => command.run files configuration

end ODataApi.CommandLine
