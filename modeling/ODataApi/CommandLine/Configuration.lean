import ODataApi.CommandLine.ConfigurationText
import ODataApi.CommandLine.Environment
import ODataApi.OpenApi.Document
import ODataApi.Settings

/-!
# Configuration

A configuration has a section for the conversion, one for the metadata of the
document and one for the log.  It is put together from layers: the defaults, the
text of a file if there is one, and the environment, each over the one before.

A section of the result is an object, or an array whose items are the values of the
fields in order.  Items beyond the last field are ignored, and what is left out has
its default.  A name that is no section or field is refused, and so is a value of
another type than its field has.
-/

namespace ODataApi.CommandLine

/-- What the log shows and how. -/
structure Logging where
  /-- The filter of the log. -/
  level : String := "warn"
  /-- Whether the log is written as JSON. -/
  json : Bool := false
deriving DecidableEq, Repr, Inhabited

namespace Logging

/-- The names of the fields. -/
def names : List String := ["level", "json"]

/-- A log section, with defaults for what is left out. -/
def ofJson? (json : Json) : Option Logging := do
  let [level, format] ← json.fields? names | none
  let defaults : Logging := {}
  pure {
    level := ← Json.optional? Json.string? defaults.level level
    json := ← Json.optional? Json.bool? defaults.json format }

/-- A log section as an object. -/
def toJson (logging : Logging) : Json :=
  .object (names.zip [.string logging.level, .bool logging.json])

/-- The filter that is in force when `-v` is given a number of times. -/
def directive (logging : Logging) : (verbosity : Nat) → String
  | 0 => logging.level
  | 1 => "info"
  | 2 => "debug"
  | _ => "trace"

end Logging

/-- A configuration. -/
structure Configuration where
  /-- Which paths are made. -/
  convert : Settings := {}
  /-- What the document says of itself. -/
  document : OpenApi.Info := {}
  /-- What the log shows and how. -/
  logging : Logging := {}
deriving DecidableEq, Repr, Inhabited

namespace Configuration

/-- The names of the sections. -/
def names : List String := ["convert", "document", "logging"]

/-- A configuration as an object with every field. -/
def toJson (configuration : Configuration) : Json :=
  .object (names.zip [configuration.convert.toJson, configuration.document.toJson,
    configuration.logging.toJson])

/-- A value without the items of an array beyond a number of them. -/
def truncated (count : Nat) : Json → Json
  | .array items => .array (items.take count)
  | json => json

/-- A configuration, with defaults for what is left out. -/
def ofJson? (json : Json) : Option Configuration := do
  let [convert, document, logging] ← json.fields? names | none
  let section? {α : Type} (fields : List String) (read : Json → Option α) :=
    Json.optional? fun json => read (truncated fields.length json)
  pure {
    convert := ← section? Settings.names Settings.ofJson? {} convert
    document := ← section? OpenApi.Info.names OpenApi.Info.ofJson? {} document
    logging := ← section? Logging.names Logging.ofJson? {} logging }

/-- The layer of a text: an object. -/
def fileLayer? (text : String) : Option Json :=
  match (ConfigurationText.read? text).map Json.canonical with
  | some (.object members) => some (.object members)
  | _ => none

/-- The configuration of a file, if there is one, and of the environment.  A torn value
in the environment comes before all other faults. -/
def load (file : Option String) (environment : Dictionary String) :
    Except TextFault Configuration := do
  let above ← environmentLayer environment
  let defaults := ({} : Configuration).toJson.canonical
  let below := (file.elim (some (.object [])) fileLayer?).map defaults.overlay
  match below.bind fun below => ofJson? (below.overlay above) with
  | none => throw .malformed
  | some configuration => return configuration

/-- With another depth, if one is given. -/
def withDepth (configuration : Configuration) : Option Int → Configuration
  | none => configuration
  | some depth =>
    { configuration with convert := { configuration.convert with maxNavigationDepth := depth } }

end Configuration

/-! ## Tests -/

example : Configuration.ofJson? (Configuration.toJson {}) = some {} := by decide +kernel
example : Configuration.ofJson? (.object [("convert", .array [Json.ofInt 2])])
    = some { convert := { maxNavigationDepth := 2 } } := by decide +kernel
example : Configuration.ofJson? (.object [("logging", .null)]) = none := by decide +kernel

end ODataApi.CommandLine
