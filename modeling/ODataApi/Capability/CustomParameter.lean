import ODataApi.Capability.Reading

/-!
# Custom parameters

A service may take headers and query options of its own.  A custom parameter needs
a name; it may come with a description, the place of its documentation and example
values.
-/

namespace ODataApi

/-- An example value, given inline or stored elsewhere. -/
structure ExampleValue where
  /-- What the example shows. -/
  description : Option String
  /-- The value, if it is given inline. -/
  value : Option Json
  /-- The place of the value, if it is stored elsewhere. -/
  externalValue : Option String
deriving Repr, Inhabited

/-- An example value. -/
def ExampleValue.read : Reader ExampleValue := .record fun fields => do
  pure (some {
    description := ← readField fields "Description" .string
    value := ← readField fields "Value" .json
    externalValue := ← readField fields "ExternalValue" .string })

/-- A header or query option of the service's own. -/
structure CustomParameter where
  /-- The name. -/
  name : String
  /-- What it is for. -/
  description : Option String
  /-- The place of its documentation. -/
  documentationUrl : Option String
  /-- Whether a request must have it. -/
  required : Option Bool
  /-- Example values. -/
  exampleValues : List ExampleValue
deriving Repr, Inhabited

namespace CustomParameter

/-- A custom parameter needs its name. -/
def read : Reader CustomParameter := .record fun fields => do
  match ← readField fields "Name" .string with
  | none => pure none
  | some name =>
    pure (some {
      name
      description := ← readField fields "Description" .string
      documentationUrl := ← readField fields "DocumentationURL" .string
      required := ← readField fields "Required" .bool
      exampleValues := (← readField fields "ExampleValues" (.listOf ExampleValue.read)).getD [] })

/-- Requests need not have it unless it says so. -/
def isRequired (parameter : CustomParameter) : Bool := parameter.required.getD false

end CustomParameter

end ODataApi
