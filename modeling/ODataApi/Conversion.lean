import ODataApi.Endpoint.Synthesis
import ODataApi.Path.Tree

/-!
# Conversions

A conversion takes a model to its paths and the endpoints of each path.  All paths
share a cache of decoded annotations, and the issues of the conversion are the
issues the cache has in the end.  A converter keeps its cache from one model to the
next.

A path is found again by its template.  Of several paths with one template the last
is found.
-/

namespace ODataApi

/-- Why a conversion is refused. -/
inductive ConversionError
  | settings (error : SettingsError)
deriving DecidableEq, Repr

/-- An error in words. -/
def ConversionError.message : ConversionError → String
  | settings error => "invalid configuration: " ++ error.message

/-- The paths of a model with their endpoints. -/
structure Conversion where
  /-- The model. -/
  model : ModelId
  /-- The paths, each with its endpoints. -/
  groups : List (ResourcePath × List Endpoint)
  /-- The issues of decoding annotations. -/
  issues : List DecodeIssue

namespace Conversion

/-- The paths. -/
def paths (conversion : Conversion) : List ResourcePath := conversion.groups.map (·.1)

/-- The endpoints, in the order of the paths. -/
def endpoints (conversion : Conversion) : List Endpoint := conversion.groups.flatMap (·.2)

/-- Where the endpoints of each group start and end, if the first one stands at `start`. -/
def spansFrom (start : Nat) : List (List Endpoint) → List (Nat × Nat)
  | [] => []
  | group :: rest => (start, start + group.length) :: spansFrom (start + group.length) rest

/-- Where the endpoints of each path start and end. -/
def spans (conversion : Conversion) : List (Nat × Nat) := spansFrom 0 (conversion.groups.map (·.2))

/-- The endpoints of the path at a position, as a part of all endpoints. -/
def group? (conversion : Conversion) (i : Nat) : Option (List Endpoint) :=
  conversion.spans[i]?.map fun (start, stop) => conversion.endpoints.extract start stop

/-- The paths in order, each with its endpoints. -/
def byPath (conversion : Conversion) : List (ResourcePath × List Endpoint) :=
  conversion.paths.mapIdx fun i path => (path, (conversion.group? i).getD [])

/-- The position of the last path with a template. -/
def position? (conversion : Conversion) (template : String) : Option Nat :=
  (conversion.paths.reverse.findIdx? fun path => path.template == template).map fun i =>
    conversion.groups.length - 1 - i

/-- The last path with a template. -/
def path? (conversion : Conversion) (template : String) : Option ResourcePath :=
  (conversion.position? template).bind fun i => conversion.paths[i]?

/-- The endpoints of the last path with the template of this one. -/
def endpointsFor (conversion : Conversion) (path : ResourcePath) : List Endpoint :=
  ((conversion.position? path.template).bind fun i => conversion.groups[i]?).elim [] (·.2)

end Conversion

namespace Model

/-- The endpoints of each of some paths, one path after the other. -/
def synthesizeAll (m : Model) :
    List ResourcePath → StateM AnnotationCache (List (ResourcePath × List Endpoint))
  | [] => pure []
  | path :: rest => do
    let endpoints ← m.synthesize path
    let groups ← m.synthesizeAll rest
    pure ((path, endpoints) :: groups)

/-- The conversion of a model with a cache that may have served before. -/
def convertWith (m : Model) (settings : Settings) (cache : AnnotationCache) :
    Except ConversionError (Conversion × AnnotationCache) := do
  let paths ← (m.paths settings).mapError .settings
  let (groups, cache) := (m.synthesizeAll paths).run cache
  pure ({ model := m.id, groups, issues := cache.issues }, cache)

/-- The conversion of a model. -/
def convert (m : Model) (settings : Settings) : Except ConversionError Conversion :=
  (m.convertWith settings {}).map (·.1)

end Model

/-- Settings and a cache to convert models with. -/
structure Converter where
  /-- The settings. -/
  settings : Settings
  /-- The cache. -/
  cache : AnnotationCache := {}

namespace Converter

/-- The conversion of a model, and the converter after it.  A refused conversion
leaves the converter as it is. -/
def convert (converter : Converter) (m : Model) :
    Except ConversionError (Conversion × Converter) := do
  let (conversion, cache) ← m.convertWith converter.settings converter.cache
  pure (conversion, { converter with cache })

end Converter

end ODataApi
