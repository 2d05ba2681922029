import ODataApi.Endpoint
import ODataApi.Restriction.Context

/-!
# Parameters of endpoints

The parameters of the template come first.  A collection takes every query option
that its restrictions leave, a single entity `$select` and `$expand`.  A
modification takes these two only where its record says so.  Headers and query
options of the service's own come last.

A list of excluded properties becomes a constraint unless it is empty.
-/

namespace ODataApi

/-! ## Constraints -/

/-- The constraint of a list that has items. -/
def listConstraint (items : Option (List String)) (constraint : List String → Constraint) :
    List Constraint :=
  match items with
  | none | some [] => []
  | some items => [constraint items]

/-- The constraint of a bound on the nesting of entities. -/
def deepLevels (levels : Option Int) : List Constraint :=
  ((levelsBound? levels).map .maxDeepLevels).toList

namespace EndpointParameter

/-! ## The template -/

/-- A parameter of the template. -/
def ofTemplate (parameter : TemplateParameter) : EndpointParameter where
  name := parameter.name
  place := .path
  required := true
  description := some <|
    match parameter.source with
    | .key => "Key: " ++ parameter.binds
    | .function => "Parameter: " ++ parameter.binds
  type := .primitive parameter.type
  constraints := []
  examples := []

/-! ## Query options -/

/-- A query option. -/
def option (name description : String) (type : ParameterType) (constraints : List Constraint := [])
    (required : Bool := false) : EndpointParameter where
  name
  place := .query
  required
  description := some description
  type
  constraints
  examples := []

end EndpointParameter

namespace PathRestrictions

/-- The option `$top`. -/
def topOption (r : PathRestrictions) : List EndpointParameter :=
  if r.top.value.isSupported then [.option "$top" "Show only the first n items" .integer] else []

/-- The option `$skip`. -/
def skipOption (r : PathRestrictions) : List EndpointParameter :=
  if r.skip.value.isSupported then [.option "$skip" "Skip the first n items" .integer] else []

/-- The option `$search`. -/
def searchOption (r : PathRestrictions) : List EndpointParameter :=
  let record := r.search.value
  if record.isSearchable then
    [.option "$search" "Search items by search phrases" .string
      (record.unsupportedExpressions.map .unsupportedSearchExpressions).toList]
  else []

/-- The option `$filter`. -/
def filterOption (r : PathRestrictions) : List EndpointParameter :=
  let record := r.filter.value
  if record.isFilterable then
    [.option "$filter" "Filter items by property values" .string
      ((if record.isFilterRequired then [.requiresFilter] else [])
        ++ listConstraint record.requiredProperties .requiredFilterProperties
        ++ listConstraint record.nonFilterableProperties .nonFilterableProperties)
      record.isFilterRequired]
  else []

/-- The option `$count`. -/
def countOption (r : PathRestrictions) : List EndpointParameter :=
  let record := r.count.value
  if record.isCountable then
    [.option "$count" "Include count of items" .boolean
      (listConstraint record.nonCountableProperties .nonCountableProperties)]
  else []

/-- The option `$orderby`. -/
def orderbyOption (r : PathRestrictions) : List EndpointParameter :=
  let record := r.sort.value
  if record.isSortable then
    [.option "$orderby" "Order items by property values" .stringList
      (listConstraint record.nonSortableProperties .nonSortableProperties
        ++ listConstraint record.ascendingOnlyProperties .ascendingOnlyProperties
        ++ listConstraint record.descendingOnlyProperties .descendingOnlyProperties)]
  else []

/-- The option `$select`. -/
def selectOption (r : PathRestrictions) : List EndpointParameter :=
  if r.select.value.isSupported then
    [.option "$select" "Select properties to be returned" .stringList]
  else []

/-- The option `$expand`. -/
def expandOption (r : PathRestrictions) : List EndpointParameter :=
  let record := r.expand.value
  if record.isExpandable then
    [.option "$expand" "Expand related entities" .stringList
      (listConstraint record.nonExpandableProperties .nonExpandableProperties
        ++ (record.maxLevelsBound?.map .maxExpandLevels).toList)]
  else []

/-- The query options that pick, order and count the items of a collection. -/
def itemOptions (r : PathRestrictions) : List EndpointParameter :=
  r.topOption ++ r.skipOption ++ r.searchOption ++ r.filterOption ++ r.countOption
    ++ r.orderbyOption

/-- The query options of a collection. -/
def collectionOptions (r : PathRestrictions) : List EndpointParameter :=
  r.itemOptions ++ r.selectOption ++ r.expandOption

/-- The query options of a single entity. -/
def entityOptions (r : PathRestrictions) : List EndpointParameter :=
  r.selectOption ++ r.expandOption

/-- The query options of a modification. -/
def modificationOptions (r : PathRestrictions) (options : Option ModificationQueryOptions) :
    List EndpointParameter :=
  match options with
  | none => []
  | some options =>
    (if options.isSelectSupported then r.selectOption else [])
      ++ (if options.isExpandSupported then r.expandOption else [])

end PathRestrictions

/-! ## The service's own -/

namespace EndpointParameter

/-- A header or query option of the service's own. -/
def ofCustom (place : ParameterPlace) (custom : CustomParameter) : EndpointParameter where
  name := custom.name
  place
  required := custom.isRequired
  description := custom.description <|> custom.documentationUrl.map ("Documentation: " ++ ·)
  type := .string
  constraints := []
  examples := custom.exampleValues

/-- Headers, then query options. -/
def ofCustoms (headers options : Option (List CustomParameter)) : List EndpointParameter :=
  (headers.getD []).map (ofCustom .header) ++ (options.getD []).map (ofCustom .query)

end EndpointParameter

/-- One way to be authorized for each permission that names a scheme. -/
def securityOf (permissions : Option (List Permission)) : List SecurityRequirement :=
  (permissions.getD []).filterMap fun permission =>
    permission.schemeName.map fun scheme => { scheme, scopes := permission.scopeNames }

end ODataApi
