import ODataApi.Capability.Record

/-!
# Decoding at a location

A decoder is handed the text of the location of its value, and it hands to every part the text of
the location of that part.  What does not have the expected shape is noted in a report of the
annotation as soon as it is met, and counts as absent.

Three places write the location of a field: the accessors of a record (`Fields.path`), the check of
the update method (`UpdateMethod.join`) and that of a navigability (`Navigability.location`).  The
items of a collection are numbered behind its location.

Readers and decoders take the fields of a record in the same order.
-/

namespace ODataApi

/-! ## Reports -/

/-- What is noted while the value of one annotation is decoded. -/
structure FieldReport where
  /-- The term of the annotation. -/
  term : Term
  /-- The name of the annotated element. -/
  element : String
  /-- The issues, in the order they were met. -/
  issues : List DecodeIssue := []
deriving DecidableEq, Repr

/-- Decoding with a report at hand. -/
abbrev Reporting := StateM FieldReport

/-- How the value at a location is decoded. -/
abbrev Decoder (α : Type) := Expression → (location : String) → Reporting (Option α)

/-- No value, and a note of what stands at the location in place of what was expected. -/
def mismatchAt {α : Type} (location expected : String) (found : Expression) :
    Reporting (Option α) := do
  modify fun report => { report with
    issues := report.issues ++ [{
      term := report.term
      element := report.element
      field := location
      expected
      found := found.shape }] }
  return none

/-! ## Items -/

/-- The items from position `index` on of the collection at a location, without those that cannot
be decoded. -/
def decodeItems {α : Type} (decode : Decoder α) (location : String) :
    (index : Nat) → List Expression → Reporting (List α)
  | _, [] => return []
  | index, item :: rest => do
    let value ← decode item (location ++ "[" ++ toString index ++ "]")
    let values ← decodeItems decode location (index + 1) rest
    return value.toList ++ values

/-- An item of a collection of paths.  A string is taken for a path. -/
def decodePath : Decoder String := fun value location =>
  match value with
  | .path text | .string text => return some text
  | other => mismatchAt location "path" other

/-! ## Fields -/

/-- A record and its location. -/
structure Fields where
  /-- The fields of the record. -/
  record : Dictionary Expression
  /-- The location of the record. -/
  location : String

namespace Fields

/-- The fields of a record. -/
def view : Decoder Fields := fun value location =>
  match value with
  | .record _ record => return some { record, location }
  | other => mismatchAt location "record" other

/-- The location of a field. -/
def path (f : Fields) (name : String) : String :=
  if f.location.isEmpty then name else f.location ++ "." ++ name

/-- A field that is there and not `null`. -/
def raw? (f : Fields) (name : String) : Option Expression :=
  match f.record.get? name with
  | none | some .null => none
  | some value => some value

/-- A field of one shape.  `take` gives the value, if the shape is right. -/
def plain {α : Type} (f : Fields) (expected : String) (take : Expression → Option α)
    (name : String) : Reporting (Option α) :=
  match f.raw? name with
  | none => return none
  | some value =>
    match take value with
    | some taken => return some taken
    | none => mismatchAt (f.path name) expected value

/-- A boolean. -/
def bool (f : Fields) : (name : String) → Reporting (Option Bool) :=
  f.plain "bool" fun
    | .bool value => some value
    | _ => none

/-- A whole number. -/
def int (f : Fields) : (name : String) → Reporting (Option Int) :=
  f.plain "int" fun
    | .int value => some value
    | _ => none

/-- A string. -/
def string (f : Fields) : (name : String) → Reporting (Option String) :=
  f.plain "string" fun
    | .string value => some value
    | _ => none

/-- A path.  A string is taken for one. -/
def pathValue (f : Fields) : (name : String) → Reporting (Option String) :=
  f.plain "path" fun
    | .path value | .string value => some value
    | _ => none

/-- A member of an enumeration, without the enumeration.  A string is taken for one. -/
def enumMember (f : Fields) : (name : String) → Reporting (Option String) :=
  f.plain "enum member" fun
    | .enumMember value | .string value => some (Name.last value)
    | _ => none

/-- Any value that has a JSON form. -/
def json (f : Fields) : (name : String) → Reporting (Option Json) :=
  f.plain "finite value" Expression.toJson?

/-- A record in a field. -/
def nested {α : Type} (f : Fields) (decode : Decoder α) (name : String) : Reporting (Option α) :=
  match f.raw? name with
  | none => return none
  | some value => decode value (f.path name)

/-- A collection. -/
def nestedList {α : Type} (f : Fields) (decode : Decoder α) (name : String) :
    Reporting (Option (List α)) :=
  match f.raw? name with
  | none => return none
  | some (.collection items) => do return some (← decodeItems decode (f.path name) 0 items)
  | some found => mismatchAt (f.path name) "collection" found

/-- A collection of paths. -/
def paths (f : Fields) : (name : String) → Reporting (Option (List String)) :=
  f.nestedList decodePath

end Fields

/-- A record, decoded off its fields. -/
def Decoder.record {α : Type} (decode : Fields → Reporting (Option α)) : Decoder α :=
  fun value location => do
    match ← Fields.view value location with
    | none => return none
    | some f => decode f

/-! ## Permissions -/

/-- A scope needs its name. -/
def AuthorizationScope.decodeAt : Decoder AuthorizationScope := .record fun f => do
  match ← f.string "Scope" with
  | none => return none
  | some scope =>
    return some { scope, restrictedProperties := ← f.string "RestrictedProperties" }

/-- A permission. -/
def Permission.decodeAt : Decoder Permission := .record fun f => do
  return some {
    schemeName := ← f.string "SchemeName"
    scopes := (← f.nestedList AuthorizationScope.decodeAt "Scopes").getD [] }

/-- The permissions of a record: a collection, or in place of one a single permission. -/
def Fields.permissions (f : Fields) : Reporting (Option (List Permission)) := do
  match ← f.nestedList Permission.decodeAt "Permissions" with
  | some permissions => return some permissions
  | none => return (← f.nested Permission.decodeAt "Permission").map ([·])

/-! ## Custom parameters -/

/-- An example value. -/
def ExampleValue.decodeAt : Decoder ExampleValue := .record fun f => do
  return some {
    description := ← f.string "Description"
    value := ← f.json "Value"
    externalValue := ← f.string "ExternalValue" }

/-- A custom parameter needs its name. -/
def CustomParameter.decodeAt : Decoder CustomParameter := .record fun f => do
  match ← f.string "Name" with
  | none => return none
  | some name =>
    return some {
      name
      description := ← f.string "Description"
      documentationUrl := ← f.string "DocumentationURL"
      required := ← f.bool "Required"
      exampleValues := (← f.nestedList ExampleValue.decodeAt "ExampleValues").getD [] }

/-! ## Reading and modifying -/

/-- Restrictions on reading, of a collection or by key. -/
def ReadRestrictionsBase.decodeAt : Decoder ReadRestrictionsBase := .record fun f => do
  return some {
    readable := ← f.bool "Readable"
    permissions := ← f.permissions
    customHeaders := ← f.nestedList CustomParameter.decodeAt "CustomHeaders"
    customQueryOptions := ← f.nestedList CustomParameter.decodeAt "CustomQueryOptions"
    description := ← f.string "Description" }

/-- Restrictions on reading.  The value is viewed twice: for the collection, then by key. -/
def ReadRestrictions.decodeAt : Decoder ReadRestrictions := fun value location => do
  match ← ReadRestrictionsBase.decodeAt value location with
  | none => return none
  | some base =>
    match ← Fields.view value location with
    | none => return none
    | some f =>
      return some {
        base
        readByKey := ← f.nested ReadRestrictionsBase.decodeAt "ReadByKeyRestrictions" }

/-- The query options of a modification. -/
def ModificationQueryOptions.decodeAt : Decoder ModificationQueryOptions := .record fun f => do
  return some {
    expandSupported := ← f.bool "ExpandSupported"
    selectSupported := ← f.bool "SelectSupported"
    computeSupported := ← f.bool "ComputeSupported"
    filterSupported := ← f.bool "FilterSupported"
    searchSupported := ← f.bool "SearchSupported"
    sortSupported := ← f.bool "SortSupported" }

/-- Restrictions on inserting. -/
def InsertRestrictions.decodeAt : Decoder InsertRestrictions := .record fun f => do
  return some {
    insertable := ← f.bool "Insertable"
    nonInsertableProperties := ← f.paths "NonInsertableProperties"
    nonInsertableNavigationProperties := ← f.paths "NonInsertableNavigationProperties"
    maxLevels := ← f.int "MaxLevels"
    permissions := ← f.permissions
    queryOptions := ← f.nested ModificationQueryOptions.decodeAt "QueryOptions"
    customHeaders := ← f.nestedList CustomParameter.decodeAt "CustomHeaders"
    customQueryOptions := ← f.nestedList CustomParameter.decodeAt "CustomQueryOptions"
    description := ← f.string "Description" }

namespace UpdateMethod

/-- The location of a field of the record at a location. -/
def join (location name : String) : String :=
  if location.isEmpty then name else location ++ "." ++ name

/-- A field of a value, if the value is a record. -/
def valueOf? (value : Expression) (name : String) : Option Expression :=
  match value with
  | .record _ fields => Dictionary.get? name fields
  | _ => none

/-- The update method of a member of the enumeration, in upper or lower case. -/
def ofMember? (member : String) : Option UpdateMethod :=
  match member.toUpper with
  | "PUT" => some .put
  | "PATCH" => some .patch
  | _ => none

/-- The update method of the record at a location.  An unknown one is looked up in the record
again, for the report. -/
def decodeOf (value : Expression) (location : String) (f : Fields) :
    Reporting (Option UpdateMethod) := do
  match ← f.enumMember "UpdateMethod" with
  | none => return none
  | some member =>
    match ofMember? member with
    | some method => return some method
    | none =>
      match valueOf? value "UpdateMethod" with
      | none => return none
      | some raw => mismatchAt (join location "UpdateMethod") "PATCH or PUT" raw

end UpdateMethod

/-- Restrictions on updating.  The method comes first. -/
def UpdateRestrictions.decodeAt : Decoder UpdateRestrictions := fun value location => do
  match ← Fields.view value location with
  | none => return none
  | some f =>
    let updateMethod ← UpdateMethod.decodeOf value location f
    return some {
      updateMethod
      updatable := ← f.bool "Updatable"
      upsertable := ← f.bool "Upsertable"
      nonUpdatableNavigationProperties := ← f.paths "NonUpdatableNavigationProperties"
      maxLevels := ← f.int "MaxLevels"
      permissions := ← f.permissions
      queryOptions := ← f.nested ModificationQueryOptions.decodeAt "QueryOptions"
      customHeaders := ← f.nestedList CustomParameter.decodeAt "CustomHeaders"
      customQueryOptions := ← f.nestedList CustomParameter.decodeAt "CustomQueryOptions"
      description := ← f.string "Description" }

/-- Restrictions on deleting. -/
def DeleteRestrictions.decodeAt : Decoder DeleteRestrictions := .record fun f => do
  return some {
    deletable := ← f.bool "Deletable"
    nonDeletableNavigationProperties := ← f.paths "NonDeletableNavigationProperties"
    maxLevels := ← f.int "MaxLevels"
    permissions := ← f.permissions
    customHeaders := ← f.nestedList CustomParameter.decodeAt "CustomHeaders"
    customQueryOptions := ← f.nestedList CustomParameter.decodeAt "CustomQueryOptions"
    description := ← f.string "Description" }

/-! ## Query options -/

/-- Restrictions on counting. -/
def CountRestrictions.decodeAt : Decoder CountRestrictions := .record fun f => do
  return some {
    countable := ← f.bool "Countable"
    nonCountableProperties := ← f.paths "NonCountableProperties"
    nonCountableNavigationProperties := ← f.paths "NonCountableNavigationProperties" }

/-- Restrictions on filtering. -/
def FilterRestrictions.decodeAt : Decoder FilterRestrictions := .record fun f => do
  return some {
    filterable := ← f.bool "Filterable"
    requiresFilter := ← f.bool "RequiresFilter"
    requiredProperties := ← f.paths "RequiredProperties"
    nonFilterableProperties := ← f.paths "NonFilterableProperties"
    maxLevels := ← f.int "MaxLevels" }

/-- Restrictions on searching. -/
def SearchRestrictions.decodeAt : Decoder SearchRestrictions := .record fun f => do
  return some {
    searchable := ← f.bool "Searchable"
    unsupportedExpressions := ← f.enumMember "UnsupportedExpressions" }

/-- Restrictions on sorting. -/
def SortRestrictions.decodeAt : Decoder SortRestrictions := .record fun f => do
  return some {
    sortable := ← f.bool "Sortable"
    ascendingOnlyProperties := ← f.paths "AscendingOnlyProperties"
    descendingOnlyProperties := ← f.paths "DescendingOnlyProperties"
    nonSortableProperties := ← f.paths "NonSortableProperties" }

/-- Whether `$select` is taken. -/
def SelectSupport.decodeAt : Decoder SelectSupport := .record fun f => do
  return some {
    supported := ← f.bool "Supported"
    expandable := ← f.bool "Expandable"
    filterable := ← f.bool "Filterable"
    searchable := ← f.bool "Searchable"
    topSupported := ← f.bool "TopSupported"
    skipSupported := ← f.bool "SkipSupported"
    computeSupported := ← f.bool "ComputeSupported"
    countable := ← f.bool "Countable"
    sortable := ← f.bool "Sortable" }

/-- Restrictions on expanding. -/
def ExpandRestrictions.decodeAt : Decoder ExpandRestrictions := .record fun f => do
  return some {
    expandable := ← f.bool "Expandable"
    nonExpandableProperties := ← f.paths "NonExpandableProperties"
    maxLevels := ← f.int "MaxLevels" }

/-- A boolean.  The bare annotation, whose value is `null`, stands for true. -/
def decodeTag : Decoder Bool := fun value location =>
  match value with
  | .bool value => return some value
  | .null => return some true
  | other => mismatchAt location "bool" other

/-- A tag. -/
def Tag.decodeAt : Decoder Tag := fun value location => do
  return (← decodeTag value location).map fun value => ⟨some value⟩

/-! ## Navigation -/

namespace Navigability

/-- The location of the navigability of the record at a location. -/
def location (record : String) : String :=
  if record.isEmpty then "Navigability" else record ++ ".Navigability"

/-- The navigability of the record at a location.  An unknown member is reported as a member, also
where it is written as a string. -/
def decodeOf (f : Fields) (record : String) : Reporting (Option Navigability) := do
  match ← f.enumMember "Navigability" with
  | Option.none => return Option.none
  | some member =>
    match ofMember? member with
    | some navigability => return some navigability
    | Option.none =>
      mismatchAt (location record) "Recursive, Single or None" (.enumMember member)

end Navigability

/-- An entry needs its path. -/
def NavigationPropertyRestriction.decodeAt : Decoder NavigationPropertyRestriction :=
  fun value location => do
    match ← Fields.view value location with
    | none => return none
    | some f =>
      match ← f.pathValue "NavigationProperty" with
      | none => return none
      | some navigationProperty =>
        return some {
          navigationProperty
          navigability := ← Navigability.decodeOf f location
          readRestrictions := ← f.nested ReadRestrictions.decodeAt "ReadRestrictions"
          insertRestrictions := ← f.nested InsertRestrictions.decodeAt "InsertRestrictions"
          updateRestrictions := ← f.nested UpdateRestrictions.decodeAt "UpdateRestrictions"
          deleteRestrictions := ← f.nested DeleteRestrictions.decodeAt "DeleteRestrictions"
          countRestrictions := ← f.nested CountRestrictions.decodeAt "CountRestrictions"
          filterRestrictions := ← f.nested FilterRestrictions.decodeAt "FilterRestrictions"
          searchRestrictions := ← f.nested SearchRestrictions.decodeAt "SearchRestrictions"
          sortRestrictions := ← f.nested SortRestrictions.decodeAt "SortRestrictions"
          topSupported := ← f.bool "TopSupported"
          skipSupported := ← f.bool "SkipSupported"
          indexableByKey := ← f.bool "IndexableByKey" }

/-- Restrictions on navigation from an element. -/
def NavigationRestrictions.decodeAt : Decoder NavigationRestrictions := fun value location => do
  match ← Fields.view value location with
  | none => return none
  | some f =>
    return some {
      navigability := ← Navigability.decodeOf f location
      restrictedProperties :=
        ← f.nestedList NavigationPropertyRestriction.decodeAt "RestrictedProperties" }

/-! ## Terms -/

/-- The decoder of the record of a term. -/
def Term.decodeAt : (term : Term) → Decoder term.Record
  | .readRestrictions => ReadRestrictions.decodeAt
  | .insertRestrictions => InsertRestrictions.decodeAt
  | .updateRestrictions => UpdateRestrictions.decodeAt
  | .deleteRestrictions => DeleteRestrictions.decodeAt
  | .countRestrictions => CountRestrictions.decodeAt
  | .filterRestrictions => FilterRestrictions.decodeAt
  | .searchRestrictions => SearchRestrictions.decodeAt
  | .sortRestrictions => SortRestrictions.decodeAt
  | .selectSupport => SelectSupport.decodeAt
  | .expandRestrictions => ExpandRestrictions.decodeAt
  | .navigationRestrictions => NavigationRestrictions.decodeAt
  | .indexableByKey => Tag.decodeAt
  | .topSupported => Tag.decodeAt
  | .skipSupported => Tag.decodeAt

/-- Decode the whole value of an annotation. -/
def Term.decodeWhole (term : Term) (value : Expression) : Reporting (Option term.Record) :=
  term.decodeAt value ""

end ODataApi
