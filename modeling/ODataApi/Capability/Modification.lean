import ODataApi.Capability.CustomParameter
import ODataApi.Capability.Permission

/-!
# Restrictions on reading and modifying entities

One record each for reading, inserting, updating and deleting.  What a record does
not say is allowed, with two exceptions: an update does not insert, and the answer
to a modification takes no query options.

Reading a single entity by its key may have a record of its own, which then decides
alone.
-/

namespace ODataApi

/-- Whether a list that may be absent has a name. -/
def listed (list : Option (List String)) (name : String) : Bool := (list.getD []).contains name

/-! ## Reading -/

/-- Restrictions on reading, of a collection or of a single entity. -/
structure ReadRestrictionsBase where
  /-- Whether it can be read. -/
  readable : Option Bool := none
  /-- What reading takes. -/
  permissions : Option (List Permission) := none
  /-- Headers of the service's own. -/
  customHeaders : Option (List CustomParameter) := none
  /-- Query options of the service's own. -/
  customQueryOptions : Option (List CustomParameter) := none
  /-- What reading does. -/
  description : Option String := none
deriving Repr, Inhabited

namespace ReadRestrictionsBase

/-- The fields of the record. -/
def readFields (fields : Dictionary Expression) : Reading ReadRestrictionsBase := do
  pure {
    readable := ← readField fields "Readable" .bool
    permissions := ← readPermissions fields
    customHeaders := ← readField fields "CustomHeaders" (.listOf CustomParameter.read)
    customQueryOptions := ← readField fields "CustomQueryOptions" (.listOf CustomParameter.read)
    description := ← readField fields "Description" .string }

/-- The record. -/
def read : Reader ReadRestrictionsBase := .record fun fields => do
  pure (some (← readFields fields))

/-- Whether it can be read. -/
def isReadable (r : ReadRestrictionsBase) : Bool := r.readable.getD true

end ReadRestrictionsBase

/-- Restrictions on reading a collection, and on reading its entities by key. -/
structure ReadRestrictions where
  /-- Reading the collection. -/
  base : ReadRestrictionsBase := {}
  /-- Reading a single entity, where that differs. -/
  readByKey : Option ReadRestrictionsBase := none
deriving Repr, Inhabited

namespace ReadRestrictions

/-- The record. -/
def read : Reader ReadRestrictions := .record fun fields => do
  let base ← ReadRestrictionsBase.readFields fields
  pure (some {
    base
    readByKey := ← readField fields "ReadByKeyRestrictions" ReadRestrictionsBase.read })

/-- Whether the collection can be read. -/
def isReadable (r : ReadRestrictions) : Bool := r.base.isReadable

/-- What governs reading a single entity. -/
def byKey (r : ReadRestrictions) : ReadRestrictionsBase := r.readByKey.getD r.base

/-- Whether a single entity can be read. -/
def isReadableByKey (r : ReadRestrictions) : Bool := r.byKey.isReadable

end ReadRestrictions

/-! ## Query options of modifications -/

/-- The query options a modification takes for its answer. -/
structure ModificationQueryOptions where
  /-- Whether `$expand` is taken. -/
  expandSupported : Option Bool := none
  /-- Whether `$select` is taken. -/
  selectSupported : Option Bool := none
  /-- Whether `$compute` is taken. -/
  computeSupported : Option Bool := none
  /-- Whether `$filter` is taken. -/
  filterSupported : Option Bool := none
  /-- Whether `$search` is taken. -/
  searchSupported : Option Bool := none
  /-- Whether `$orderby` is taken. -/
  sortSupported : Option Bool := none
deriving DecidableEq, Repr, Inhabited

namespace ModificationQueryOptions

/-- The record. -/
def read : Reader ModificationQueryOptions := .record fun fields => do
  pure (some {
    expandSupported := ← readField fields "ExpandSupported" .bool
    selectSupported := ← readField fields "SelectSupported" .bool
    computeSupported := ← readField fields "ComputeSupported" .bool
    filterSupported := ← readField fields "FilterSupported" .bool
    searchSupported := ← readField fields "SearchSupported" .bool
    sortSupported := ← readField fields "SortSupported" .bool })

/-- Whether `$select` is taken. -/
def isSelectSupported (q : ModificationQueryOptions) : Bool := q.selectSupported.getD false

/-- Whether `$expand` is taken. -/
def isExpandSupported (q : ModificationQueryOptions) : Bool := q.expandSupported.getD false

end ModificationQueryOptions

/-! ## Inserting -/

/-- Restrictions on inserting. -/
structure InsertRestrictions where
  /-- Whether entities can be inserted. -/
  insertable : Option Bool := none
  /-- The properties that have no value in a new entity. -/
  nonInsertableProperties : Option (List String) := none
  /-- The navigation properties through which nothing is inserted. -/
  nonInsertableNavigationProperties : Option (List String) := none
  /-- How deep new entities may nest; below zero without bound. -/
  maxLevels : Option Int := none
  /-- What inserting takes. -/
  permissions : Option (List Permission) := none
  /-- The query options of the answer. -/
  queryOptions : Option ModificationQueryOptions := none
  /-- Headers of the service's own. -/
  customHeaders : Option (List CustomParameter) := none
  /-- Query options of the service's own. -/
  customQueryOptions : Option (List CustomParameter) := none
  /-- What inserting does. -/
  description : Option String := none
deriving Repr, Inhabited

namespace InsertRestrictions

/-- The record. -/
def read : Reader InsertRestrictions := .record fun fields => do
  pure (some {
    insertable := ← readField fields "Insertable" .bool
    nonInsertableProperties := ← readField fields "NonInsertableProperties" .paths
    nonInsertableNavigationProperties :=
      ← readField fields "NonInsertableNavigationProperties" .paths
    maxLevels := ← readField fields "MaxLevels" .int
    permissions := ← readPermissions fields
    queryOptions := ← readField fields "QueryOptions" ModificationQueryOptions.read
    customHeaders := ← readField fields "CustomHeaders" (.listOf CustomParameter.read)
    customQueryOptions := ← readField fields "CustomQueryOptions" (.listOf CustomParameter.read)
    description := ← readField fields "Description" .string })

/-- Whether entities can be inserted. -/
def isInsertable (r : InsertRestrictions) : Bool := r.insertable.getD true

/-- Whether nothing is inserted through a navigation path. -/
def excludesNavigation (r : InsertRestrictions) (path : String) : Bool :=
  listed r.nonInsertableNavigationProperties path

end InsertRestrictions

/-! ## Updating -/

/-- How an entity is updated: in part or as a whole. -/
inductive UpdateMethod
  | patch
  | put
deriving DecidableEq, Repr, Inhabited

/-- The update method of a member of the enumeration, in upper or lower case. -/
def UpdateMethod.read : Reader UpdateMethod := fun value => do
  match ← Reader.enumMember value with
  | none => pure none
  | some member =>
    match member.toUpper with
    | "PUT" => pure (some .put)
    | "PATCH" => pure (some .patch)
    | _ => .mismatch "PATCH or PUT" value

/-- Restrictions on updating. -/
structure UpdateRestrictions where
  /-- Whether entities can be updated. -/
  updatable : Option Bool := none
  /-- Whether updating an entity that does not exist inserts it. -/
  upsertable : Option Bool := none
  /-- The method of updates. -/
  updateMethod : Option UpdateMethod := none
  /-- The navigation properties through which nothing is updated. -/
  nonUpdatableNavigationProperties : Option (List String) := none
  /-- How deep updated entities may nest; below zero without bound. -/
  maxLevels : Option Int := none
  /-- What updating takes. -/
  permissions : Option (List Permission) := none
  /-- The query options of the answer. -/
  queryOptions : Option ModificationQueryOptions := none
  /-- Headers of the service's own. -/
  customHeaders : Option (List CustomParameter) := none
  /-- Query options of the service's own. -/
  customQueryOptions : Option (List CustomParameter) := none
  /-- What updating does. -/
  description : Option String := none
deriving Repr, Inhabited

namespace UpdateRestrictions

/-- The record.  Its method is read first. -/
def read : Reader UpdateRestrictions := .record fun fields => do
  let updateMethod ← readField fields "UpdateMethod" UpdateMethod.read
  pure (some {
    updateMethod
    updatable := ← readField fields "Updatable" .bool
    upsertable := ← readField fields "Upsertable" .bool
    nonUpdatableNavigationProperties :=
      ← readField fields "NonUpdatableNavigationProperties" .paths
    maxLevels := ← readField fields "MaxLevels" .int
    permissions := ← readPermissions fields
    queryOptions := ← readField fields "QueryOptions" ModificationQueryOptions.read
    customHeaders := ← readField fields "CustomHeaders" (.listOf CustomParameter.read)
    customQueryOptions := ← readField fields "CustomQueryOptions" (.listOf CustomParameter.read)
    description := ← readField fields "Description" .string })

/-- Whether entities can be updated. -/
def isUpdatable (r : UpdateRestrictions) : Bool := r.updatable.getD true

/-- Whether an update may insert. -/
def isUpsertable (r : UpdateRestrictions) : Bool := r.upsertable.getD false

/-- The method in effect. -/
def method (r : UpdateRestrictions) : UpdateMethod := r.updateMethod.getD .patch

/-- Whether nothing is updated through a navigation path. -/
def excludesNavigation (r : UpdateRestrictions) (path : String) : Bool :=
  listed r.nonUpdatableNavigationProperties path

end UpdateRestrictions

/-! ## Deleting -/

/-- Restrictions on deleting. -/
structure DeleteRestrictions where
  /-- Whether entities can be deleted. -/
  deletable : Option Bool := none
  /-- The navigation properties through which nothing is deleted. -/
  nonDeletableNavigationProperties : Option (List String) := none
  /-- How deep deleted entities may nest; below zero without bound. -/
  maxLevels : Option Int := none
  /-- What deleting takes. -/
  permissions : Option (List Permission) := none
  /-- Headers of the service's own. -/
  customHeaders : Option (List CustomParameter) := none
  /-- Query options of the service's own. -/
  customQueryOptions : Option (List CustomParameter) := none
  /-- What deleting does. -/
  description : Option String := none
deriving Repr, Inhabited

namespace DeleteRestrictions

/-- The record. -/
def read : Reader DeleteRestrictions := .record fun fields => do
  pure (some {
    deletable := ← readField fields "Deletable" .bool
    nonDeletableNavigationProperties :=
      ← readField fields "NonDeletableNavigationProperties" .paths
    maxLevels := ← readField fields "MaxLevels" .int
    permissions := ← readPermissions fields
    customHeaders := ← readField fields "CustomHeaders" (.listOf CustomParameter.read)
    customQueryOptions := ← readField fields "CustomQueryOptions" (.listOf CustomParameter.read)
    description := ← readField fields "Description" .string })

/-- Whether entities can be deleted. -/
def isDeletable (r : DeleteRestrictions) : Bool := r.deletable.getD true

/-- Whether nothing is deleted through a navigation path. -/
def excludesNavigation (r : DeleteRestrictions) (path : String) : Bool :=
  listed r.nonDeletableNavigationProperties path

end DeleteRestrictions

end ODataApi
