import ODataApi.Capability.Reading

/-!
# Permissions

A permission names an authorization scheme and the scopes of that scheme that
suffice.  A scope without a name is no scope and is left out.
-/

namespace ODataApi

/-- A scope of an authorization scheme. -/
structure AuthorizationScope where
  /-- The name. -/
  scope : String
  /-- The properties it is limited to. -/
  restrictedProperties : Option String
deriving DecidableEq, Repr, Inhabited

/-- A scope needs its name. -/
def AuthorizationScope.read : Reader AuthorizationScope := .record fun fields => do
  match ← readField fields "Scope" .string with
  | none => pure none
  | some scope =>
    pure (some {
      scope
      restrictedProperties := ← readField fields "RestrictedProperties" .string })

/-- An authorization scheme and the scopes that suffice. -/
structure Permission where
  /-- The name of the scheme. -/
  schemeName : Option String
  /-- The scopes. -/
  scopes : List AuthorizationScope
deriving DecidableEq, Repr, Inhabited

namespace Permission

/-- A permission. -/
def read : Reader Permission := .record fun fields => do
  pure (some {
    schemeName := ← readField fields "SchemeName" .string
    scopes := (← readField fields "Scopes" (.listOf AuthorizationScope.read)).getD [] })

/-- The names of the scopes. -/
def scopeNames (permission : Permission) : List String := permission.scopes.map (·.scope)

end Permission

/-- The permissions of a record: a collection, or in place of one a single
permission under another name. -/
def readPermissions (fields : Dictionary Expression) : Reading (Option (List Permission)) := do
  match ← readField fields "Permissions" (.listOf Permission.read) with
  | some permissions => pure (some permissions)
  | none => pure ((← readField fields "Permission" Permission.read).map ([·]))

end ODataApi
