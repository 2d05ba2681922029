import ODataApi.Capability.Query

/-!
# Restrictions on navigation

An element says how far its navigation properties may be followed, and for single
navigation paths it may say more.  The entry of a path can state its own
navigability and restrictions that replace those of the element the path leads to.

Whether a path may be followed is decided by the entry of the whole path, if it
states a navigability; else by the entry of the first navigation property on it;
else by the element.
-/

namespace ODataApi

/-- How far navigation properties may be followed. -/
inductive Navigability
  /-- Any number of them. -/
  | recursive
  /-- One. -/
  | single
  /-- None. -/
  | none
deriving DecidableEq, Repr, Inhabited

namespace Navigability

/-- The navigability of a member of the enumeration. -/
def ofMember? : String → Option Navigability
  | "Recursive" => some .recursive
  | "Single" => some .single
  | "None" => some .none
  | _ => Option.none

/-- A navigability.  Another member is reported as a member, also where it is
written as a string. -/
def read : Reader Navigability := fun value => do
  match ← Reader.enumMember value with
  | Option.none => pure Option.none
  | some member =>
    match ofMember? member with
    | some navigability => pure (some navigability)
    | Option.none => .mismatch "Recursive, Single or None" (.enumMember member)

/-- Whether `depth` navigation properties may be followed one after another. -/
def allowsDepth (navigability : Navigability) (depth : Nat) : Bool :=
  match navigability with
  | .recursive => true
  | .single => depth ≤ 1
  | .none => false

end Navigability

/-- What an element says of one navigation path. -/
structure NavigationPropertyRestriction where
  /-- The path. -/
  navigationProperty : String
  /-- Whether the path may be followed. -/
  navigability : Option Navigability := none
  /-- In place of the restrictions on reading. -/
  readRestrictions : Option ReadRestrictions := none
  /-- In place of the restrictions on inserting. -/
  insertRestrictions : Option InsertRestrictions := none
  /-- In place of the restrictions on updating. -/
  updateRestrictions : Option UpdateRestrictions := none
  /-- In place of the restrictions on deleting. -/
  deleteRestrictions : Option DeleteRestrictions := none
  /-- In place of the restrictions on counting. -/
  countRestrictions : Option CountRestrictions := none
  /-- In place of the restrictions on filtering. -/
  filterRestrictions : Option FilterRestrictions := none
  /-- In place of the restrictions on searching. -/
  searchRestrictions : Option SearchRestrictions := none
  /-- In place of the restrictions on sorting. -/
  sortRestrictions : Option SortRestrictions := none
  /-- Whether `$top` is taken. -/
  topSupported : Option Bool := none
  /-- Whether `$skip` is taken. -/
  skipSupported : Option Bool := none
  /-- Whether entities can be addressed by key. -/
  indexableByKey : Option Bool := none
deriving Repr, Inhabited

/-- An entry needs its path. -/
def NavigationPropertyRestriction.read : Reader NavigationPropertyRestriction :=
  .record fun fields => do
    match ← readField fields "NavigationProperty" .path with
    | none => pure none
    | some navigationProperty =>
      pure (some {
        navigationProperty
        navigability := ← readField fields "Navigability" Navigability.read
        readRestrictions := ← readField fields "ReadRestrictions" ReadRestrictions.read
        insertRestrictions := ← readField fields "InsertRestrictions" InsertRestrictions.read
        updateRestrictions := ← readField fields "UpdateRestrictions" UpdateRestrictions.read
        deleteRestrictions := ← readField fields "DeleteRestrictions" DeleteRestrictions.read
        countRestrictions := ← readField fields "CountRestrictions" CountRestrictions.read
        filterRestrictions := ← readField fields "FilterRestrictions" FilterRestrictions.read
        searchRestrictions := ← readField fields "SearchRestrictions" SearchRestrictions.read
        sortRestrictions := ← readField fields "SortRestrictions" SortRestrictions.read
        topSupported := ← readField fields "TopSupported" .bool
        skipSupported := ← readField fields "SkipSupported" .bool
        indexableByKey := ← readField fields "IndexableByKey" .bool })

/-- Restrictions on navigation from an element. -/
structure NavigationRestrictions where
  /-- How far navigation properties may be followed. -/
  navigability : Option Navigability := none
  /-- What differs for single paths. -/
  restrictedProperties : Option (List NavigationPropertyRestriction) := none
deriving Repr, Inhabited

namespace NavigationRestrictions

/-- The record. -/
def read : Reader NavigationRestrictions := .record fun fields => do
  pure (some {
    navigability := ← readField fields "Navigability" Navigability.read
    restrictedProperties :=
      ← readField fields "RestrictedProperties" (.listOf NavigationPropertyRestriction.read) })

/-- The navigability in effect. -/
def effectiveNavigability (r : NavigationRestrictions) : Navigability :=
  r.navigability.getD .recursive

/-- Whether any navigation property may be followed. -/
def isNavigable (r : NavigationRestrictions) : Bool := r.effectiveNavigability != .none

/-- The entries of single paths. -/
def entries (r : NavigationRestrictions) : List NavigationPropertyRestriction :=
  r.restrictedProperties.getD []

/-- The first entry of a path. -/
def entry? (r : NavigationRestrictions) (path : String) : Option NavigationPropertyRestriction :=
  r.entries.find? fun entry => entry.navigationProperty == path

/-- The navigability that the entry of a path states. -/
def statedFor? (r : NavigationRestrictions) (path : String) : Option Navigability :=
  (r.entry? path).bind (·.navigability)

/-- Whether the entry of a path forbids it. -/
def forbids (r : NavigationRestrictions) (path : String) : Bool :=
  r.statedFor? path == some .none

/-- The part of a path before its first slash. -/
def head (path : String) : String := String.ofList (path.toList.takeWhile (· != '/'))

/-- Whether a path of `depth` navigation properties may be followed. -/
def allowsPath (r : NavigationRestrictions) (path : String) (depth : Nat) : Bool :=
  ((r.statedFor? path <|> r.statedFor? (head path)).getD r.effectiveNavigability).allowsDepth depth

end NavigationRestrictions

end ODataApi
