import ODataApi.Capability.Modification

/-!
# Restrictions on query options

Counting, filtering, searching, sorting, selecting and expanding have a record
each.  What a record does not say is allowed, and no filter is required.  Addressing
by key, `$top` and `$skip` are tags: a single boolean.
-/

namespace ODataApi

/-! ## Counting -/

/-- Restrictions on counting. -/
structure CountRestrictions where
  /-- Whether a collection can be counted. -/
  countable : Option Bool := none
  /-- The collection properties that cannot be counted. -/
  nonCountableProperties : Option (List String) := none
  /-- The navigation properties that cannot be counted. -/
  nonCountableNavigationProperties : Option (List String) := none
deriving DecidableEq, Repr, Inhabited

namespace CountRestrictions

/-- The record. -/
def read : Reader CountRestrictions := .record fun fields => do
  pure (some {
    countable := ← readField fields "Countable" .bool
    nonCountableProperties := ← readField fields "NonCountableProperties" .paths
    nonCountableNavigationProperties :=
      ← readField fields "NonCountableNavigationProperties" .paths })

/-- Whether a collection can be counted. -/
def isCountable (r : CountRestrictions) : Bool := r.countable.getD true

/-- Whether a collection property cannot be counted. -/
def excludesProperty (r : CountRestrictions) (path : String) : Bool :=
  listed r.nonCountableProperties path

/-- Whether a navigation property cannot be counted. -/
def excludesNavigation (r : CountRestrictions) (path : String) : Bool :=
  listed r.nonCountableNavigationProperties path

end CountRestrictions

/-! ## Filtering -/

/-- Restrictions on filtering. -/
structure FilterRestrictions where
  /-- Whether `$filter` is taken. -/
  filterable : Option Bool := none
  /-- Whether a request must have a filter. -/
  requiresFilter : Option Bool := none
  /-- The properties a filter must mention. -/
  requiredProperties : Option (List String) := none
  /-- The properties a filter cannot mention. -/
  nonFilterableProperties : Option (List String) := none
  /-- How deep the paths in a filter may go. -/
  maxLevels : Option Int := none
deriving DecidableEq, Repr, Inhabited

namespace FilterRestrictions

/-- The record. -/
def read : Reader FilterRestrictions := .record fun fields => do
  pure (some {
    filterable := ← readField fields "Filterable" .bool
    requiresFilter := ← readField fields "RequiresFilter" .bool
    requiredProperties := ← readField fields "RequiredProperties" .paths
    nonFilterableProperties := ← readField fields "NonFilterableProperties" .paths
    maxLevels := ← readField fields "MaxLevels" .int })

/-- Whether `$filter` is taken. -/
def isFilterable (r : FilterRestrictions) : Bool := r.filterable.getD true

/-- Whether a request must have a filter. -/
def isFilterRequired (r : FilterRestrictions) : Bool := r.requiresFilter.getD false

/-- Whether a filter must mention a property. -/
def requiresProperty (r : FilterRestrictions) (path : String) : Bool :=
  listed r.requiredProperties path

/-- Whether a filter cannot mention a property. -/
def excludesProperty (r : FilterRestrictions) (path : String) : Bool :=
  listed r.nonFilterableProperties path

end FilterRestrictions

/-! ## Searching -/

/-- Restrictions on searching. -/
structure SearchRestrictions where
  /-- Whether `$search` is taken. -/
  searchable : Option Bool := none
  /-- What a search expression cannot have, as a list of flags. -/
  unsupportedExpressions : Option String := none
deriving DecidableEq, Repr, Inhabited

namespace SearchRestrictions

/-- The record. -/
def read : Reader SearchRestrictions := .record fun fields => do
  pure (some {
    searchable := ← readField fields "Searchable" .bool
    unsupportedExpressions := ← readField fields "UnsupportedExpressions" .enumMember })

/-- Whether `$search` is taken. -/
def isSearchable (r : SearchRestrictions) : Bool := r.searchable.getD true

end SearchRestrictions

/-! ## Sorting -/

/-- Restrictions on sorting. -/
structure SortRestrictions where
  /-- Whether `$orderby` is taken. -/
  sortable : Option Bool := none
  /-- The properties that sort in ascending order only. -/
  ascendingOnlyProperties : Option (List String) := none
  /-- The properties that sort in descending order only. -/
  descendingOnlyProperties : Option (List String) := none
  /-- The properties that do not sort. -/
  nonSortableProperties : Option (List String) := none
deriving DecidableEq, Repr, Inhabited

namespace SortRestrictions

/-- The record. -/
def read : Reader SortRestrictions := .record fun fields => do
  pure (some {
    sortable := ← readField fields "Sortable" .bool
    ascendingOnlyProperties := ← readField fields "AscendingOnlyProperties" .paths
    descendingOnlyProperties := ← readField fields "DescendingOnlyProperties" .paths
    nonSortableProperties := ← readField fields "NonSortableProperties" .paths })

/-- Whether `$orderby` is taken. -/
def isSortable (r : SortRestrictions) : Bool := r.sortable.getD true

/-- Whether a property sorts in ascending order only. -/
def isAscendingOnly (r : SortRestrictions) (path : String) : Bool :=
  listed r.ascendingOnlyProperties path

/-- Whether a property sorts in descending order only. -/
def isDescendingOnly (r : SortRestrictions) (path : String) : Bool :=
  listed r.descendingOnlyProperties path

/-- Whether a property does not sort. -/
def excludesProperty (r : SortRestrictions) (path : String) : Bool :=
  listed r.nonSortableProperties path

end SortRestrictions

/-! ## Selecting -/

/-- Whether `$select` is taken, and which options inside it. -/
structure SelectSupport where
  /-- Whether `$select` is taken. -/
  supported : Option Bool := none
  /-- Whether a selected property takes `$expand`. -/
  expandable : Option Bool := none
  /-- Whether a selected property takes `$filter`. -/
  filterable : Option Bool := none
  /-- Whether a selected property takes `$search`. -/
  searchable : Option Bool := none
  /-- Whether a selected property takes `$top`. -/
  topSupported : Option Bool := none
  /-- Whether a selected property takes `$skip`. -/
  skipSupported : Option Bool := none
  /-- Whether a selected property takes `$compute`. -/
  computeSupported : Option Bool := none
  /-- Whether a selected property takes `$count`. -/
  countable : Option Bool := none
  /-- Whether a selected property takes `$orderby`. -/
  sortable : Option Bool := none
deriving DecidableEq, Repr, Inhabited

namespace SelectSupport

/-- The record. -/
def read : Reader SelectSupport := .record fun fields => do
  pure (some {
    supported := ← readField fields "Supported" .bool
    expandable := ← readField fields "Expandable" .bool
    filterable := ← readField fields "Filterable" .bool
    searchable := ← readField fields "Searchable" .bool
    topSupported := ← readField fields "TopSupported" .bool
    skipSupported := ← readField fields "SkipSupported" .bool
    computeSupported := ← readField fields "ComputeSupported" .bool
    countable := ← readField fields "Countable" .bool
    sortable := ← readField fields "Sortable" .bool })

/-- Whether `$select` is taken. -/
def isSupported (r : SelectSupport) : Bool := r.supported.getD true

end SelectSupport

/-! ## Expanding -/

/-- The numbers of levels that are a bound: whole numbers of thirty-two bits.  A
number below zero says there is none. -/
def levelsBound? (levels : Option Int) : Option Nat :=
  match levels with
  | some (.ofNat n) => if n < 0x100000000 then some n else none
  | _ => none

/-- Restrictions on expanding. -/
structure ExpandRestrictions where
  /-- Whether `$expand` is taken. -/
  expandable : Option Bool := none
  /-- The properties that cannot be expanded. -/
  nonExpandableProperties : Option (List String) := none
  /-- How deep expansion may go; below zero without bound. -/
  maxLevels : Option Int := none
deriving DecidableEq, Repr, Inhabited

namespace ExpandRestrictions

/-- The record. -/
def read : Reader ExpandRestrictions := .record fun fields => do
  pure (some {
    expandable := ← readField fields "Expandable" .bool
    nonExpandableProperties := ← readField fields "NonExpandableProperties" .paths
    maxLevels := ← readField fields "MaxLevels" .int })

/-- Whether `$expand` is taken. -/
def isExpandable (r : ExpandRestrictions) : Bool := r.expandable.getD true

/-- Whether a property cannot be expanded. -/
def excludesProperty (r : ExpandRestrictions) (path : String) : Bool :=
  listed r.nonExpandableProperties path

/-- How deep expansion may go. -/
def maxLevelsBound? (r : ExpandRestrictions) : Option Nat := levelsBound? r.maxLevels

end ExpandRestrictions

/-! ## Tags -/

/-- A single boolean. -/
structure Tag where
  /-- The boolean. -/
  value : Option Bool := none
deriving DecidableEq, Repr, Inhabited

namespace Tag

/-- The tag. -/
def read : Reader Tag := fun value => do
  pure ((← Reader.tag value).map fun value => ⟨some value⟩)

/-- What the tag speaks of is supported unless it says otherwise. -/
def isSupported (tag : Tag) : Bool := tag.value.getD true

end Tag

end ODataApi
