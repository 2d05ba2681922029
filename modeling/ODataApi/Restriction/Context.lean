import ODataApi.Restriction.Lookup

/-!
# What governs a path

A path that follows navigation properties is governed by its root too.  The root
may forbid the navigation path, and then nothing can be done there.  Its entry for
the navigation path replaces the records it states.  Its lists of excluded
navigation paths hold on top of all that.

Selecting and expanding have no place in an entry and are always looked up.
-/

namespace ODataApi

/-- The records that govern the resource of a path. -/
structure PathRestrictions where
  /-- Reading. -/
  read : Resolved ReadRestrictions
  /-- Inserting. -/
  insert : Resolved InsertRestrictions
  /-- Updating. -/
  update : Resolved UpdateRestrictions
  /-- Deleting. -/
  delete : Resolved DeleteRestrictions
  /-- Counting. -/
  count : Resolved CountRestrictions
  /-- Filtering. -/
  filter : Resolved FilterRestrictions
  /-- Searching. -/
  search : Resolved SearchRestrictions
  /-- Sorting. -/
  sort : Resolved SortRestrictions
  /-- Selecting. -/
  select : Resolved SelectSupport
  /-- Expanding. -/
  expand : Resolved ExpandRestrictions
  /-- The option `$top`. -/
  top : Resolved Tag
  /-- The option `$skip`. -/
  skip : Resolved Tag
  /-- Addressing by key. -/
  indexable : Resolved Tag
deriving Repr, Inhabited

/-- What the root of a path says of the navigation paths it excludes. -/
structure RootRestrictions where
  /-- Inserting. -/
  insert : InsertRestrictions
  /-- Updating. -/
  update : UpdateRestrictions
  /-- Deleting. -/
  delete : DeleteRestrictions
  /-- Counting. -/
  count : CountRestrictions
deriving Repr, Inhabited

/-- The root of a navigation path as far as it governs the path. -/
structure NavigationContext where
  /-- The entry for the navigation path. -/
  entry : Option NavigationPropertyRestriction
  /-- The lists of excluded navigation paths. -/
  root : RootRestrictions
deriving Repr, Inhabited

/-- All that decides what can be done on a path. -/
structure PathContext where
  /-- The path. -/
  path : ResourcePath
  /-- The records that govern its resource. -/
  restrictions : PathRestrictions
  /-- What the root says, if the path follows navigation properties. -/
  root : Option RootRestrictions
  /-- The navigation path. -/
  navigationPath : String
  /-- The qualified name of the type. -/
  typeName : Option String
  /-- The simple name of the type, empty without one. -/
  typeLabel : String
  /-- The names along the path, which group and name what is done there. -/
  tag : String
deriving Repr, Inhabited

namespace ResourcePath

/-- The name of a segment in a tag.  Keys, operations, `$count` and `$ref` have
none. -/
def tagName? (m : Model) : Segment → Option String
  | .entitySet s => some (m.entitySet s).name
  | .singleton s => some (m.singleton s).name
  | .operationImport i => some (m.operationImport i).name
  | .navigation n => some (m.navigation n).name
  | .typeCast t => some (m.entityType t).name
  | .key _ _ | .operation _ | .count | .ref => none

/-- The names along a path, with dots between them. -/
def tag (m : Model) (path : ResourcePath) : String :=
  ".".intercalate (path.segments.filterMap (tagName? m))

end ResourcePath

namespace Model

/-- What governs a path unless the entry of its root replaces it. -/
def resolveOr (m : Model) (term : Term) (path : ResourcePath) (replacement : Option term.Record) :
    StateM AnnotationCache (Resolved term.Record) :=
  match replacement with
  | some record => pure (.overridden record path.root)
  | none => m.resolvePath term path

/-- The records that govern the resource of a path. -/
def pathRestrictions (m : Model) (path : ResourcePath)
    (entry : Option NavigationPropertyRestriction) : StateM AnnotationCache PathRestrictions := do
  let tag (value : Option Bool) : Option Tag := value.map fun value => ⟨some value⟩
  pure {
    read := ← m.resolveOr .readRestrictions path (entry.bind (·.readRestrictions))
    insert := ← m.resolveOr .insertRestrictions path (entry.bind (·.insertRestrictions))
    update := ← m.resolveOr .updateRestrictions path (entry.bind (·.updateRestrictions))
    delete := ← m.resolveOr .deleteRestrictions path (entry.bind (·.deleteRestrictions))
    count := ← m.resolveOr .countRestrictions path (entry.bind (·.countRestrictions))
    filter := ← m.resolveOr .filterRestrictions path (entry.bind (·.filterRestrictions))
    search := ← m.resolveOr .searchRestrictions path (entry.bind (·.searchRestrictions))
    sort := ← m.resolveOr .sortRestrictions path (entry.bind (·.sortRestrictions))
    select := ← m.resolvePath .selectSupport path
    expand := ← m.resolvePath .expandRestrictions path
    top := ← m.resolveOr .topSupported path (tag (entry.bind (·.topSupported)))
    skip := ← m.resolveOr .skipSupported path (tag (entry.bind (·.skipSupported)))
    indexable := ← m.resolveOr .indexableByKey path (tag (entry.bind (·.indexableByKey))) }

/-- What the root of a path says of the navigation path, if it does not forbid
it. -/
def navigationContext? (m : Model) (path : ResourcePath) (navigationPath : String) :
    StateM AnnotationCache (Option NavigationContext) := do
  let navigation ← m.resolveFor .navigationRestrictions path.root
  if navigation.value.allowsPath navigationPath path.depth then
    pure (some {
      entry := navigation.value.entry? navigationPath
      root := {
        insert := (← m.resolveFor .insertRestrictions path.root).value
        update := (← m.resolveFor .updateRestrictions path.root).value
        delete := (← m.resolveFor .deleteRestrictions path.root).value
        count := (← m.resolveFor .countRestrictions path.root).value } })
  else pure none

/-- The context of a path under what its root says. -/
def contextUnder (m : Model) (path : ResourcePath) (navigation : Option NavigationContext) :
    StateM AnnotationCache PathContext := do
  let restrictions ← m.pathRestrictions path (navigation.bind (·.entry))
  pure {
    path
    restrictions
    root := navigation.map (·.root)
    navigationPath := path.navigationPath m
    typeName := path.entityType.map fun t => (m.entityType t).qualifiedName
    typeLabel := (path.entityType.map fun t => (m.entityType t).name).getD ""
    tag := path.tag m }

/-- The context of a path, none if its root forbids it. -/
def pathContext? (m : Model) (path : ResourcePath) :
    StateM AnnotationCache (Option PathContext) := do
  if path.depth = 0 then
    pure (some (← m.contextUnder path none))
  else
    match ← m.navigationContext? path (path.navigationPath m) with
    | none => pure none
    | some navigation => pure (some (← m.contextUnder path (some navigation)))

end Model

end ODataApi
