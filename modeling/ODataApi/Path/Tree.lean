import ODataApi.Path
import ODataApi.Settings

/-!
# The paths of a model

The paths of a container form a tree.  At the top are its entity sets, singletons
and operation imports; below a path are the paths that go one segment further, in
the order key, navigation properties, casts, bound operations, `$count`, `$ref`.
The tree is read level by level.

Cyclic models have finite trees too.  A path follows at most `maxNavigationDepth`
navigation properties; before, between and after them stands at most a key and a
cast, and one segment that nothing can follow may end it.  `maxLength` counts these
and bounds the levels.

A cast offers only what the type before it does not: the paths without the cast
have the rest.
-/

namespace ODataApi

namespace ResourcePath

/-! ## One segment further -/

/-- Whether the last segment is a cast. -/
def isCast (path : ResourcePath) : Bool := path.kind == .typeCast

/-- Whether a segment can follow. -/
def isTerminal (path : ResourcePath) : Bool :=
  match path.segments.getLast? with
  | some segment => segment.isTerminal
  | none => false

/-- What `offered` gives for the type, less what it gives for the type before a
cast that ends the path. -/
def notInherited {α : Type} [BEq α] (path : ResourcePath) (offered : EntityTypeHandle → List α)
    (t : EntityTypeHandle) : List α :=
  match path.isCast, path.castFrom with
  | true, some base =>
    let inherited := offered base
    (offered t).filter fun x => !inherited.contains x
  | _, _ => offered t

/-- The entities of a collection. -/
def keyChildren (m : Model) (path : ResourcePath) : List ResourcePath :=
  if path.collection && !path.isCast then (path.withKey? m).toList else []

/-- The resources behind the navigation properties of a single entity. -/
def navigationChildren (settings : Settings) (m : Model) (path : ResourcePath)
    (t : EntityTypeHandle) : List ResourcePath :=
  if !path.collection && path.depth < settings.navigationDepth then
    (path.notInherited m.navigationProperties t).map (path.withNavigation m)
  else []

/-- The resource as each derived type that has entities of its own. -/
def castChildren (settings : Settings) (m : Model) (path : ResourcePath) (t : EntityTypeHandle) :
    List ResourcePath :=
  if settings.typeCastPaths && !path.isCast then
    ((m.derivedTypes t).filter fun u => !(m.entityType u).isAbstract).map (path.withCast m)
  else []

/-- The operations bound to the resource. -/
def operationChildren (settings : Settings) (m : Model) (path : ResourcePath)
    (t : EntityTypeHandle) : List ResourcePath :=
  if settings.operationPaths then
    (path.notInherited (fun u => m.boundOperations u path.collection) t).map (path.withOperation m)
  else []

/-- The number of entities of a collection. -/
def countChildren (settings : Settings) (path : ResourcePath) : List ResourcePath :=
  if settings.countPaths && path.collection then [path.withCount] else []

/-- The reference behind a navigation property that contains nothing. -/
def refChildren (path : ResourcePath) : List ResourcePath :=
  if path.kind == .navigationProperty && !path.containment then [path.withRef] else []

/-- The paths that go one segment further. -/
def children (settings : Settings) (m : Model) (path : ResourcePath) : List ResourcePath :=
  if path.isTerminal then []
  else
    match path.entityType with
    | none => []
    | some t =>
      path.keyChildren m ++ path.navigationChildren settings m t ++ path.castChildren settings m t
        ++ path.operationChildren settings m t ++ path.countChildren settings ++ path.refChildren

end ResourcePath

/-! ## Levels -/

namespace Settings

/-- The greatest number of segments of a path. -/
def maxLength (settings : Settings) : Nat := 3 * settings.navigationDepth + 4

/-- The paths of a level and of at most `count - 1` levels below it. -/
def levels (settings : Settings) (m : Model) :
    (count : Nat) → List ResourcePath → List ResourcePath
  | 0, _ => []
  | _ + 1, [] => []
  | count + 1, level => level ++ settings.levels m count (level.flatMap (·.children settings m))

end Settings

namespace Model

/-- The paths of one segment: the sets of a container, its singletons and its
imports. -/
def rootPaths (m : Model) (c : ContainerHandle) : List ResourcePath :=
  (m.container c).entitySets.map (ResourcePath.ofEntitySet m)
    ++ (m.container c).singletons.map (ResourcePath.ofSingleton m)
    ++ (m.importHandles c).map (ResourcePath.ofImport m)

/-- The paths of a container. -/
def containerPaths (m : Model) (settings : Settings) (c : ContainerHandle) : List ResourcePath :=
  settings.levels m settings.maxLength (m.rootPaths c)

/-- The paths of a model, container by container. -/
def paths (m : Model) (settings : Settings) : Except SettingsError (List ResourcePath) := do
  settings.validate
  pure (m.containerHandles.flatMap (m.containerPaths settings))

end Model

end ODataApi
