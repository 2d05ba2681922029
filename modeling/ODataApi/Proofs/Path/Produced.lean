import ODataApi.Proofs.Model.WellFormed
import ODataApi.Proofs.Path.Children
import ODataApi.Restriction.Lookup

/-!
# What holds of every path of a model

A property of the paths of a model is proved along their trees: it holds of the sets,
singletons and imports, and passes from a path to the paths directly below it
(`Model.paths_forall`).

So the root and the target of a path are elements that annotations are looked up on
(`isDirect_of_mem_paths`), its type is a type of the model
(`entityType_mem_of_mem_paths`), a path that ends with a call leads to what the
operation returns (`callKnown_of_mem_paths`), and its last segment tells what a path addresses
(`ended_of_mem_paths`).  Its first segment tells its root (`rooted_of_mem_paths`), which it leads to
as long as no navigation property and no operation leads away from it (`stays_of_mem_paths`).
-/

namespace ODataApi

variable {settings : Settings} {m : Model} {c : ContainerHandle} {path : ResourcePath}
  {paths : List ResourcePath}

/-! ## Calls -/

namespace ResourcePath

variable (operation : Operation) (name : String)

@[simp] theorem call_root : (path.call operation name).root = path.root := by
  rw [call]
  cases operation.kind with
  | action => rfl
  | function => rfl

@[simp] theorem call_target : (path.call operation name).target = path.target := by
  rw [call]
  cases operation.kind with
  | action => rfl
  | function => rfl

@[simp] theorem call_binding : (path.call operation name).binding = path.binding := by
  rw [call]
  cases operation.kind with
  | action => rfl
  | function => rfl

@[simp] theorem call_entityType :
    (path.call operation name).entityType = path.entityType := by
  rw [call]
  cases operation.kind with
  | action => rfl
  | function => rfl

end ResourcePath

/-! ## Induction -/

namespace Model

theorem mem_rootPaths :
    path ∈ m.rootPaths c ↔
      ((∃ s ∈ (m.container c).entitySets, ResourcePath.ofEntitySet m s = path) ∨
        ∃ s ∈ (m.container c).singletons, ResourcePath.ofSingleton m s = path) ∨
        ∃ i ∈ m.importHandles c, ResourcePath.ofImport m i = path := by
  simp only [rootPaths, List.mem_append, List.mem_map]

theorem containerPaths_forall {P : ResourcePath → Prop} (hroots : ∀ path ∈ m.rootPaths c, P path)
    (hfollows : ∀ path child, P path → path.isTerminal = false →
      ResourcePath.Follows settings m path child → P child) :
    ∀ path ∈ m.containerPaths settings c, P path := by
  intro path hpath
  rw [containerPaths, Settings.levels_eq_levelsBelow] at hpath
  obtain ⟨k, -, hk⟩ := mem_levelsBelow.mp hpath
  refine levelBelow_forall _ hroots ?_ k path hk
  intro path h child hchild
  obtain ⟨hlast, hfollow⟩ := ResourcePath.follows_of_mem_children hchild
  exact hfollows path child h hlast hfollow

theorem paths_eq_ok (h : m.paths settings = .ok paths) :
    0 ≤ settings.maxNavigationDepth ∧
      paths = m.containerHandles.flatMap (m.containerPaths settings) := by
  rw [Model.paths, Settings.validate] at h
  split at h
  case isTrue => cases h
  case isFalse hdepth =>
      cases h
      exact ⟨Int.not_lt.mp hdepth, rfl⟩

theorem paths_eq_flatMap (m : Model) (h : 0 ≤ settings.maxNavigationDepth) :
    m.paths settings = .ok (m.containerHandles.flatMap (m.containerPaths settings)) := by
  rw [Model.paths, Settings.validate, if_neg (Int.not_lt.mpr h)]
  rfl

theorem paths_forall {P : ResourcePath → Prop}
    (hroots : ∀ c ∈ m.containerHandles, ∀ path ∈ m.rootPaths c, P path)
    (hfollows : ∀ path child, P path → path.isTerminal = false →
      ResourcePath.Follows settings m path child → P child)
    (h : m.paths settings = .ok paths) : ∀ path ∈ paths, P path := by
  obtain ⟨-, rfl⟩ := paths_eq_ok h
  intro path hpath
  obtain ⟨c, hc, hmem⟩ := List.mem_flatMap.mp hpath
  exact containerPaths_forall (hroots c hc) hfollows path hmem

/-! ## Roots and targets -/

theorem isDirect_of_mem_paths (h : m.paths settings = .ok paths) :
    ∀ path ∈ paths, isDirect path.root = true ∧ isDirect path.target = true := by
  refine paths_forall ?_ ?_ h
  · intro c _ path hpath
    rcases mem_rootPaths.mp hpath with (⟨s, -, rfl⟩ | ⟨s, -, rfl⟩) | ⟨i, -, rfl⟩
    · exact ⟨rfl, rfl⟩
    · exact ⟨rfl, rfl⟩
    · simp [ResourcePath.ofImport, ResourcePath.ofRoot, isDirect]
  · intro path child hdirect _ hfollow
    cases hfollow with
    | key _ _ h =>
        obtain ⟨_, _, _, _, -, rfl⟩ := ResourcePath.withKey?_eq_some h
        exact hdirect
    | navigation => exact ⟨hdirect.1, rfl⟩
    | typeCast => exact hdirect
    | operation =>
        refine ⟨?_, rfl⟩
        simpa [ResourcePath.withOperation, ResourcePath.push] using hdirect.1
    | count => exact hdirect
    | ref => exact hdirect

/-! ## Types -/

theorem returnedType?_mem {operation : Operation} {t : EntityTypeHandle}
    (h : ResourcePath.returnedType? m operation = some t) : t ∈ m.entityTypeHandles := by
  obtain ⟨_, -, h⟩ := Option.bind_eq_some_iff.mp h
  exact findEntityType?_mem h

theorem WellFormed.import_type_mem (hm : m.WellFormed) (hc : c ∈ m.containerHandles)
    {i : ImportHandle} (hi : i ∈ m.importHandles c) {t : EntityTypeHandle}
    (h : (ResourcePath.ofImport m i).entityType = some t) : t ∈ m.entityTypeHandles := by
  obtain ⟨hcontainer, hindex⟩ := mem_importHandles.mp hi
  have himport : m.operationImport i ∈ (m.container c).imports := by
    rw [← hcontainer] at hindex ⊢
    exact operationImport_mem hindex
  simp only [ResourcePath.ofImport, ResourcePath.call_entityType, ResourcePath.ofRoot,
    elementType?] at h
  cases hset : (m.operationImport i).entitySet with
  | some s =>
      rw [hset] at h
      cases h
      have hs := hm.import_entitySet_mem _ (container_mem hc) _ himport s hset
      exact hm.entitySet_type_mem _ (entitySet_mem hs)
  | none =>
      rw [hset] at h
      exact returnedType?_mem h

theorem WellFormed.entityType_mem_of_mem_rootPaths (hm : m.WellFormed)
    (hc : c ∈ m.containerHandles) (hpath : path ∈ m.rootPaths c) :
    ∀ t, path.entityType = some t → t ∈ m.entityTypeHandles := by
  intro t ht
  rcases mem_rootPaths.mp hpath with (⟨s, hs, rfl⟩ | ⟨s, hs, rfl⟩) | ⟨i, hi, rfl⟩
  · cases ht
    exact hm.entitySet_type_mem _ (entitySet_mem (hm.mem_entitySetHandles hc hs))
  · cases ht
    exact hm.singleton_type_mem _ (singleton_mem (hm.mem_singletonHandles hc hs))
  · exact hm.import_type_mem hc hi ht

theorem WellFormed.entityType_mem_of_mem_paths (hm : m.WellFormed)
    (h : m.paths settings = .ok paths) :
    ∀ path ∈ paths, ∀ t, path.entityType = some t → t ∈ m.entityTypeHandles := by
  refine paths_forall ?_ ?_ h
  · intro c hc path hpath
    exact hm.entityType_mem_of_mem_rootPaths hc hpath
  · intro path child hpath _ hfollow t ht
    cases hfollow with
    | key _ _ h =>
        obtain ⟨_, _, _, _, -, rfl⟩ := ResourcePath.withKey?_eq_some h
        exact hpath t ht
    | navigation _ _ _ hn =>
        cases ht
        exact hm.navigation_target_mem (ResourcePath.mem_notInherited.mp hn).1
    | typeCast _ _ _ hu =>
        cases ht
        exact hm.derivedTypes_subset hu
    | operation => exact returnedType?_mem ht
    | count => exact hpath t ht
    | ref => exact hpath t ht

end Model

/-! ## Paths that end with a call -/

namespace ResourcePath

/-- The operation that a path calls at its end. -/
def called? (m : Model) (path : ResourcePath) : Option Operation :=
  match path.segments.getLast? with
  | some (.operation o) => some (m.operation o)
  | some (.operationImport i) => some (m.operation (m.operationImport i).operation)
  | _ => none

/-- A path that ends with a call leads to what the operation returns, but that of an import
with an entity set leads to the type of the set. -/
structure CallKnown (m : Model) (path : ResourcePath) : Prop where
  /-- A call of a bound operation. -/
  operation : ∀ o, path.segments.getLast? = some (.operation o) →
    path.kind = .operation ∧ path.entityType = returnedType? m (m.operation o)
  /-- A call of an import. -/
  operationImport : ∀ i, path.segments.getLast? = some (.operationImport i) →
    path.kind = .operationImport ∧ path.entityType =
      (m.elementType? (.operationImport i) <|>
        returnedType? m (m.operation (m.operationImport i).operation))

theorem CallKnown.kind_of_called (h : path.CallKnown m) {operation : Operation}
    (hcalled : path.called? m = some operation) :
    path.kind = .operation ∨ path.kind = .operationImport := by
  rw [called?] at hcalled
  split at hcalled
  case h_1 o hlast => exact Or.inl (h.operation o hlast).1
  case h_2 i hlast => exact Or.inr (h.operationImport i hlast).1
  case h_3 => cases hcalled

theorem callKnown_of_getLast? {segment : Segment} (hlast : path.segments.getLast? = some segment)
    (hoperation : ∀ o, segment ≠ .operation o) (himport : ∀ i, segment ≠ .operationImport i) :
    path.CallKnown m := by
  constructor
  · intro o h
    exact absurd (Option.some.inj (hlast.symm.trans h)) (hoperation o)
  · intro i h
    exact absurd (Option.some.inj (hlast.symm.trans h)) (himport i)

theorem withOperation_callKnown (o : OperationHandle) : (path.withOperation m o).CallKnown m := by
  have hlast : (path.withOperation m o).segments.getLast? = some (.operation o) := by
    simp [withOperation, push]
  constructor
  · intro o' h
    rw [hlast] at h
    cases h
    exact ⟨by simp [withOperation, push], rfl⟩
  · intro i h
    rw [hlast] at h
    cases h

theorem ofImport_callKnown (i : ImportHandle) : (ofImport m i).CallKnown m := by
  have hlast : (ofImport m i).segments.getLast? = some (.operationImport i) := by
    simp [ofImport, ofRoot]
  constructor
  · intro o h
    rw [hlast] at h
    cases h
  · intro i' h
    rw [hlast] at h
    cases h
    exact ⟨by simp [ofImport, ofRoot], by simp [ofImport, ofRoot]⟩

end ResourcePath

namespace Model

open ResourcePath in
theorem callKnown_of_mem_paths (h : m.paths settings = .ok paths) :
    ∀ path ∈ paths, path.CallKnown m := by
  refine paths_forall ?_ ?_ h
  · intro c _ path hpath
    rcases mem_rootPaths.mp hpath with (⟨s, -, rfl⟩ | ⟨s, -, rfl⟩) | ⟨i, -, rfl⟩
    · exact callKnown_of_getLast? rfl (by simp) (by simp)
    · exact callKnown_of_getLast? rfl (by simp) (by simp)
    · exact ofImport_callKnown i
  · intro path child _ _ hfollow
    cases hfollow with
    | key _ _ h =>
        obtain ⟨_, _, _, _, -, rfl⟩ := ResourcePath.withKey?_eq_some h
        exact callKnown_of_getLast? List.getLast?_concat (by simp) (by simp)
    | navigation | typeCast | count | ref =>
        exact callKnown_of_getLast? List.getLast?_concat (by simp) (by simp)
    | operation => exact withOperation_callKnown _

end Model

/-! ## How a path ends -/

/-- What a path addresses that ends with a segment. -/
def Segment.addresses : Segment → PathKind
  | entitySet _ => .entitySet
  | singleton _ => .singleton
  | key _ _ => .entity
  | navigation _ => .navigationProperty
  | typeCast _ => .typeCast
  | operation _ => .operation
  | operationImport _ => .operationImport
  | count => .count
  | ref => .ref

namespace ResourcePath

/-- What a path addresses is told by its last segment.  Behind a navigation property it is as
many entities as the property leads to, and a reference has as many as the property before it. -/
inductive Ended (m : Model) (path : ResourcePath) : Prop
  | entitySet {s : EntitySetHandle} (hlast : path.segments.getLast? = some (.entitySet s))
      (hkind : path.kind = .entitySet)
  | singleton {s : SingletonHandle} (hlast : path.segments.getLast? = some (.singleton s))
      (hkind : path.kind = .singleton)
  | key {t : EntityTypeHandle} {names : List String}
      (hlast : path.segments.getLast? = some (.key t names)) (hkind : path.kind = .entity)
  | navigation {n : NavigationHandle} (hlast : path.segments.getLast? = some (.navigation n))
      (hkind : path.kind = .navigationProperty)
      (hcollection : path.collection = (m.navigation n).collection)
      (hcontainment : path.containment = (m.navigation n).containsTarget)
  | typeCast {t : EntityTypeHandle} (hlast : path.segments.getLast? = some (.typeCast t))
      (hkind : path.kind = .typeCast)
  | operation {o : OperationHandle} (hlast : path.segments.getLast? = some (.operation o))
      (hkind : path.kind = .operation)
  | operationImport {i : ImportHandle}
      (hlast : path.segments.getLast? = some (.operationImport i))
      (hkind : path.kind = .operationImport)
  | count (hlast : path.segments.getLast? = some .count) (hkind : path.kind = .count)
  | ref {n : NavigationHandle} (hlast : path.segments.getLast? = some .ref)
      (hbefore : path.segments.dropLast.getLast? = some (.navigation n))
      (hkind : path.kind = .ref) (hcollection : path.collection = (m.navigation n).collection)

theorem Ended.kind_eq (h : path.Ended m) {segment : Segment}
    (hlast : path.segments.getLast? = some segment) : path.kind = segment.addresses := by
  cases h with
  | entitySet hfound hkind | singleton hfound hkind | key hfound hkind
  | typeCast hfound hkind | operation hfound hkind | operationImport hfound hkind
  | count hfound hkind | navigation hfound hkind | ref hfound _ hkind =>
      obtain rfl := Option.some.inj (hlast.symm.trans hfound)
      exact hkind

theorem Ended.exists_navigation (h : path.Ended m) (hkind : path.kind = .navigationProperty) :
    ∃ n, path.segments.getLast? = some (.navigation n) ∧
      path.collection = (m.navigation n).collection := by
  cases h with
  | navigation hlast _ hcollection => exact ⟨_, hlast, hcollection⟩
  | entitySet _ hother | singleton _ hother | key _ hother | typeCast _ hother
  | operation _ hother | operationImport _ hother | count _ hother =>
      exact absurd (hkind.symm.trans hother) (by decide)
  | ref _ _ hother => exact absurd (hkind.symm.trans hother) (by decide)

theorem Ended.follows (h : path.Ended m) {child : ResourcePath}
    (hfollow : Follows settings m path child) : child.Ended m := by
  cases hfollow with
  | key _ _ hkey =>
      obtain ⟨_, _, _, _, -, rfl⟩ := withKey?_eq_some hkey
      exact .key List.getLast?_concat rfl
  | navigation => exact .navigation List.getLast?_concat rfl rfl rfl
  | typeCast => exact .typeCast List.getLast?_concat rfl
  | @operation _ o =>
      have hlast : (path.withOperation m o).segments.getLast? = some (.operation o) := by
        simp [withOperation, push]
      exact .operation hlast (by simp [withOperation, push])
  | count => exact .count List.getLast?_concat rfl
  | ref hkind =>
      obtain ⟨n, hlast, hcollection⟩ := h.exists_navigation hkind
      refine .ref (n := n) List.getLast?_concat ?_ rfl hcollection
      show (path.segments ++ [Segment.ref]).dropLast.getLast? = _
      rw [List.dropLast_concat]
      exact hlast

theorem ended_of_mem_rootPaths (h : path ∈ m.rootPaths c) : path.Ended m := by
  rcases Model.mem_rootPaths.mp h with (⟨s, -, rfl⟩ | ⟨s, -, rfl⟩) | ⟨i, -, rfl⟩
  · exact .entitySet rfl rfl
  · exact .singleton rfl rfl
  · have hlast : (ofImport m i).segments.getLast? = some (.operationImport i) := by
      simp [ofImport, ofRoot]
    exact .operationImport hlast (by simp [ofImport, ofRoot])

end ResourcePath

namespace Model

theorem ended_of_mem_paths (h : m.paths settings = .ok paths) : ∀ path ∈ paths, path.Ended m :=
  paths_forall (fun _ _ _ => ResourcePath.ended_of_mem_rootPaths)
    (fun _ _ hended _ hfollow => hended.follows hfollow) h

end Model

/-! ## How a path starts -/

/-- The element that a segment starts a path from. -/
def Segment.root? : Segment → Option Element
  | entitySet s => some (.entitySet s)
  | singleton s => some (.singleton s)
  | operationImport i => some (.operationImport i)
  | _ => none

/-- Whether a segment leads to another resource.  Keys, casts, counts and references do not. -/
def Segment.leadsAway : Segment → Bool
  | navigation _ | operation _ => true
  | _ => false

namespace ResourcePath

/-- The root of a path is that of its first segment. -/
def Rooted (path : ResourcePath) : Prop :=
  path.segments.head?.bind Segment.root? = some path.root

theorem Rooted.push (h : path.Rooted) {child : ResourcePath} (segment : Segment)
    (hsegments : child.segments = path.segments ++ [segment]) (hroot : child.root = path.root) :
    child.Rooted := by
  obtain ⟨first, hfirst, hstart⟩ := Option.bind_eq_some_iff.mp h
  rw [Rooted, hsegments, List.head?_append, hfirst, Option.some_or, Option.bind_some, hstart, hroot]

theorem Rooted.follows (h : path.Rooted) {child : ResourcePath}
    (hfollow : Follows settings m path child) : child.Rooted := by
  cases hfollow with
  | key _ _ hkey =>
      obtain ⟨t, names, _, _, -, rfl⟩ := withKey?_eq_some hkey
      exact h.push (.key t names) rfl rfl
  | navigation | typeCast | count | ref => exact h.push _ rfl rfl
  | @operation _ o =>
      exact h.push (.operation o) (call_segments _ _) (call_root _ _)

/-- As long as no navigation property and no operation leads away from it, a path stays with its
root. -/
def Stays (path : ResourcePath) : Prop :=
  (∀ segment ∈ path.segments, segment.leadsAway = false) →
    path.target = path.root ∧ path.binding = none

theorem Stays.push (h : path.Stays) {child : ResourcePath} (segment : Segment)
    (hsegments : child.segments = path.segments ++ [segment]) (hroot : child.root = path.root)
    (htarget : child.target = path.target) (hbinding : child.binding = path.binding) :
    child.Stays := by
  intro hstays
  rw [hroot, htarget, hbinding]
  rw [hsegments] at hstays
  exact h fun other hother => hstays other (List.mem_append_left _ hother)

theorem stays_of_leadsAway {segment : Segment} (hmem : segment ∈ path.segments)
    (h : segment.leadsAway = true) : path.Stays :=
  fun hstays => absurd (h.symm.trans (hstays segment hmem)) Bool.noConfusion

theorem Stays.follows (h : path.Stays) {child : ResourcePath}
    (hfollow : Follows settings m path child) : child.Stays := by
  cases hfollow with
  | key _ _ hkey =>
      obtain ⟨t, names, _, _, -, rfl⟩ := withKey?_eq_some hkey
      exact h.push (.key t names) rfl rfl rfl rfl
  | typeCast | count | ref => exact h.push _ rfl rfl rfl rfl
  | navigation => exact stays_of_leadsAway (List.mem_append_right _ (.head _)) rfl
  | @operation _ o =>
      have hmem : Segment.operation o ∈ (path.withOperation m o).segments := by
        simp [withOperation, ResourcePath.push]
      exact stays_of_leadsAway hmem rfl

end ResourcePath

namespace Model

theorem rooted_of_mem_paths (h : m.paths settings = .ok paths) :
    ∀ path ∈ paths, path.Rooted := by
  refine paths_forall ?_ (fun _ _ hrooted _ hfollow => hrooted.follows hfollow) h
  intro c _ path hpath
  rcases mem_rootPaths.mp hpath with (⟨s, -, rfl⟩ | ⟨s, -, rfl⟩) | ⟨i, -, rfl⟩
  · rfl
  · rfl
  · simp [ResourcePath.Rooted, ResourcePath.ofImport, ResourcePath.ofRoot, Segment.root?]

theorem stays_of_mem_paths (h : m.paths settings = .ok paths) :
    ∀ path ∈ paths, path.Stays := by
  refine paths_forall ?_ (fun _ _ hstays _ hfollow => hstays.follows hfollow) h
  intro c _ path hpath _
  rcases mem_rootPaths.mp hpath with (⟨s, -, rfl⟩ | ⟨s, -, rfl⟩) | ⟨i, -, rfl⟩
  · exact ⟨rfl, rfl⟩
  · exact ⟨rfl, rfl⟩
  · simp [ResourcePath.ofImport, ResourcePath.ofRoot]

end Model

end ODataApi
