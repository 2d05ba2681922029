import ODataApi.Path.Tree
import ODataApi.Proofs.Model.Hierarchy

/-!
# Addressable segments

What a path leads to is told by its segments alone.  `Position` is that much of it as
decides which segment can follow, `Position.after` is the position one segment
further, and `Position.Allows` says, segment by segment, what can stand there.

* A key follows a collection that is not cast, of a type with a key.
* A navigation property follows a single resource, as long as there are fewer than the
  settings allow.  The type has it, and the type before a cast does not.
* A cast follows what is not cast.  It names another type that inherits from the type
  there and is not abstract.
* An operation follows what it is bound to, and what the type before a cast is not
  bound to.
* `$count` follows a collection, `$ref` a navigation property that contains nothing.

`Addressable` chains these rules from a root of a container on.
-/

namespace ODataApi

namespace Model

/-- A type has a navigation property: it declares or inherits it. -/
def Offers (m : Model) (t : EntityTypeHandle) (n : NavigationHandle) : Prop :=
  m.Inherits t n.declaring ∧
    n.index < (m.entityType n.declaring).navigationProperties.length

/-- An operation is bound to a type or one of its base types, as a single entity or as
a collection. -/
def BindsTo (m : Model) (o : OperationHandle) (t : EntityTypeHandle) (collection : Bool) :
    Prop :=
  ∃ binding, (m.operation o).binding = some binding ∧ binding.collection = collection ∧
    m.Inherits t binding.type

theorem mem_navigationProperties_iff {m : Model} (hm : m.Acyclic) {t : EntityTypeHandle}
    {n : NavigationHandle} : n ∈ m.navigationProperties t ↔ m.Offers t n := by
  rw [mem_navigationProperties, mem_typeChain_iff hm]
  exact Iff.rfl

theorem isBoundTo_iff {m : Model} (hm : m.Acyclic) {o : OperationHandle} {t : EntityTypeHandle}
    {collection : Bool} :
    m.isBoundTo (m.operation o) t collection = true ↔ m.BindsTo o t collection := by
  rw [isBoundTo, BindsTo]
  cases hb : (m.operation o).binding with
  | none => simp
  | some binding =>
      simp only [Bool.and_eq_true, beq_iff_eq, isSubtypeOf_iff hm]
      constructor
      · intro h
        exact ⟨binding, rfl, h⟩
      · rintro ⟨_, ⟨⟩, h⟩
        exact h

theorem mem_boundOperations_iff {m : Model} (hm : m.Acyclic) {o : OperationHandle}
    {t : EntityTypeHandle} {collection : Bool} :
    o ∈ m.boundOperations t collection ↔ m.BindsTo o t collection := by
  rw [mem_boundOperations, isBoundTo_iff hm]
  constructor
  · exact fun h => h.2
  · intro h
    refine ⟨?_, h⟩
    rw [operationHandles, mem_handles]
    by_contra hlt
    have hnone : m.operations[o.index]? = none := List.getElem?_eq_none (Nat.le_of_not_lt hlt)
    obtain ⟨binding, hbinding, -⟩ := h
    rw [operation, hnone] at hbinding
    cases hbinding

/-- An operation that is bound to a type is bound to each type that inherits from it. -/
theorem boundOperations_subset {m : Model} (hm : m.Acyclic) {t u : EntityTypeHandle}
    (h : m.Inherits u t) (collection : Bool) :
    m.boundOperations t collection ⊆ m.boundOperations u collection := by
  intro o ho
  rw [mem_boundOperations_iff hm] at ho ⊢
  obtain ⟨binding, hbinding, hcollection, hinherits⟩ := ho
  exact ⟨binding, hbinding, hcollection, h.trans hinherits⟩

/-- A segment starts paths of a container. -/
def IsRoot (m : Model) (c : ContainerHandle) : Segment → Prop
  | .entitySet s => s ∈ (m.container c).entitySets
  | .singleton s => s ∈ (m.container c).singletons
  | .operationImport i => i.container = c ∧ i.index < (m.container c).imports.length
  | .key _ _ | .navigation _ | .typeCast _ | .operation _ | .count | .ref => False

end Model

/-! ## Positions -/

/-- What segments lead to, as far as it decides what can follow. -/
structure Position where
  /-- The type of what is there, none if no segment can follow. -/
  type : Option EntityTypeHandle
  /-- Whether it is any number of entities. -/
  collection : Bool
  /-- The type before the cast that was the last segment. -/
  castFrom : Option EntityTypeHandle
  /-- Whether the last segment was a navigation property that contains nothing. -/
  reference : Bool
  /-- How many navigation properties were followed. -/
  navigations : Nat
  /-- The names of the parameters so far. -/
  names : List String
deriving DecidableEq, Repr

/-- Fresh names for the parts of a key, one after the other. -/
def freshNames (taken : List String) (owner : String) : List String → List String
  | [] => []
  | base :: rest =>
    let name := freshName taken owner base
    name :: freshNames (taken ++ [name]) owner rest

namespace Position

/-- Where no segment can follow. -/
def final : Position := ⟨none, false, none, false, 0, []⟩

/-- The position of a root. -/
def ofRoot (m : Model) : Segment → Position
  | .entitySet s => ⟨some (m.entitySet s).type, true, none, false, 0, []⟩
  | .singleton s => ⟨some (m.singleton s).type, false, none, false, 0, []⟩
  | _ => final

/-- The position one segment further. -/
def after (m : Model) (p : Position) : Segment → Position
  | .key t names =>
    { p with
      type := some t
      collection := false
      castFrom := none
      reference := false
      names := p.names ++ names }
  | .navigation n =>
    { p with
      type := some (m.navigation n).target
      collection := (m.navigation n).collection
      castFrom := none
      reference := !(m.navigation n).containsTarget
      navigations := p.navigations + 1 }
  | .typeCast t => { p with type := some t, castFrom := p.type, reference := false }
  | _ => final

/-- A segment can follow. -/
def Allows (m : Model) (settings : Settings) (p : Position) : Segment → Prop
  | .key t names =>
    p.type = some t ∧ p.collection = true ∧ p.castFrom = none ∧ m.key t ≠ [] ∧
      names = freshNames p.names (m.entityType t).name (m.key t)
  | .navigation n =>
    ∃ t, p.type = some t ∧ p.collection = false ∧
      (p.navigations : Int) < settings.maxNavigationDepth ∧ m.Offers t n ∧
      ∀ base, p.castFrom = some base → ¬ m.Offers base n
  | .typeCast u =>
    ∃ t, p.type = some t ∧ settings.typeCastPaths = true ∧ p.castFrom = none ∧
      u ≠ t ∧ m.Inherits u t ∧ (m.entityType u).isAbstract = false
  | .operation o =>
    ∃ t, p.type = some t ∧ settings.operationPaths = true ∧ m.BindsTo o t p.collection ∧
      ∀ base, p.castFrom = some base → ¬ m.BindsTo o base p.collection
  | .count => p.type ≠ none ∧ settings.countPaths = true ∧ p.collection = true
  | .ref => p.type ≠ none ∧ p.reference = true
  | .entitySet _ | .singleton _ | .operationImport _ => False

/-- Segments can follow one another. -/
def Admits (m : Model) (settings : Settings) : Position → List Segment → Prop
  | _, [] => True
  | p, segment :: rest => p.Allows m settings segment ∧ (p.after m segment).Admits m settings rest

/-- The position some segments further. -/
def along (m : Model) : Position → List Segment → Position
  | p, [] => p
  | p, segment :: rest => (p.after m segment).along m rest

/-- The position of segments that start with a root. -/
def ofSegments (m : Model) : List Segment → Position
  | [] => final
  | root :: rest => (ofRoot m root).along m rest

end Position

/-- Segments that a container addresses something by. -/
def Addressable (m : Model) (settings : Settings) (c : ContainerHandle) : List Segment → Prop
  | [] => False
  | root :: rest => m.IsRoot c root ∧ (Position.ofRoot m root).Admits m settings rest

/-! ## One segment more -/

namespace Position

variable {m : Model} {settings : Settings}

theorem along_append (p : Position) (segments : List Segment) (segment : Segment) :
    p.along m (segments ++ [segment]) = (p.along m segments).after m segment := by
  induction segments generalizing p with
  | nil => rfl
  | cons first rest ih => exact ih (p.after m first)

theorem admits_append (p : Position) (segments : List Segment) (segment : Segment) :
    p.Admits m settings (segments ++ [segment]) ↔
      p.Admits m settings segments ∧ (p.along m segments).Allows m settings segment := by
  induction segments generalizing p with
  | nil => exact and_comm
  | cons first rest ih =>
      simp only [List.cons_append, Admits, along]
      rw [ih (p.after m first), and_assoc]

theorem ofSegments_append {segments : List Segment} (h : segments ≠ []) (segment : Segment) :
    ofSegments m (segments ++ [segment]) = (ofSegments m segments).after m segment := by
  cases segments with
  | nil => exact absurd rfl h
  | cons root rest => exact along_append (ofRoot m root) rest segment

theorem final_not_allows (segment : Segment) : ¬ final.Allows m settings segment := by
  intro h
  cases segment with
  | entitySet => exact h
  | singleton => exact h
  | operationImport => exact h
  | key => cases h.1
  | navigation =>
      obtain ⟨_, ht, _⟩ := h
      cases ht
  | typeCast =>
      obtain ⟨_, ht, _⟩ := h
      cases ht
  | operation =>
      obtain ⟨_, ht, _⟩ := h
      cases ht
  | count => exact h.1 rfl
  | ref => exact h.1 rfl

end Position

theorem addressable_append {m : Model} {settings : Settings} {c : ContainerHandle}
    {segments : List Segment} (h : segments ≠ []) (segment : Segment) :
    Addressable m settings c (segments ++ [segment]) ↔
      Addressable m settings c segments ∧
        (Position.ofSegments m segments).Allows m settings segment := by
  cases segments with
  | nil => exact absurd rfl h
  | cons root rest =>
      simp only [List.cons_append, Addressable, Position.ofSegments]
      rw [Position.admits_append, and_assoc]

/-! ## Names -/

namespace ResourcePath

/-- The parameters that are added bind what they are added for, in order, and have fresh names, one
after the other. -/
theorem addParameters_eq_append (owner : String) (source : ParameterSource) :
    ∀ (parameters : List TemplateParameter) (pairs : List (String × String)),
      ∃ added, addParameters owner source parameters pairs = parameters ++ added ∧
        added.map (·.name) = freshNames (parameters.map (·.name)) owner (pairs.map (·.1)) ∧
        added.map (·.binds) = pairs.map (·.1) ∧ ∀ p ∈ added, p.source = source
  | parameters, [] => ⟨[], (List.append_nil parameters).symm, rfl, rfl, List.forall_mem_nil _⟩
  | parameters, (binds, type) :: rest => by
      let name := freshName (parameters.map (·.name)) owner binds
      let first : TemplateParameter := { name, binds, type, source }
      obtain ⟨added, hadded, hnames, hbinds, hsource⟩ :=
        addParameters_eq_append owner source (parameters ++ [first]) rest
      refine ⟨first :: added, ?_, ?_, ?_, ?_⟩
      · rw [addParameters, hadded, List.append_assoc]
        rfl
      · rw [List.map_cons, hnames, List.map_append]
        rfl
      · rw [List.map_cons, hbinds]
        rfl
      · exact List.forall_mem_cons.mpr ⟨rfl, hsource⟩

end ResourcePath

end ODataApi
