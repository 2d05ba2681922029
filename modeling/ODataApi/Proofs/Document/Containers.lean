import ODataApi.Proofs.Document.Resolve
import ODataApi.Proofs.Model.Coherent

/-!
# The containers of a resolved document

A container is resolved before those after it, and the handles it gives to its sets and
singletons count on from those before it.  So in the finished model they lead to the sets and
singletons of that container (`Document.holds`), which have the names that it declares, belong to
it and are bound among themselves (`ContainerContent.Declared`).
-/

namespace ODataApi

/-- The sets and singletons a container declares. -/
def ContainerDeclaration.sources (d : ContainerDeclaration) : List SourceDeclaration :=
  d.entitySets ++ d.singletons

namespace ContainerContent

/-- The sets and singletons of a container. -/
def sources (content : ContainerContent) : List NavigationSource :=
  content.entitySets ++ content.singletons

/-- A container at position `index` is as it is declared: it has the declared names, its sets and
singletons belong to it and are bound to each other, and its imports call unbound operations. -/
structure Declared (content : ContainerContent) (d : ContainerDeclaration) (scope : Scope)
    (operations : List Operation) (index : Nat) : Prop where
  /-- The namespace of the document. -/
  ns : content.container.ns = scope.ns
  /-- The name. -/
  name : content.container.name = d.name
  /-- The names of the entity sets. -/
  entitySet_names : content.entitySets.map (·.name) = d.entitySets.map (·.name)
  /-- The names of the singletons. -/
  singleton_names : content.singletons.map (·.name) = d.singletons.map (·.name)
  /-- The names of the imports. -/
  import_names : content.container.imports.map (·.name) = d.imports.map (·.name)
  /-- Sets and singletons belong to the container. -/
  source_container : ∀ s ∈ content.sources, s.container = ⟨index⟩
  /-- Bindings lead to sets and singletons of the container. -/
  binding_target : ∀ s ∈ content.sources, ∀ b ∈ s.bindings, b.target ∈ content.container.sources
  /-- Imports call unbound operations. -/
  import_operation : ∀ i ∈ content.container.imports,
    ∃ operation, operations[i.operation.index]? = some operation ∧ operation.isBound = false
  /-- The sets of imports are sets of the container. -/
  import_entitySet : ∀ i ∈ content.container.imports, ∀ s, i.entitySet = some s →
    s ∈ content.container.entitySets

end ContainerContent

/-! ## One container -/

section

variable {scope : Scope} {operations : List Operation}

theorem exists_of_mem_zipWith {α β γ : Type} {f : α → β → γ} {xs : List α} {ys : List β} {z : γ}
    (h : z ∈ List.zipWith f xs ys) : ∃ x ∈ xs, ∃ y ∈ ys, f x y = z := by
  obtain ⟨i, hi⟩ := List.mem_iff_getElem?.mp h
  obtain ⟨x, y, hx, hy, hz⟩ := List.getElem?_zipWith_eq_some.mp hi
  exact ⟨x, List.mem_of_getElem? hx, y, List.mem_of_getElem? hy, hz⟩

theorem zipWith_left {α β γ : Type} {f : α → γ} :
    ∀ {xs : List α} {ys : List β}, xs.length ≤ ys.length →
      List.zipWith (fun x _ => f x) xs ys = xs.map f
  | [], _, _ => rfl
  | x :: xs, [], h => absurd h (Nat.not_succ_le_zero _)
  | x :: xs, y :: ys, h => by
      rw [List.zipWith_cons_cons, List.map_cons, zipWith_left (Nat.le_of_succ_le_succ h)]

theorem SourceDeclaration.binding_target_mem {d : SourceDeclaration} {owner : String}
    {members : List (String × Element)} {bindings : List NavigationBinding}
    (h : d.resolveBindings owner members = .ok bindings) {b : NavigationBinding}
    (hb : b ∈ bindings) : ∃ name, (name, b.target) ∈ members := by
  obtain ⟨⟨path, target⟩, -, hbinding⟩ := Except.exists_of_mem_mapM h hb
  simp only at hbinding
  split at hbinding
  next heq =>
    cases hbinding
    exact ⟨target, mem_of_lookup_eq_some heq⟩
  next => cases hbinding

theorem ImportDeclaration.resolve_eq_ok {d : ImportDeclaration} {owner : String}
    {members : List (String × Element)} {imported : OperationImport}
    (h : d.resolve scope operations owner members = .ok imported) :
    imported.name = d.name ∧ ∃ operation,
      operations[imported.operation.index]? = some operation ∧ operation.isBound = false ∧
        operation.qualifiedName = scope.qualify d.operation := by
  simp only [ImportDeclaration.resolve] at h
  split at h
  next index hindex =>
    simp only [Except.bind_eq_ok, Except.pure_eq_ok] at h
    obtain ⟨_, hoperation, _, _, rfl⟩ := h
    cases hoperation
    obtain ⟨hlt, hfound, -⟩ := List.findIdx?_eq_some_iff_getElem.mp hindex
    simp only [Bool.and_eq_true, Bool.not_eq_true', beq_iff_eq] at hfound
    exact ⟨rfl, operations[index], List.getElem?_eq_getElem hlt, hfound.1, hfound.2⟩
  next => cases h

theorem ContainerDeclaration.resolve_declared {d : ContainerDeclaration}
    {index setCount singletonCount : Nat} {content : ContainerContent}
    (h : d.resolve scope operations index setCount singletonCount = .ok content) :
    content.Declared d scope operations index := by
  have hnumbered := ContainerDeclaration.resolve_numbered h
  simp only [ContainerDeclaration.resolve, Except.bind_eq_ok, Except.pure_eq_ok] at h
  obtain ⟨types, htypes, bindings, hbindings, imports, himports, rfl⟩ := h
  have hzip : (types.zip bindings).length = (d.entitySets ++ d.singletons).length := by
    rw [List.length_zip, (memberTypes_spec htypes).1, Except.length_of_mapM_eq_ok hbindings,
      Nat.min_self]
  have hlength := Nat.le_of_eq hzip.symm
  constructor
  case ns => rfl
  case name => rfl
  case entitySet_names =>
    rw [List.map_take, List.map_zipWith, zipWith_left hlength, List.map_append,
      List.take_left' (List.length_map _)]
  case singleton_names =>
    rw [List.map_drop, List.map_zipWith, zipWith_left hlength, List.map_append,
      List.drop_left' (List.length_map _)]
  case import_names =>
    exact Except.map_eq_of_mapM_eq_ok (fun _ _ hi => (ImportDeclaration.resolve_eq_ok hi).1)
      himports
  case source_container =>
    intro s hs
    rw [ContainerContent.sources, List.take_append_drop] at hs
    obtain ⟨_, _, _, _, rfl⟩ := exists_of_mem_zipWith hs
    rfl
  case binding_target =>
    intro s hs b hb
    rw [ContainerContent.sources, List.take_append_drop] at hs
    obtain ⟨_, _, x, hx, rfl⟩ := exists_of_mem_zipWith hs
    obtain ⟨source, -, hsource⟩ := Except.exists_of_mem_mapM hbindings (List.of_mem_zip hx).2
    obtain ⟨name, hname⟩ := SourceDeclaration.binding_target_mem hsource hb
    exact (List.of_mem_zip hname).2
  case import_operation =>
    intro i hi
    obtain ⟨declared, -, hdeclared⟩ := Except.exists_of_mem_mapM himports hi
    obtain ⟨-, operation, hoperation, hunbound, -⟩ := ImportDeclaration.resolve_eq_ok hdeclared
    exact ⟨operation, hoperation, hunbound⟩
  case import_entitySet => exact hnumbered.import_entitySet

/-! ## All containers -/

theorem resolveContainers_length :
    ∀ {ds : List ContainerDeclaration} {index setCount singletonCount : Nat}
      {contents : List ContainerContent},
      resolveContainers scope operations index setCount singletonCount ds = .ok contents →
        contents.length = ds.length
  | [], _, _, _, _, h => by
      cases h
      rfl
  | d :: ds, _, _, _, _, h => by
      simp only [resolveContainers, Except.bind_eq_ok, Except.pure_eq_ok] at h
      obtain ⟨_, _, _, hcontents, rfl⟩ := h
      rw [List.length_cons, List.length_cons, resolveContainers_length hcontents]

/-- Each container is resolved after as many sets and singletons as stand before it. -/
theorem resolveContainers_getElem? :
    ∀ {ds : List ContainerDeclaration} {index setCount singletonCount : Nat}
      {contents : List ContainerContent},
      resolveContainers scope operations index setCount singletonCount ds = .ok contents →
        ∀ {k : Nat} {d : ContainerDeclaration}, ds[k]? = some d →
          ∃ content, contents[k]? = some content ∧
            d.resolve scope operations (index + k)
                (setCount + ((contents.take k).flatMap (·.entitySets)).length)
                (singletonCount + ((contents.take k).flatMap (·.singletons)).length)
              = .ok content
  | [], _, _, _, _, _, k, d, hd => by cases hd
  | first :: ds, index, setCount, singletonCount, _, h, k, d, hd => by
      simp only [resolveContainers, Except.bind_eq_ok, Except.pure_eq_ok] at h
      obtain ⟨content, hcontent, contents, hcontents, rfl⟩ := h
      cases k with
      | zero =>
          cases hd
          exact ⟨content, rfl, hcontent⟩
      | succ k =>
          obtain ⟨found, hfound, hresolve⟩ := resolveContainers_getElem? hcontents hd
          refine ⟨found, hfound, ?_⟩
          simp only [List.take_succ_cons, List.flatMap_cons, List.length_append]
          rw [show index + (k + 1) = index + 1 + k by omega, ← Nat.add_assoc, ← Nat.add_assoc]
          exact hresolve

end

/-! ## Containers of the model -/

theorem flatMap_eq_append {α β : Type} {xs : List α} {k : Nat} {x : α} (h : xs[k]? = some x)
    (f : α → List β) :
    xs.flatMap f = (xs.take k).flatMap f ++ f x ++ (xs.drop (k + 1)).flatMap f := by
  obtain ⟨hk, rfl⟩ := List.getElem?_eq_some_iff.mp h
  conv_lhs => rw [← List.take_append_drop k xs, List.drop_eq_getElem_cons hk]
  rw [List.flatMap_append, List.flatMap_cons, List.append_assoc]

/-- Handles that count on from some items lead to the items that follow. -/
theorem map_handlesFrom {kind : ElementKind} {α : Type} [Inhabited α]
    (before items after : List α) :
    (handlesFrom kind before.length items.length).map
        (fun h => (before ++ items ++ after)[h.index]?.getD default)
      = items := by
  refine List.ext_getElem? fun i => ?_
  rw [handlesFrom, List.map_map, List.getElem?_map]
  by_cases hi : i < items.length
  · rw [List.getElem?_range' hi]
    simp [List.getElem?_append_right, hi, List.getElem?_append_left]
  · rw [List.getElem?_eq_none (Nat.le_of_not_lt hi), List.getElem?_eq_none (by simpa using hi)]
    rfl

/-- The container at a handle, with its sets and singletons. -/
structure Model.Holds (m : Model) (c : ContainerHandle) (content : ContainerContent) : Prop where
  /-- The container. -/
  container : m.container c = content.container
  /-- The entity sets that it lists. -/
  entitySets : content.container.entitySets.map m.entitySet = content.entitySets
  /-- The singletons that it lists. -/
  singletons : content.container.singletons.map m.singleton = content.singletons

namespace Model.Holds

variable {m : Model} {c : ContainerHandle} {content : ContainerContent}

theorem entitySet_mem (h : m.Holds c content) {s : EntitySetHandle}
    (hs : s ∈ (m.container c).entitySets) : m.entitySet s ∈ content.sources := by
  rw [h.container] at hs
  refine List.mem_append_left _ ?_
  rw [← h.entitySets]
  exact List.mem_map_of_mem hs

theorem singleton_mem (h : m.Holds c content) {s : SingletonHandle}
    (hs : s ∈ (m.container c).singletons) : m.singleton s ∈ content.sources := by
  rw [h.container] at hs
  refine List.mem_append_right _ ?_
  rw [← h.singletons]
  exact List.mem_map_of_mem hs

end Model.Holds

namespace Document

variable {document : Document} {id : ModelId} {m : Model}

theorem holds (h : document.resolveElements id = .ok m) {c : ContainerHandle}
    {d : ContainerDeclaration} (hd : document.containers[c.index]? = some d) :
    ∃ content, m.Holds c content ∧
      content.Declared d (Scope.ofDocument document) m.operations c.index := by
  obtain ⟨entityTypes, operations, contents, -, -, -, hcontents, rfl⟩ := resolveElements_eq_ok h
  obtain ⟨content, hcontent, hresolve⟩ := resolveContainers_getElem? hcontents hd
  have hnumbered := ContainerDeclaration.resolve_numbered hresolve
  simp only [Nat.zero_add] at hresolve hnumbered
  -- its handles count on from the sets and singletons of the containers before it
  refine ⟨content, ⟨?_, ?_, ?_⟩, ContainerDeclaration.resolve_declared hresolve⟩
  · simp [Model.container, hcontent]
  · rw [hnumbered.entitySets]
    unfold Model.entitySet
    rw [flatMap_eq_append hcontent (·.entitySets)]
    exact map_handlesFrom _ _ _
  · rw [hnumbered.singletons]
    unfold Model.singleton
    rw [flatMap_eq_append hcontent (·.singletons)]
    exact map_handlesFrom _ _ _

theorem length_containers (h : document.resolveElements id = .ok m) :
    m.containers.length = document.containers.length := by
  obtain ⟨_, _, _, -, -, -, hcontents, rfl⟩ := resolveElements_eq_ok h
  rw [List.length_map, resolveContainers_length hcontents]

end Document

end ODataApi
