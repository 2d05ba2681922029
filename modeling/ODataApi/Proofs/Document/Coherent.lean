import ODataApi.Proofs.Document.Containers

/-!
# Resolved documents are coherent models

Everything in the model of a document leads somewhere, and to the right place
(`Document.resolve_coherent`).  Sets, singletons and imports are taken from the containers
(`Document.holds`), the rest from the scope of the document; annotations are resolved last, and
what they stand on is looked up in the model itself (`Scope.targets_mem`).
-/

namespace ODataApi

/-! ## Operations -/

theorem OperationDeclaration.binding_lt {d : OperationDeclaration} {scope : Scope}
    {operation : Operation} (h : d.resolve scope = .ok operation) {b : BindingParameter}
    (hb : operation.binding = some b) : b.type.index < scope.typeNames.length := by
  simp only [OperationDeclaration.resolve, Except.bind_eq_ok, Except.pure_eq_ok] at h
  obtain ⟨⟨binding, parameters⟩, hparameters, rfl⟩ := h
  simp only at hb
  subst hb
  rw [OperationDeclaration.resolveParameters] at hparameters
  split at hparameters
  · split at hparameters
    · cases hparameters
    · simp only [Except.bind_eq_ok, Except.pure_eq_ok] at hparameters
      obtain ⟨type, htype, heq⟩ := hparameters
      cases heq
      exact Scope.typeOf_lt htype
  · cases hparameters

/-! ## Annotation targets -/

namespace Model

variable {m : Model}

theorem operation_mem {o : OperationHandle} (h : o ∈ m.operationHandles) :
    m.operation o ∈ m.operations := by
  rw [operationHandles, mem_handles] at h
  rw [operation, List.getElem?_eq_getElem h]
  exact List.getElem_mem h

theorem memberOf?_mem (hm : m.WellFormed) {c : ContainerHandle} (hc : c ∈ m.containerHandles)
    {name : String} {e : Element} (h : m.memberOf? c name = some e) : e ∈ m.elements := by
  simp only [memberOf?, Option.orElse_eq_orElse, Option.orElse_eq_or, Option.or_eq_some_iff] at h
  rcases h with hset | ⟨-, hsingleton | ⟨-, himport⟩⟩
  · obtain ⟨s, hs, rfl⟩ := Option.map_eq_some_iff.mp hset
    exact entitySet_mem_elements.mpr (hm.mem_entitySetHandles hc (List.mem_of_find?_eq_some hs))
  · obtain ⟨s, hs, rfl⟩ := Option.map_eq_some_iff.mp hsingleton
    exact singleton_mem_elements.mpr (hm.mem_singletonHandles hc (List.mem_of_find?_eq_some hs))
  · obtain ⟨i, hi, rfl⟩ := Option.map_eq_some_iff.mp himport
    exact operationImport_mem_elements.mpr ⟨c, hc, List.mem_of_find?_eq_some hi⟩

theorem declaredNavigation?_mem {t : EntityTypeHandle} {name : String} {e : Element}
    (h : m.declaredNavigation? t name = some e) : e ∈ m.elements := by
  obtain ⟨n, hn, rfl⟩ := Option.map_eq_some_iff.mp h
  have hmem := List.mem_of_find?_eq_some hn
  have ht := mem_entityTypeHandles_of_navigation (mem_declaredNavigation.mp hmem).2
  exact navigationProperty_mem_elements.mpr ⟨t, ht, hmem⟩

end Model

/-- Annotations stand on elements of the model. -/
theorem Scope.targets_mem {scope : Scope} {m : Model} (hm : m.WellFormed)
    (hlength : scope.typeNames.length = m.entityTypes.length) {target : String} {e : Element}
    (h : e ∈ scope.targets m target) : e ∈ m.elements := by
  have htype : ∀ {name t}, scope.type? name = some t → t ∈ m.entityTypeHandles := by
    intro name t ht
    exact Model.mem_handles.mpr (hlength ▸ Scope.type?_lt ht)
  rw [Scope.targets] at h
  split at h
  case h_1 head name _ =>
    split at h
    case h_1 c hc =>
      rw [Option.mem_toList] at h
      exact Model.memberOf?_mem hm (List.mem_of_find?_eq_some hc) h
    case h_2 =>
      split at h
      · rw [Option.mem_toList] at h
        exact Model.declaredNavigation?_mem h
      · exact absurd h List.not_mem_nil
  case h_2 =>
    split at h
    case h_1 t ht =>
      rw [List.mem_singleton.mp h]
      exact Model.entityType_mem_elements.mpr (htype ht)
    case h_2 =>
      split at h
      case h_1 c hc =>
        rw [List.mem_singleton.mp h]
        exact Model.container_mem_elements.mpr (List.mem_of_find?_eq_some hc)
      case h_2 =>
        obtain ⟨o, ho, rfl⟩ := List.mem_map.mp h
        exact Model.operation_mem_elements.mpr (List.mem_of_mem_filter ho)

/-! ## Documents -/

namespace Document

variable {document : Document} {id : ModelId} {m : Model}

theorem exists_holds (h : document.resolveElements id = .ok m) {c : ContainerHandle}
    (hc : c ∈ m.containerHandles) :
    ∃ d content, m.Holds c content ∧
      content.Declared d (Scope.ofDocument document) m.operations c.index := by
  have hlt : c.index < document.containers.length := by
    rw [← length_containers h]
    exact Model.mem_handles.mp hc
  obtain ⟨content, hholds, hdeclared⟩ := holds h (List.getElem?_eq_getElem hlt)
  exact ⟨_, content, hholds, hdeclared⟩

theorem length_entityTypes (h : document.resolveElements id = .ok m) :
    (Scope.ofDocument document).typeNames.length = m.entityTypes.length := by
  obtain ⟨_, _, _, htypes, -, -, -, rfl⟩ := resolveElements_eq_ok h
  exact length_typeNames htypes

theorem resolveElements_bindingParameter_mem (h : document.resolveElements id = .ok m)
    {operation : Operation} (ho : operation ∈ m.operations) {b : BindingParameter}
    (hb : operation.binding = some b) : b.type ∈ m.entityTypeHandles := by
  have hlength := length_entityTypes h
  obtain ⟨_, operations, _, -, -, hoperations, -, rfl⟩ := resolveElements_eq_ok h
  obtain ⟨d, -, hd⟩ := Except.exists_of_mem_mapM hoperations ho
  exact Model.mem_handles.mpr (hlength ▸ OperationDeclaration.binding_lt hd hb)

/-- Without annotations, all handles of the model of a document are linked. -/
theorem resolveElements_linked (h : document.resolveElements id = .ok m) : m.Linked := by
  constructor
  case toWellFormed => exact resolveElements_wellFormed h
  case bindingParameter_mem =>
    intro o ho b hb
    exact resolveElements_bindingParameter_mem h (Model.operation_mem ho) hb
  case entitySet_container =>
    intro c hc s hs
    obtain ⟨d, content, hholds, hdeclared⟩ := exists_holds h hc
    exact hdeclared.source_container _ (hholds.entitySet_mem hs)
  case singleton_container =>
    intro c hc s hs
    obtain ⟨d, content, hholds, hdeclared⟩ := exists_holds h hc
    exact hdeclared.source_container _ (hholds.singleton_mem hs)
  case entitySet_binding =>
    intro c hc s hs b hb
    obtain ⟨d, content, hholds, hdeclared⟩ := exists_holds h hc
    rw [hholds.container]
    exact hdeclared.binding_target _ (hholds.entitySet_mem hs) b hb
  case singleton_binding =>
    intro c hc s hs b hb
    obtain ⟨d, content, hholds, hdeclared⟩ := exists_holds h hc
    rw [hholds.container]
    exact hdeclared.binding_target _ (hholds.singleton_mem hs) b hb
  case import_operation =>
    intro c hc i hi
    obtain ⟨d, content, hholds, hdeclared⟩ := exists_holds h hc
    rw [hholds.container] at hi
    obtain ⟨operation, hoperation, hunbound⟩ := hdeclared.import_operation i hi
    obtain ⟨hlt, -⟩ := List.getElem?_eq_some_iff.mp hoperation
    refine ⟨Model.mem_handles.mpr hlt, ?_⟩
    rw [Model.operation, hoperation]
    exact hunbound
  case import_entitySet =>
    intro c hc i hi s hs
    obtain ⟨d, content, hholds, hdeclared⟩ := exists_holds h hc
    rw [hholds.container] at hi ⊢
    exact hdeclared.import_entitySet i hi s hs
  case annotation_mem =>
    intro a ha
    obtain ⟨_, _, _, -, -, -, -, rfl⟩ := resolveElements_eq_ok h
    exact absurd ha List.not_mem_nil

theorem resolve_linked (h : document.resolve id = .ok m) : m.Linked := by
  obtain ⟨annotations, helements, hannotations, heq⟩ := resolve_eq_ok h
  have hlinked := resolveElements_linked helements
  -- annotations come last and change nothing that handles lead to
  refine { hlinked with annotation_mem := ?_ }
  intro a ha
  rw [heq, List.mem_flatten] at ha
  obtain ⟨resolved, hresolved, ha⟩ := ha
  obtain ⟨d, -, hd⟩ := Except.exists_of_mem_mapM hannotations hresolved
  rw [AnnotationDeclaration.resolve] at hd
  split at hd
  case h_1 => cases hd
  case h_2 elements _ =>
    cases hd
    obtain ⟨e, he, rfl⟩ := List.mem_map.mp ha
    exact Scope.targets_mem hlinked.toWellFormed (length_entityTypes helements) he

/-- In the model of a document every handle leads to an element; sets and singletons are listed
once, by their container; bindings and imports stay within it; imports call unbound operations,
and the index of subtypes lists the types with each base. -/
theorem resolve_coherent (h : document.resolve id = .ok m) : m.Coherent :=
  (resolve_linked h).coherent

end Document

/-- Two containers, the second with a binding, an import and an annotated set of its own. -/
def branchesDocument : Document where
  ns := "A"
  entityTypes := [
    { name := "Place", key := ["Id"],
      navigationProperties := [{ name := "next", type := "Branch" }] },
    { name := "Branch", base := some "Place" },
    { name := "Depot", base := some "A.Place" }]
  operations := [
    { name := "close", kind := .action, bound := true,
      parameters := [⟨"it", "Branch", false, false⟩] },
    { name := "close", kind := .action }]
  containers := [
    { name := "Old", entitySets := [{ name := "places", type := "Place" }] },
    { name := "New", entitySets := [
        { name := "places", type := "Place", bindings := [("next", "main")] }],
      singletons := [{ name := "main", type := "Branch" }],
      imports := [{ name := "closeAll", operation := "close", entitySet := some "places" }] }]
  annotations := [⟨"New/places", "Org.OData.Capabilities.V1.TopSupported", .bool false⟩]

/-- The model of `branchesDocument`. -/
def branchesModel : Model := branchesDocument.loaded ⟨0⟩

/-- The second container keeps to its own set, and its import passes over the bound operation. -/
theorem branchesModel_coherent :
    branchesDocument.resolve ⟨0⟩ = .ok branchesModel ∧ branchesModel.Coherent ∧
      branchesModel.bindings (.entitySet ⟨1⟩) = [⟨"next", .singleton ⟨0⟩⟩] ∧
      (branchesModel.container ⟨1⟩).imports = [⟨"closeAll", ⟨1⟩, some ⟨1⟩⟩] ∧
      branchesModel.annotations.map (·.element) = [.entitySet ⟨1⟩] ∧
      branchesModel.subtypeIndex = [[⟨1⟩, ⟨2⟩], [], []] ∧
      branchesModel.subtypes ⟨0⟩ = [⟨1⟩, ⟨2⟩] := by
  have hload : branchesDocument.resolve ⟨0⟩ = .ok branchesModel := rfl
  refine ⟨hload, Document.resolve_coherent hload, ?_⟩
  decide +kernel

end ODataApi
