import ODataApi.Proofs.Conversion
import ODataApi.Proofs.Document.ElementNames

/-!
# What type a call leads to

A name in a document refers to a type in one of two ways.  The types of navigation properties, sets
and binding parameters are looked up when the document is loaded, among the qualified forms of the
declared names (`Scope.type?`).  The return type of an operation stays a name in the model.  It is
looked up when a path calls the operation, among the qualified names of the types of the model.

* The name of a type in the model is that of the namespace of the document and its simple name,
  however it is declared (`findEntityType?_eq`).
* The two ways agree on a name if the first type with that name in the model is declared under it,
  and what is declared under it has that name in the model (`readsAsReference_iff`).
* They never agree on a name without a namespace that is declared
  (`not_readsAsReference_of_relative`).  They agree on the others where no type is declared with a
  foreign namespace (`readsAsReference_of_native`).
-/

namespace ODataApi

/-- What is found among positions is found at its position. -/
theorem find?_range_eq_findIdx? {α : Type} {items : List α} {p : α → Bool} {q : Nat → Bool}
    (h : ∀ i (hi : i < items.length), q i = p items[i]) :
    (List.range items.length).find? q = items.findIdx? p := by
  ext i
  rw [List.find?_range_eq_some, List.findIdx?_eq_some_iff_getElem]
  constructor
  · rintro ⟨hfound, hi, hfirst⟩
    have hi := List.mem_range.mp hi
    refine ⟨hi, h i hi ▸ hfound, fun j hj hfound' => ?_⟩
    rw [← h j (hj.trans hi)] at hfound'
    exact absurd (hfirst j hj) (by simp [hfound'])
  · rintro ⟨hi, hfound, hfirst⟩
    refine ⟨h i hi ▸ hfound, List.mem_range.mpr hi, fun j hj => ?_⟩
    rw [h j (hj.trans hi)]
    simpa using hfirst j hj

/-! ## Names in the document and in the model -/

namespace Document

/-- The qualified name of a type in the model. -/
def modelName (document : Document) (d : EntityTypeDeclaration) : String :=
  Name.join document.ns (Name.simple d.name)

/-- A name in a return type is read as a reference of that name would be. -/
structure ReadsAsReference (document : Document) (name : String) : Prop where
  /-- What is found first by its name in the model is declared under that name. -/
  found_declared : ∀ d,
    (document.entityTypes.find? fun d => document.modelName d == name) = some d →
      document.qualify d.name = document.qualify name
  /-- What is declared under the name has it in the model. -/
  declared_found : ∀ d ∈ document.entityTypes, document.qualify d.name = document.qualify name →
    document.modelName d = name

variable {document : Document} {id : ModelId} {m : Model} {name : String}

theorem findEntityType?_eq (h : document.resolveElements id = .ok m) (name : String) :
    m.findEntityType? name =
      (document.entityTypes.findIdx? fun d => document.modelName d == name).map Handle.mk := by
  have hlength : m.entityTypes.length = document.entityTypes.length := by
    rw [← length_entityTypes h]
    exact List.length_map _
  rw [Model.findEntityType?, Model.entityTypeHandles, Model.handles, List.find?_map, hlength]
  refine congrArg (Option.map Handle.mk) (find?_range_eq_findIdx? fun i hi => ?_)
  have hname := qualifiedName_entityType h (t := ⟨i⟩) (List.getElem?_eq_getElem hi)
  exact congrArg (· == name) hname

section

variable (hnodup : document.typeNames.Nodup)

include hnodup

theorem type?_eq_some_iff_declared {i : Nat} {d : EntityTypeDeclaration}
    (hd : document.entityTypes[i]? = some d) :
    (Scope.ofDocument document).type? name = some ⟨i⟩ ↔
      document.qualify d.name = document.qualify name := by
  have hname : document.typeNames[i]? = some (document.qualify d.name) := by
    rw [typeNames, List.getElem?_map, hd]
    rfl
  rw [Scope.type?_eq_some_iff hnodup]
  exact hname.congr_left.trans Option.some_inj

theorem readsAsReference_of_eq
    (h : (document.entityTypes.findIdx? fun d => document.modelName d == name).map Handle.mk
      = (Scope.ofDocument document).type? name) : document.ReadsAsReference name := by
  constructor
  · intro d hd
    rw [List.find?_eq_bind_findIdx?_getElem?, Option.bind_eq_some_iff] at hd
    obtain ⟨i, hi, hd⟩ := hd
    rw [hi] at h
    exact (type?_eq_some_iff_declared hnodup hd).mp h.symm
  · intro d hd hqualify
    obtain ⟨i, hi⟩ := List.mem_iff_getElem?.mp hd
    rw [(type?_eq_some_iff_declared hnodup hi).mpr hqualify, Option.map_eq_some_iff] at h
    obtain ⟨_, hfound, hindex⟩ := h
    cases hindex
    obtain ⟨hlt, hname, -⟩ := List.findIdx?_eq_some_iff_getElem.mp hfound
    rw [List.getElem?_eq_getElem hlt] at hi
    cases hi
    exact beq_iff_eq.mp hname

/-- A name is read as a reference exactly if both ways lead to the same type or to none. -/
theorem readsAsReference_iff :
    (document.entityTypes.findIdx? fun d => document.modelName d == name).map Handle.mk
        = (Scope.ofDocument document).type? name ↔ document.ReadsAsReference name := by
  refine ⟨readsAsReference_of_eq hnodup, fun h => ?_⟩
  cases hfound : document.entityTypes.findIdx? fun d => document.modelName d == name with
  | none =>
      cases htype : (Scope.ofDocument document).type? name with
      | none => rfl
      | some t =>
          -- the declaration that the reference leads to would have been found
          have hlt : t.index < document.entityTypes.length :=
            (Scope.type?_lt htype).trans_eq (List.length_map _)
          have hd := List.getElem?_eq_getElem hlt
          have hname := h.declared_found _ (List.getElem_mem hlt)
            ((type?_eq_some_iff_declared hnodup hd).mp htype)
          have hother := List.findIdx?_eq_none_iff.mp hfound _ (List.getElem_mem hlt)
          exact absurd hname (beq_eq_false_iff_ne.mp hother)
  | some i =>
      obtain ⟨hlt, -, -⟩ := List.findIdx?_eq_some_iff_getElem.mp hfound
      have hd := List.getElem?_eq_getElem hlt
      have hfirst : document.entityTypes.find? (fun d => document.modelName d == name)
          = some document.entityTypes[i] := by
        rw [List.find?_eq_bind_findIdx?_getElem?, hfound, Option.bind_some, hd]
      exact ((type?_eq_some_iff_declared hnodup hd).mpr (h.found_declared _ hfirst)).symm

end

theorem not_readsAsReference_of_relative (hname : Name.isQualified name = false)
    (hdeclared : document.DeclaresType name) : ¬ document.ReadsAsReference name := by
  intro h
  obtain ⟨d, hd, hqualify⟩ := hdeclared
  rw [← h.declared_found d hd hqualify, modelName, Name.isQualified_join] at hname
  cases hname

theorem readsAsReference_of_native (hname : Name.isQualified name = true)
    (hnative : ∀ d ∈ document.entityTypes, document.qualify d.name = document.modelName d) :
    document.ReadsAsReference name := by
  have hqualify : document.qualify name = name := if_pos hname
  constructor
  · intro d hd
    rw [hnative d (List.mem_of_find?_eq_some hd), hqualify]
    exact beq_iff_eq.mp (List.find?_some (p := fun d => document.modelName d == name) hd)
  · intro d hd hdeclared
    rw [← hnative d hd, hdeclared, hqualify]

/-! ## Operations -/

theorem resolve_operation {o : OperationHandle} {d : OperationDeclaration}
    (h : document.resolveElements id = .ok m) (hd : document.operations[o.index]? = some d) :
    d.resolve (Scope.ofDocument document) = .ok (m.operation o) := by
  obtain ⟨_, _, _, -, -, hoperations, -, rfl⟩ := resolveElements_eq_ok h
  obtain ⟨operation, hoperation, hresolve⟩ := Except.getElem?_of_mapM_eq_ok hoperations hd
  rw [Model.operation, hoperation]
  exact hresolve

end Document

theorem OperationDeclaration.resolve_returnType {d : OperationDeclaration} {scope : Scope}
    {operation : Operation} (h : d.resolve scope = .ok operation) :
    operation.returnType = d.returnType := by
  simp only [OperationDeclaration.resolve, Except.bind_eq_ok, Except.pure_eq_ok] at h
  obtain ⟨_, -, rfl⟩ := h
  rfl

/-! ## Calls -/

namespace ResourcePath

variable {m : Model} {path : ResourcePath} {o : OperationHandle}

/-- A path ends with a call of an operation, which is bound or imported without a set. -/
inductive Calls (m : Model) (path : ResourcePath) : OperationHandle → Prop
  | bound {o : OperationHandle} (hlast : path.segments.getLast? = some (.operation o)) :
      Calls m path o
  | imported {i : ImportHandle} (hlast : path.segments.getLast? = some (.operationImport i))
      (hset : (m.operationImport i).entitySet = none) :
      Calls m path (m.operationImport i).operation

theorem CallKnown.entityType_of_calls (h : path.CallKnown m) (hcalls : path.Calls m o) :
    path.entityType = returnedType? m (m.operation o) := by
  cases hcalls with
  | bound hlast => exact (h.operation o hlast).2
  | imported hlast hset =>
      rw [(h.operationImport _ hlast).2, Model.elementType?, hset]
      rfl

end ResourcePath

/-- A path that ends with a call has the type that is first of those with the name of the return
type in the model, if there is one.  That is the type which the name refers to in the document, or
none if it refers to none, exactly if the name is read as a reference. -/
theorem called_type_referred_iff (document : Document) (id : ModelId) (m : Model)
    (settings : Settings) (hload : document.resolve id = .ok m)
    (hdepth : 0 ≤ settings.maxNavigationDepth) :
    ∃ paths, m.paths settings = .ok paths ∧ ∀ path ∈ paths, ∀ o d result,
      path.Calls m o → document.operations[o.index]? = some d → d.returnType = some result →
        path.entityType = (document.entityTypes.findIdx? fun t =>
          document.modelName t == result.type).map Handle.mk ∧
        (path.entityType = (Scope.ofDocument document).type? result.type ↔
          document.ReadsAsReference result.type) := by
  have hpaths := m.paths_of_depth hdepth
  refine ⟨_, hpaths, fun path hpath o d result hcalls hd hresult => ?_⟩
  obtain ⟨_, helements, -, -⟩ := Document.resolve_eq_ok hload
  obtain ⟨hnodup, -⟩ := Document.resolveElements_isOk_iff.mp (Except.isOk_iff.mpr ⟨_, helements⟩)
  have hoperation := Document.resolve_operation helements hd
  have hreturn : (m.operation o).returnType = some result :=
    (OperationDeclaration.resolve_returnType hoperation).trans hresult
  have htype : path.entityType = (document.entityTypes.findIdx? fun t =>
      document.modelName t == result.type).map Handle.mk := by
    rw [(Model.callKnown_of_mem_paths hpaths path hpath).entityType_of_calls hcalls,
      ResourcePath.returnedType?, hreturn]
    exact Document.findEntityType?_eq helements result.type
  refine ⟨htype, ?_⟩
  rw [htype]
  exact Document.readsAsReference_iff hnodup

/-- Two functions that return the same type under two spellings of its name. -/
def spelledDocument : Document where
  ns := "A"
  entityTypes := [{ name := "T" }]
  operations := [
    { name := "F", kind := .function, returnType := some ⟨"T", false⟩ },
    { name := "G", kind := .function, returnType := some ⟨"A.T", false⟩ }]
  containers := [
    { name := "C",
      imports := [{ name := "f", operation := "F" }, { name := "g", operation := "G" }] }]

/-- The model of `spelledDocument`. -/
def spelledModel : Model := spelledDocument.loaded ⟨0⟩

/-- Both names refer to the type, but only one of the paths has it. -/
theorem spelledModel_called_type :
    spelledDocument.resolve ⟨0⟩ = .ok spelledModel ∧
      0 ≤ (⟨1, true, true, true⟩ : Settings).maxNavigationDepth ∧
      (Scope.ofDocument spelledDocument).type? "T" = some ⟨0⟩ ∧
      (Scope.ofDocument spelledDocument).type? "A.T" = some ⟨0⟩ ∧
      ∃ paths, spelledModel.paths ⟨1, true, true, true⟩ = .ok paths ∧
        ∃ path ∈ paths, ∃ path' ∈ paths, path.template = "/f()" ∧ path'.template = "/g()" ∧
          path.entityType = none ∧ path'.entityType = some ⟨0⟩ ∧
          ¬ spelledDocument.ReadsAsReference "T" ∧ spelledDocument.ReadsAsReference "A.T" := by
  have hdepth : 0 ≤ (⟨1, true, true, true⟩ : Settings).maxNavigationDepth := by decide
  have hcalls : ∃ path ∈ spelledModel.allPaths ⟨1, true, true, true⟩,
      ∃ path' ∈ spelledModel.allPaths ⟨1, true, true, true⟩,
        path.template = "/f()" ∧ path'.template = "/g()" ∧
        path.segments.getLast? = some (.operationImport ⟨⟨0⟩, 0⟩) ∧
        path'.segments.getLast? = some (.operationImport ⟨⟨0⟩, 1⟩) := by decide +kernel
  obtain ⟨paths, hpaths, hall⟩ :=
    called_type_referred_iff spelledDocument ⟨0⟩ spelledModel _ rfl hdepth
  obtain rfl := Except.ok.inj ((spelledModel.paths_of_depth hdepth).symm.trans hpaths)
  obtain ⟨path, hpath, path', hpath', htemplate, htemplate', hlast, hlast'⟩ := hcalls
  obtain ⟨hnone, hrelative⟩ := hall path hpath _ _ _ (.imported hlast rfl) rfl rfl
  obtain ⟨hsome, hqualified⟩ := hall path' hpath' _ _ _ (.imported hlast' rfl) rfl rfl
  refine ⟨rfl, hdepth, rfl, rfl, _, hpaths, path, hpath, path', hpath', htemplate, htemplate',
    hnone, hsome, ?_, hqualified.mp hsome⟩
  rw [← hrelative, hnone]
  exact nofun

end ODataApi
