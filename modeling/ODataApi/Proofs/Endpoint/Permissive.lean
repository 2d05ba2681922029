import ODataApi.Proofs.Conversion.Lookup
import ODataApi.Proofs.Path.Enumeration

/-!
# Annotations only take methods away

The segments of a path tell which methods can be there (`ResourcePath.methodTable`).  Whatever
governs the path, its endpoints have some of these methods, in this order
(`Tabled.methods_sublist`).  Annotations decide which are left, and whether an update is PATCH or
PUT (`Model.updateRecord`).

A model that says nothing of capabilities (`Model.Silent`) leaves all of them
(`Unrestricted.methods_eq`), asks nothing of the clients (`Unrestricted.free_of_mem`) and has no
issues (`Silent.recordIssues_eq`).
-/

namespace ODataApi

/-! ## Methods by segment -/

/-- The HTTP method of updates. -/
def UpdateMethod.toMethod : UpdateMethod → Method
  | patch => .patch
  | put => .put

/-- The methods of a resource behind a navigation property. -/
def NavigationProperty.methods (property : NavigationProperty) (update : UpdateMethod) :
    List Method :=
  if property.collection then [.get, .post]
  else [.get, update.toMethod] ++ if property.containsTarget then [.delete] else []

/-- The methods of a reference behind a navigation property. -/
def NavigationProperty.refMethods (property : NavigationProperty) : List Method :=
  if property.collection then [.get, .post, .delete] else [.get, .put, .delete]

/-- The method an operation is called by. -/
def Operation.method (operation : Operation) : Method :=
  match operation.kind with
  | .function => .get
  | .action => .post

/-- The methods that can be on a path, by its last segment. -/
def ResourcePath.methodTable (m : Model) (path : ResourcePath) (update : UpdateMethod) :
    List Method :=
  match path.segments.getLast? with
  | some (.entitySet _) => [.get, .post]
  | some (.singleton _) => [.get, update.toMethod]
  | some (.key _ _) => [.get, update.toMethod, .delete]
  | some (.navigation n) => (m.navigation n).methods update
  | some (.typeCast _) | some .count => [.get]
  | some (.operation o) => [(m.operation o).method]
  | some (.operationImport i) => [(m.operation (m.operationImport i).operation).method]
  | some .ref =>
    match path.segments.dropLast.getLast? with
    | some (.navigation n) => (m.navigation n).refMethods
    | _ => []
  | none => []

namespace PathContext

variable {m : Model} {c : PathContext} {e : Endpoint}

theorem update_method_eq : c.update.method = c.restrictions.update.value.method.toMethod := by
  rw [update]
  cases c.restrictions.update.value.method with
  | patch => rfl
  | put => rfl

theorem invoke_method (operation : Operation) (name : String) :
    (c.invoke operation name).method = operation.method := by
  rw [invoke, Operation.method]
  cases operation.kind with
  | action => rfl
  | function => rfl

theorem ofOperation_eq {operation : Operation} (h : c.path.called? m = some operation) :
    ∃ name, c.ofOperation m = [c.invoke operation name] := by
  obtain ⟨name, hname⟩ := exists_operation?_of_called? h
  refine ⟨name, ?_⟩
  rw [ofOperation, hname]

/-- The endpoints of a path, with the methods that can be there for each method of updates. -/
inductive Tabled (c : PathContext) : List Endpoint → (UpdateMethod → List Method) → Prop
  | collection : Tabled c c.ofCollection fun _ => [.get, .post]
  | entity : Tabled c c.ofEntity fun update => [.get, update.toMethod, .delete]
  | singleton : Tabled c c.ofSingleton fun update => [.get, update.toMethod]
  | singleNavigation : Tabled c c.ofSingleNavigation fun update =>
      [.get, update.toMethod] ++ if c.path.containment then [.delete] else []
  | cast : Tabled c c.ofCast fun _ => [.get]
  | count : Tabled c c.ofCount fun _ => [.get]
  | ref : Tabled c c.ofRef fun _ =>
      if c.path.collection then [.get, .post, .delete] else [.get, .put, .delete]
  | call (operation : Operation) (name : String) :
      Tabled c [c.invoke operation name] fun _ => [operation.method]

theorem tabled_call {operation : Operation} (h : c.path.called? m = some operation) :
    Tabled c (c.ofOperation m) fun _ => [operation.method] := by
  obtain ⟨name, hname⟩ := ofOperation_eq h
  rw [hname]
  exact .call operation name

/-- The kind of a path and its last segment agree on what is there. -/
theorem tabled_endpoints (h : c.path.Ended m) :
    Tabled c (c.endpoints m) (c.path.methodTable m) := by
  unfold endpoints ResourcePath.methodTable
  cases h with
  | entitySet hlast hkind =>
      rw [hkind, hlast]
      exact .collection
  | singleton hlast hkind =>
      rw [hkind, hlast]
      exact .singleton
  | key hlast hkind =>
      rw [hkind, hlast]
      exact .entity
  | navigation hlast hkind hcollection hcontainment =>
      rw [hkind, hlast]
      simp only [NavigationProperty.methods, ← hcollection, ← hcontainment]
      split
      · exact .collection
      · exact .singleNavigation
  | typeCast hlast hkind =>
      rw [hkind, hlast]
      exact .cast
  | operation hlast hkind =>
      rw [hkind, hlast]
      refine tabled_call ?_
      rw [ResourcePath.called?, hlast]
  | operationImport hlast hkind =>
      rw [hkind, hlast]
      refine tabled_call ?_
      rw [ResourcePath.called?, hlast]
  | count hlast hkind =>
      rw [hkind, hlast]
      exact .count
  | ref hlast hbefore hkind hcollection =>
      rw [hkind, hlast, hbefore]
      simp only [NavigationProperty.refMethods, ← hcollection]
      exact .ref

theorem Tabled.methods_sublist {endpoints : List Endpoint} {table : UpdateMethod → List Method}
    (h : Tabled c endpoints table) :
    (endpoints.map (·.method)).Sublist (table c.restrictions.update.value.method) := by
  cases h with
  | collection => exact ofCollection_methods
  | entity =>
      have hmethods := ofEntity_methods (c := c)
      rwa [update_method_eq] at hmethods
  | singleton =>
      have hmethods := ofSingleton_methods (c := c)
      rwa [update_method_eq] at hmethods
  | singleNavigation =>
      have hmethods := ofSingleNavigation_methods (c := c)
      rwa [update_method_eq] at hmethods
  | cast => exact ofCast_methods
  | count => exact ofCount_methods
  | ref => exact ofRef_methods
  | call operation name =>
      rw [List.map_singleton, invoke_method]

end PathContext

/-! ## The method of updates -/

namespace Model

variable {m : Model} {path : ResourcePath}

/-- The entry of the root of a path for the navigation path. -/
def rootEntry? (m : Model) (path : ResourcePath) : Option NavigationPropertyRestriction :=
  if path.depth = 0 then none
  else (m.queryFor .navigationRestrictions path.root).value.value.entry? (path.navigationPath m)

/-- What governs updates on a path: what the entry of its root states, else what is looked up. -/
def updateRecord (m : Model) (path : ResourcePath) : UpdateRestrictions :=
  ((m.rootEntry? path).bind (·.updateRestrictions)).getD
    (m.queryPath .updateRestrictions path).value.value

theorem queryOr_value (term : Term) (replacement : Option term.Record) :
    (m.queryOr term path replacement).value.value
      = replacement.getD (m.queryPath term path).value.value := by
  cases replacement with
  | none => rfl
  | some record => rfl

theorem queryContext?_path {c : PathContext} (h : (m.queryContext? path).value = some c) :
    c.path = path := by
  rcases m.queryContext?_value_cases path with hnone | ⟨navigation, hsome⟩
  · rw [h] at hnone
    cases hnone
  · rw [h] at hsome
    cases hsome
    rfl

theorem queryContext?_update {c : PathContext} (h : (m.queryContext? path).value = some c) :
    c.restrictions.update.value = m.updateRecord path := by
  rw [updateRecord, rootEntry?]
  rw [queryContext?] at h
  split at h
  case isTrue hdepth =>
      cases h
      rw [if_pos hdepth]
      exact queryOr_value .updateRestrictions _
  case isFalse hdepth =>
      rw [if_neg hdepth]
      rw [Query.value_bind, queryNavigation?, Query.value_bind] at h
      split at h
      case h_1 => cases h
      case h_2 navigation hnavigation =>
          cases h
          split at hnavigation
          case isTrue =>
              cases hnavigation
              exact queryOr_value .updateRestrictions _
          case isFalse => cases hnavigation

/-- The endpoints of a path have methods of the table, in the order of the table. -/
theorem queryEndpoints_methods_sublist (h : path.Ended m) :
    ((m.queryEndpoints path).value.map (·.method)).Sublist
      (path.methodTable m (m.updateRecord path).method) := by
  rw [queryEndpoints_value]
  cases hcontext : (m.queryContext? path).value with
  | none => exact List.nil_sublist _
  | some c =>
      rw [← queryContext?_update hcontext]
      obtain rfl := queryContext?_path hcontext
      exact (PathContext.tabled_endpoints h).methods_sublist

end Model

/-! ## Endpoints that ask for nothing -/

namespace Endpoint

/-- Nothing limits what can be asked of the endpoint, or who can ask. -/
structure Free (e : Endpoint) : Prop where
  /-- No constraint on the whole. -/
  constraints : e.constraints = []
  /-- No scheme to be authorized by. -/
  security : e.security = []
  /-- No constraint on a parameter. -/
  parameters : ∀ p ∈ e.parameters, p.constraints = []

variable {e : Endpoint}

theorem Free.taking (h : e.Free) (parameters : List EndpointParameter)
    (hparameters : ∀ p ∈ parameters, p.constraints = []) : (e.taking parameters).Free where
  constraints := h.constraints
  security := h.security
  parameters p hp := (List.mem_append.mp hp).elim (h.parameters p) (hparameters p)

theorem Free.withCustom (h : e.Free) : (e.withCustom none none none).Free where
  constraints := h.constraints
  security := by
    rw [Endpoint.withCustom, securityOf]
    simpa [Endpoint.taking] using h.security
  parameters := (h.taking [] fun p hp => absurd hp List.not_mem_nil).parameters

theorem Free.underRead (h : e.Free) : (e.underRead {}).Free where
  constraints := h.withCustom.constraints
  security := h.withCustom.security
  parameters := h.withCustom.parameters

end Endpoint

/-- The records of an element that says nothing. -/
def PathRestrictions.unrestricted : PathRestrictions where
  read := ⟨{}, none⟩
  insert := ⟨{}, none⟩
  update := ⟨{}, none⟩
  delete := ⟨{}, none⟩
  count := ⟨{}, none⟩
  filter := ⟨{}, none⟩
  search := ⟨{}, none⟩
  sort := ⟨{}, none⟩
  select := ⟨{}, none⟩
  expand := ⟨{}, none⟩
  top := ⟨{}, none⟩
  skip := ⟨{}, none⟩
  indexable := ⟨{}, none⟩

namespace PathContext

variable {m : Model} {c : PathContext}

/-- Nothing is said of the path, and its root excludes it from nothing. -/
structure Unrestricted (c : PathContext) : Prop where
  /-- The records are the defaults. -/
  restrictions : c.restrictions = .unrestricted
  /-- So are the records of the root. -/
  root : c.root = none ∨ c.root = some ⟨{}, {}, {}, {}⟩

namespace Unrestricted

variable (h : c.Unrestricted)

include h

/-- What the defaults do not exclude is not excluded. -/
theorem root_any_eq_false {excludes : RootRestrictions → Bool}
    (hdefaults : excludes ⟨{}, {}, {}, {}⟩ = false) : c.root.any excludes = false := by
  rcases h.root with hroot | hroot
  · rw [hroot, Option.any_none]
  · rw [hroot, Option.any_some, hdefaults]

theorem excludesInsert : c.excludesInsert = false := h.root_any_eq_false rfl

theorem excludesUpdate : c.excludesUpdate = false := h.root_any_eq_false rfl

theorem excludesDelete : c.excludesDelete = false := h.root_any_eq_false rfl

theorem excludesCount : c.excludesCount = false := h.root_any_eq_false rfl

end Unrestricted

/-! ### Builder by builder -/

theorem templateParameters_free :
    ∀ p ∈ c.path.parameters.map EndpointParameter.ofTemplate, p.constraints = [] := by
  intro p hp
  obtain ⟨parameter, -, rfl⟩ := List.mem_map.mp hp
  rfl

theorem endpoint_free (method : Method) (verb summary : String) (response : Response) :
    (c.endpoint method verb summary response).Free where
  constraints := rfl
  security := rfl
  parameters := templateParameters_free

theorem collectionOptions_free :
    ∀ p ∈ PathRestrictions.unrestricted.collectionOptions, p.constraints = [] := by
  decide

theorem itemOptions_free :
    ∀ p ∈ PathRestrictions.unrestricted.itemOptions, p.constraints = [] := by
  decide

theorem entityOptions_free :
    ∀ p ∈ PathRestrictions.unrestricted.entityOptions, p.constraints = [] := by
  decide

namespace Unrestricted

variable (h : c.Unrestricted)

include h

theorem list_free : c.list.Free := by
  rw [list, h.restrictions]
  exact ((endpoint_free _ _ _ _).taking _ collectionOptions_free).underRead

theorem listCast_free : c.listCast.Free := by
  rw [listCast, h.restrictions]
  exact ((endpoint_free _ _ _ _).taking _ collectionOptions_free).underRead

theorem get_free : (c.get {}).Free := by
  rw [get, h.restrictions]
  exact ((endpoint_free _ _ _ _).taking _ entityOptions_free).underRead

theorem getCast_free : c.getCast.Free := by
  rw [getCast, h.restrictions]
  exact ((endpoint_free _ _ _ _).taking _ entityOptions_free).underRead

theorem getCount_free : c.getCount.Free := by
  rw [getCount, h.restrictions]
  exact ((endpoint_free _ _ _ _).taking _ (by decide)).underRead

theorem create_free : c.create.Free := by
  rw [create, h.restrictions]
  have hfree := ((c.endpoint_free .post "Create" ("Create " ++ c.typeLabel)
    (okResponse 201 "Created entity" c.entityPayload)).taking [] (by simp)).withCustom
  exact ⟨rfl, hfree.security, hfree.parameters⟩

theorem update_free : c.update.Free := by
  rw [update, h.restrictions]
  have hfree := ((c.endpoint_free .patch "Update" ("Update " ++ c.tag) noContentResponse).taking []
    (by simp)).withCustom
  exact ⟨rfl, hfree.security, hfree.parameters⟩

theorem delete_free : c.delete.Free := by
  rw [delete, h.restrictions]
  have hfree := ((c.endpoint_free .delete "Delete" ("Delete " ++ c.tag) noContentResponse).taking
    [ifMatch] (by decide)).withCustom
  exact ⟨rfl, hfree.security, hfree.parameters⟩

theorem getRef_free : c.getRef.Free := by
  rw [getRef, h.restrictions]
  split
  · exact (endpoint_free _ _ _ _).taking _ itemOptions_free
  · exact endpoint_free _ _ _ _

omit h in
theorem createRef_free : c.createRef.Free := ⟨rfl, rfl, templateParameters_free⟩

omit h in
theorem setRef_free : c.setRef.Free := ⟨rfl, rfl, templateParameters_free⟩

omit h in
theorem deleteRef_free : c.deleteRef.Free := by
  refine (endpoint_free _ _ _ _).taking _ ?_
  split <;> decide

theorem invoke_free (operation : Operation) (name : String) : (c.invoke operation name).Free := by
  have hoptions : ∀ p ∈ c.functionOptions operation, p.constraints = [] := by
    rw [functionOptions, h.restrictions]
    split
    · exact collectionOptions_free
    · simp
  rw [invoke]
  cases operation.kind with
  | function =>
      have hfree := (c.endpoint_free .get "" ("Invoke function " ++ name)
        (operationResponse operation)).taking _ hoptions
      exact ⟨hfree.constraints, hfree.security, hfree.parameters⟩
  | action =>
      have hfree := c.endpoint_free .post "" ("Invoke action " ++ name)
        (operationResponse operation)
      exact ⟨hfree.constraints, hfree.security, hfree.parameters⟩

/-! ### Kind by kind -/

theorem ofCollection_eq : c.ofCollection = [c.list, c.create] := by
  rw [ofCollection, h.restrictions, h.excludesInsert]
  rfl

theorem ofEntity_eq : c.ofEntity = [c.get {}, c.update, c.delete] := by
  rw [ofEntity, h.restrictions, h.excludesUpdate, h.excludesDelete]
  rfl

theorem ofSingleton_eq : c.ofSingleton = [c.get {}, c.update] := by
  rw [ofSingleton, h.restrictions]
  rfl

theorem ofSingleNavigation_eq :
    c.ofSingleNavigation
      = [c.get {}, c.update] ++ if c.path.containment then [c.delete] else [] := by
  rw [ofSingleNavigation, h.restrictions, h.excludesUpdate, h.excludesDelete]
  cases c.path.containment with
  | false => rfl
  | true => rfl

theorem ofCast_eq : c.ofCast = [if c.path.collection then c.listCast else c.getCast] := by
  rw [ofCast, h.restrictions]
  rfl

theorem ofCount_eq : c.ofCount = [c.getCount] := by
  rw [ofCount, h.restrictions, h.excludesCount]
  rfl

theorem ofRef_eq :
    c.ofRef = if c.path.collection then [c.getRef, c.createRef, c.deleteRef]
      else [c.getRef, c.setRef, c.deleteRef] := by
  rw [ofRef, h.restrictions, h.excludesInsert, h.excludesUpdate, h.excludesDelete]
  cases c.path.collection with
  | false => rfl
  | true => rfl

theorem update_method : c.update.method = .patch := by
  rw [update_method_eq, h.restrictions]
  rfl

omit h in
theorem cast_method : (if c.path.collection then c.listCast else c.getCast).method = .get := by
  split <;> rfl

theorem cast_free : (if c.path.collection then c.listCast else c.getCast).Free := by
  split
  · exact h.listCast_free
  · exact h.getCast_free

variable {endpoints : List Endpoint} {table : UpdateMethod → List Method}

/-- What is not restricted has every method of the table. -/
theorem methods_eq (htabled : Tabled c endpoints table) :
    endpoints.map (·.method) = table .patch := by
  cases htabled with
  | collection =>
      rw [h.ofCollection_eq]
      rfl
  | entity =>
      rw [h.ofEntity_eq, List.map_cons, List.map_cons, h.update_method]
      rfl
  | singleton =>
      rw [h.ofSingleton_eq, List.map_cons, List.map_cons, h.update_method]
      rfl
  | singleNavigation =>
      rw [h.ofSingleNavigation_eq, List.map_append, List.map_cons, List.map_cons, h.update_method]
      split <;> rfl
  | cast => rw [h.ofCast_eq, List.map_singleton, cast_method]
  | count =>
      rw [h.ofCount_eq]
      rfl
  | ref =>
      rw [h.ofRef_eq]
      split
      · rw [List.map_cons, getRef_method]
        rfl
      · rw [List.map_cons, getRef_method]
        rfl
  | call operation name => rw [List.map_singleton, invoke_method]

/-- What is not restricted asks nothing of the clients. -/
theorem free_of_mem (htabled : Tabled c endpoints table) : ∀ e ∈ endpoints, e.Free := by
  cases htabled with
  | collection =>
      rw [h.ofCollection_eq]
      simp [h.list_free, h.create_free]
  | entity =>
      rw [h.ofEntity_eq]
      simp [h.get_free, h.update_free, h.delete_free]
  | singleton =>
      rw [h.ofSingleton_eq]
      simp [h.get_free, h.update_free]
  | singleNavigation =>
      rw [h.ofSingleNavigation_eq]
      split <;> simp [h.get_free, h.update_free, h.delete_free]
  | cast =>
      rw [h.ofCast_eq]
      simp [h.cast_free]
  | count =>
      rw [h.ofCount_eq]
      simp [h.getCount_free]
  | ref =>
      rw [h.ofRef_eq]
      split <;> simp [h.getRef_free, createRef_free, setRef_free, deleteRef_free]
  | call operation name => simp [h.invoke_free]

end Unrestricted

end PathContext

/-! ## Models that say nothing -/

namespace Model

variable {m : Model} {path : ResourcePath}

/-- No annotation is of a term of the capabilities vocabulary. -/
def Silent (m : Model) : Prop := ∀ a ∈ m.annotations, ∀ term : Term, a.term ≠ term.qualifiedName

namespace Silent

variable (h : m.Silent)

include h

theorem annotation?_eq (element : Element) (term : Term) :
    m.annotation? element term.qualifiedName = none := by
  rw [annotation?, Option.map_eq_none_iff, List.find?_eq_none]
  intro a ha heq
  rw [Bool.and_eq_true, beq_iff_eq, beq_iff_eq] at heq
  exact h a ha term heq.2

theorem decode_eq (element : Element) (term : Term) :
    m.decode element term term.read = (none, []) := by
  rw [decode, h.annotation?_eq]

theorem record_eq (element : Element) (term : Term) : m.record element term = none := by
  rw [Model.record, h.decode_eq]

theorem recordIssues_eq (element : Element) (term : Term) : m.recordIssues element term = [] := by
  rw [recordIssues, h.decode_eq]

theorem queryFirst_value (term : Term) :
    ∀ elements : List Element, (m.queryFirst term elements).value = ⟨term.defaults, none⟩
  | [] => rfl
  | element :: rest => by
      rw [queryFirst, Query.value_bind]
      simp only [query, h.record_eq]
      exact queryFirst_value term rest

theorem queryRestrictions_value (path : ResourcePath) :
    (m.queryRestrictions path none).value = .unrestricted := by
  simp only [queryRestrictions, queryOr, queryPath, Query.value_bind, Query.value_pure,
    Option.bind_none, Option.map_none, h.queryFirst_value]
  rfl

theorem queryNavigation?_value (navigationPath : String) :
    (m.queryNavigation? path navigationPath).value = some ⟨none, ⟨{}, {}, {}, {}⟩⟩ := by
  have hallowed : NavigationRestrictions.allowsPath {} navigationPath path.depth = true := rfl
  rw [queryNavigation?, queryFor, Query.value_bind, h.queryFirst_value]
  simp only [Term.defaults, hallowed, if_true, queryFor, Query.value_bind, Query.value_pure,
    h.queryFirst_value]
  rfl

/-- Nothing restricts a path of a model that says nothing. -/
theorem exists_queryContext? (path : ResourcePath) :
    ∃ c, (m.queryContext? path).value = some c ∧ c.path = path ∧ c.Unrestricted := by
  have hrestrictions := h.queryRestrictions_value path
  rw [queryContext?]
  split
  · exact ⟨(m.queryContext path none).value, rfl, rfl, hrestrictions, .inl rfl⟩
  · rw [Query.value_bind, h.queryNavigation?_value]
    exact ⟨(m.queryContext path (some ⟨none, ⟨{}, {}, {}, {}⟩⟩)).value, rfl, rfl, hrestrictions,
      .inr rfl⟩

theorem queryEndpoints_methods_eq (hended : path.Ended m) :
    (m.queryEndpoints path).value.map (·.method) = path.methodTable m .patch ∧
      ∀ e ∈ (m.queryEndpoints path).value, e.Free := by
  obtain ⟨c, hcontext, rfl, hc⟩ := h.exists_queryContext? path
  rw [queryEndpoints_value, hcontext]
  have htabled := PathContext.tabled_endpoints hended
  exact ⟨hc.methods_eq htabled, hc.free_of_mem htabled⟩

theorem freshCache_issues (settings : Settings) : (m.freshCache settings).issues = [] := by
  rw [freshCache, AnnotationCache.touchAll_issues, List.flatMap_eq_nil_iff]
  exact fun key _ => h.recordIssues_eq key.1 key.2

end Silent

end Model

/-! ## Conversions -/

/-- The methods on each path of a conversion are in the table of the path, in its order.  If the
model says nothing of capabilities they are the whole table, they ask nothing of the clients, and
the conversion has no issues. -/
theorem convert_permissive (m : Model) (settings : Settings)
    (hdepth : 0 ≤ settings.maxNavigationDepth) :
    ∃ conversion, m.convert settings = .ok conversion ∧
      m.paths settings = .ok (conversion.byPath.map (·.1)) ∧
      (∀ path endpoints, (path, endpoints) ∈ conversion.byPath →
        (endpoints.map (·.method)).Sublist (path.methodTable m (m.updateRecord path).method)) ∧
      (m.Silent → conversion.issues = [] ∧
        ∀ path endpoints, (path, endpoints) ∈ conversion.byPath →
          endpoints.map (·.method) = path.methodTable m .patch ∧ ∀ e ∈ endpoints, e.Free) := by
  have hconvert := m.convert_of_depth hdepth
  refine ⟨_, hconvert, ?_, ?_, ?_⟩
  · rw [Conversion.byPath_eq_groups]
    exact Model.paths_of_convert hconvert
  · intro path endpoints hmem
    obtain ⟨hpath, rfl⟩ := (Model.mem_byPath_iff hconvert).mp hmem
    exact Model.queryEndpoints_methods_sublist
      (Model.ended_of_mem_paths (Model.paths_of_convert hconvert) path hpath)
  · refine fun hsilent => ⟨hsilent.freshCache_issues settings, fun path endpoints hmem => ?_⟩
    obtain ⟨hpath, rfl⟩ := (Model.mem_byPath_iff hconvert).mp hmem
    exact hsilent.queryEndpoints_methods_eq
      (Model.ended_of_mem_paths (Model.paths_of_convert hconvert) path hpath)

/-- The reference to the next node can be read, put and deleted, and a part that a node contains can
be read, changed and deleted: what the tables of their paths say. -/
theorem cyclicModel_permissive :
    0 ≤ (⟨1, true, true, true⟩ : Settings).maxNavigationDepth ∧ cyclicModel.Silent ∧
      ∃ conversion, cyclicModel.convert ⟨1, true, true, true⟩ = .ok conversion ∧
        conversion.issues = [] ∧
        (∃ path endpoints, (path, endpoints) ∈ conversion.byPath ∧
          path.template = "/top/next/$ref" ∧
          endpoints.map (·.method) = path.methodTable cyclicModel .patch ∧
          endpoints.map (·.method) = [.get, .put, .delete] ∧ ∀ e ∈ endpoints, e.Free) ∧
        ∃ path endpoints, (path, endpoints) ∈ conversion.byPath ∧
          path.template = "/nodes/\x7bId\x7d/parts/\x7bNode-Id\x7d" ∧
          endpoints.map (·.method) = path.methodTable cyclicModel .patch ∧
          endpoints.map (·.method) = [.get, .patch, .delete] ∧ ∀ e ∈ endpoints, e.Free := by
  have hdepth : 0 ≤ (⟨1, true, true, true⟩ : Settings).maxNavigationDepth := by decide
  have hsilent : cyclicModel.Silent := fun a ha => absurd ha List.not_mem_nil
  obtain ⟨conversion, hconvert, -, -, hall⟩ :=
    convert_permissive cyclicModel ⟨1, true, true, true⟩ hdepth
  obtain ⟨hissues, hgroups⟩ := hall hsilent
  have hgroup : ∀ template methods,
      (∃ path ∈ cyclicModel.allPaths ⟨1, true, true, true⟩,
        path.template = template ∧ path.methodTable cyclicModel .patch = methods) →
      ∃ path endpoints, (path, endpoints) ∈ conversion.byPath ∧ path.template = template ∧
        endpoints.map (·.method) = path.methodTable cyclicModel .patch ∧
        endpoints.map (·.method) = methods ∧ ∀ e ∈ endpoints, e.Free := by
    rintro _ _ ⟨path, hpath, rfl, rfl⟩
    have hmem := (Model.mem_byPath_iff_of_depth hdepth hconvert).mpr ⟨hpath, rfl⟩
    obtain ⟨hmethods, hfree⟩ := hgroups path _ hmem
    exact ⟨path, _, hmem, rfl, hmethods, hmethods, hfree⟩
  exact ⟨hdepth, hsilent, conversion, hconvert, hissues, hgroup _ _ (by decide +kernel),
    hgroup _ _ (by decide +kernel)⟩

end ODataApi
