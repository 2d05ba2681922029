import ODataApi.Proofs.Conversion.Lookup
import ODataApi.Proofs.Path.Enumeration

/-!
# Well-formed endpoints

An endpoint is well formed for a path if it stands on the path, takes the parameters of the
template before any others and has one response for success, then one for whatever goes wrong
(`Endpoint.WellFormed`).  Builders only add parameters behind those that are there, and none of
them stands in the path (`PathContext.Emits.templateFirst`).

Annotations have no part in this, so the cache may hold what it will: the endpoints of one path
are well formed (`Model.synthesize_wellFormed`), and so are those of all paths, each synthesized
with the cache that the path before it left (`Model.synthesizeAll_wellFormed`).
-/

namespace ODataApi

/-! ## Parameters of the template -/

/-- The parameter gives a value to a parameter of the template. -/
structure EndpointParameter.Fills (p : EndpointParameter) (t : TemplateParameter) : Prop where
  name : p.name = t.name
  place : p.place = .path
  required : p.required = true
  type : p.type = .primitive t.type

/-- The parameters of the template of a path come first, in order, and no others stand in the
path. -/
def TemplateFirst (path : ResourcePath) (parameters : List EndpointParameter) : Prop :=
  ∃ filling others, parameters = filling ++ others ∧
    List.Forall₂ EndpointParameter.Fills filling path.parameters ∧ ∀ p ∈ others, p.place ≠ .path

theorem EndpointParameter.ofTemplate_fills (t : TemplateParameter) : (ofTemplate t).Fills t :=
  ⟨rfl, rfl, rfl, rfl⟩

namespace TemplateFirst

variable {path : ResourcePath} {parameters more : List EndpointParameter}

theorem template (path : ResourcePath) :
    TemplateFirst path (path.parameters.map .ofTemplate) := by
  refine ⟨_, [], (List.append_nil _).symm, ?_, List.forall_mem_nil _⟩
  rw [List.forall₂_map_left_iff]
  exact List.forall₂_same.mpr fun t _ => EndpointParameter.ofTemplate_fills t

theorem append (h : TemplateFirst path parameters) (hmore : ∀ p ∈ more, p.place ≠ .path) :
    TemplateFirst path (parameters ++ more) := by
  obtain ⟨filling, others, rfl, hfilling, hothers⟩ := h
  exact ⟨filling, others ++ more, List.append_assoc _ _ _, hfilling,
    List.forall_mem_append.mpr ⟨hothers, hmore⟩⟩

end TemplateFirst

/-! ## Other parameters -/

theorem place_of_mem_ite {condition : Prop} [Decidable condition] {option p : EndpointParameter}
    (h : p ∈ if condition then [option] else []) (hoption : option.place ≠ .path) :
    p.place ≠ .path := by
  split at h
  · rw [List.mem_singleton.mp h]
    exact hoption
  · cases h

namespace PathRestrictions

variable {r : PathRestrictions}

theorem itemOptions_place : ∀ p ∈ r.itemOptions, p.place ≠ .path := by
  intro p hp
  simp only [itemOptions, List.mem_append] at hp
  rcases hp with ((((hp | hp) | hp) | hp) | hp) | hp
  all_goals exact place_of_mem_ite hp nofun

theorem entityOptions_place : ∀ p ∈ r.entityOptions, p.place ≠ .path := by
  intro p hp
  rcases List.mem_append.mp hp with hp | hp
  all_goals exact place_of_mem_ite hp nofun

theorem collectionOptions_place : ∀ p ∈ r.collectionOptions, p.place ≠ .path := by
  rw [collectionOptions, List.append_assoc]
  exact List.forall_mem_append.mpr ⟨itemOptions_place, entityOptions_place⟩

theorem countOptions_place : ∀ p ∈ r.searchOption ++ r.filterOption, p.place ≠ .path := by
  intro p hp
  rcases List.mem_append.mp hp with hp | hp
  all_goals exact place_of_mem_ite hp nofun

theorem modificationOptions_place (options : Option ModificationQueryOptions) :
    ∀ p ∈ r.modificationOptions options, p.place ≠ .path := by
  intro p hp
  refine r.entityOptions_place p ?_
  cases options with
  | none => cases hp
  | some options =>
      rcases List.mem_append.mp hp with hp | hp
      · split at hp
        · exact List.mem_append_left _ hp
        · cases hp
      · split at hp
        · exact List.mem_append_right _ hp
        · cases hp

end PathRestrictions

theorem EndpointParameter.ofCustoms_place (headers options : Option (List CustomParameter)) :
    ∀ p ∈ ofCustoms headers options, p.place ≠ .path := by
  intro p hp
  rcases List.mem_append.mp hp with hp | hp
  all_goals
    obtain ⟨custom, -, rfl⟩ := List.mem_map.mp hp
    exact nofun

/-! ## Builder by builder -/

namespace PathContext

variable {m : Model} {c : PathContext} {e : Endpoint}

theorem update_templateFirst : TemplateFirst c.path c.update.parameters := by
  rw [update]
  cases c.restrictions.update.value.method with
  | patch | put =>
      exact ((TemplateFirst.template _).append
        (PathRestrictions.modificationOptions_place _)).append
        (EndpointParameter.ofCustoms_place _ _)

theorem getRef_templateFirst : TemplateFirst c.path c.getRef.parameters := by
  rw [getRef]
  split
  · exact (TemplateFirst.template _).append PathRestrictions.itemOptions_place
  · exact TemplateFirst.template _

theorem deleteRef_templateFirst : TemplateFirst c.path c.deleteRef.parameters := by
  refine (TemplateFirst.template _).append ?_
  split <;> decide

theorem invoke_templateFirst (operation : Operation) (name : String) :
    TemplateFirst c.path (c.invoke operation name).parameters := by
  rw [invoke]
  cases operation.kind with
  | action => exact TemplateFirst.template _
  | function =>
      refine (TemplateFirst.template _).append ?_
      rw [functionOptions]
      split
      · exact PathRestrictions.collectionOptions_place
      · exact List.forall_mem_nil _

theorem Emits.templateFirst (h : Emits m c e) : TemplateFirst c.path e.parameters := by
  have template := TemplateFirst.template c.path
  cases h with
  | list | listCast =>
      exact (template.append PathRestrictions.collectionOptions_place).append
        (EndpointParameter.ofCustoms_place _ _)
  | get | getCast =>
      exact (template.append PathRestrictions.entityOptions_place).append
        (EndpointParameter.ofCustoms_place _ _)
  | create =>
      exact (template.append (PathRestrictions.modificationOptions_place _)).append
        (EndpointParameter.ofCustoms_place _ _)
  | update => exact update_templateFirst
  | delete => exact (template.append (by decide)).append (EndpointParameter.ofCustoms_place _ _)
  | getCount =>
      exact (template.append PathRestrictions.countOptions_place).append
        (EndpointParameter.ofCustoms_place _ _)
  | getRef => exact getRef_templateFirst
  | createRef | setRef => exact template
  | deleteRef => exact deleteRef_templateFirst
  | invoke => exact invoke_templateFirst _ _

end PathContext

/-! ## Well-formed endpoints -/

/-- The response is for any status without a response of its own, and holds an error. -/
structure Response.IsError (r : Response) : Prop where
  status : r.status = .other
  payload : r.payload = some .error

/-- The endpoint is well formed for a path. -/
structure Endpoint.WellFormed (path : ResourcePath) (e : Endpoint) : Prop where
  /-- It stands on the path. -/
  path_eq : e.path = path
  /-- It takes the parameters of the template, then others. -/
  parameters : TemplateFirst path e.parameters
  /-- It has one response for success and then one for errors. -/
  responses : ∃ success failure, e.responses = [success, failure] ∧ success.IsSuccess ∧
    failure.IsError

theorem PathContext.Emits.wellFormed {m : Model} {c : PathContext} {e : Endpoint}
    (h : Emits m c e) : e.WellFormed c.path where
  path_eq := h.path_eq
  parameters := h.templateFirst
  responses := by
    obtain ⟨success, hresponses, hsuccess⟩ := h.responses_eq
    exact ⟨success, errorResponse, hresponses, hsuccess, rfl, rfl⟩

/-- The endpoints of a path are well formed for it and differ in their methods. -/
structure GroupWellFormed (path : ResourcePath) (endpoints : List Endpoint) : Prop where
  methods_nodup : (endpoints.map (·.method)).Nodup
  wellFormed : ∀ e ∈ endpoints, e.WellFormed path

theorem PathContext.endpoints_wellFormed (m : Model) (c : PathContext) :
    GroupWellFormed c.path (c.endpoints m) where
  methods_nodup := endpoints_methods_nodup
  wellFormed _ he := (emits_of_mem he).wellFormed

theorem GroupWellFormed.nil (path : ResourcePath) : GroupWellFormed path [] where
  methods_nodup := List.nodup_nil
  wellFormed := List.forall_mem_nil _

/-! ## With any cache -/

namespace Model

variable {m : Model} {settings : Settings}

theorem pathContext?_path {path : ResourcePath} {cache : AnnotationCache} {c : PathContext}
    (h : ((m.pathContext? path).run cache).1 = some c) : c.path = path := by
  rw [pathContext?] at h
  split at h
  · cases h
    rfl
  · rw [StateT.run_bind] at h
    cases hnavigation : (m.navigationContext? path (path.navigationPath m)).run cache with
    | mk navigation rest =>
        rw [hnavigation] at h
        cases navigation with
        | none => cases h
        | some navigation =>
            cases h
            rfl

/-- The endpoints of a path are well formed, whatever the cache holds. -/
theorem synthesize_wellFormed (m : Model) (path : ResourcePath) (cache : AnnotationCache) :
    GroupWellFormed path ((m.synthesize path).run cache).1 := by
  rw [synthesize, StateT.run_bind]
  cases hcontext : (m.pathContext? path).run cache with
  | mk context rest =>
      cases context with
      | none => exact GroupWellFormed.nil path
      | some c =>
          obtain rfl : c.path = path := pathContext?_path (by rw [hcontext])
          exact c.endpoints_wellFormed m

/-- So are those of all paths, each with the cache that the path before it left. -/
theorem synthesizeAll_wellFormed (m : Model) (paths : List ResourcePath)
    (cache : AnnotationCache) :
    ((m.synthesizeAll paths).run cache).1.map (·.1) = paths ∧
      ∀ group ∈ ((m.synthesizeAll paths).run cache).1, GroupWellFormed group.1 group.2 := by
  induction paths generalizing cache with
  | nil => exact ⟨rfl, List.forall_mem_nil _⟩
  | cons path rest ih =>
      obtain ⟨hpaths, hgroups⟩ := ih ((m.synthesize path).run cache).2
      refine ⟨congrArg (path :: ·) hpaths, ?_⟩
      exact List.forall_mem_cons.mpr ⟨m.synthesize_wellFormed path cache, hgroups⟩

end Model

/-- A conversion, with whatever cache it starts, gives each path well-formed endpoints of
different methods. -/
theorem convertWith_wellFormed (m : Model) (settings : Settings) (cache : AnnotationCache)
    (hdepth : 0 ≤ settings.maxNavigationDepth) :
    ∃ conversion rest, m.convertWith settings cache = .ok (conversion, rest) ∧
      m.paths settings = .ok (conversion.byPath.map (·.1)) ∧
      ∀ path endpoints, (path, endpoints) ∈ conversion.byPath →
        (endpoints.map (·.method)).Nodup ∧ ∀ e ∈ endpoints, e.WellFormed path := by
  have hpaths := m.paths_of_depth hdepth
  obtain ⟨hgroups, hall⟩ := m.synthesizeAll_wellFormed (m.allPaths settings) cache
  refine ⟨_, _, by rw [Model.convertWith, hpaths]; rfl, ?_, ?_⟩
  · rw [Conversion.byPath_eq_groups, hpaths]
    exact congrArg Except.ok hgroups.symm
  · intro path endpoints hmem
    rw [Conversion.byPath_eq_groups] at hmem
    obtain ⟨hmethods, hwellFormed⟩ := hall _ hmem
    exact ⟨hmethods, hwellFormed⟩

/-- A part of a node has the keys of both before any option, and two responses a method. -/
theorem cyclicModel_wellFormed :
    0 ≤ (⟨1, true, true, true⟩ : Settings).maxNavigationDepth ∧
      ∃ conversion rest,
        cyclicModel.convertWith ⟨1, true, true, true⟩ {} = .ok (conversion, rest) ∧
        ∃ path endpoints, (path, endpoints) ∈ conversion.byPath ∧
          path.template = "/nodes/\x7bId\x7d/parts/\x7bNode-Id\x7d" ∧
          (endpoints.map (·.method)).Nodup ∧ (∀ e ∈ endpoints, e.WellFormed path) ∧
          endpoints.map (fun e =>
              (e.method, e.parameters.map (·.name), e.responses.map (·.status.text)))
            = [(.get, ["Id", "Node-Id", "$select", "$expand"], ["200", "default"]),
              (.patch, ["Id", "Node-Id"], ["204", "default"]),
              (.delete, ["Id", "Node-Id", "If-Match"], ["204", "default"])] := by
  have hdepth : 0 ≤ (⟨1, true, true, true⟩ : Settings).maxNavigationDepth := by decide
  obtain ⟨conversion, rest, hconvertWith, -, hall⟩ :=
    convertWith_wellFormed cyclicModel ⟨1, true, true, true⟩ {} hdepth
  have hconvert : cyclicModel.convert ⟨1, true, true, true⟩ = .ok conversion := by
    rw [Model.convert, hconvertWith]
    rfl
  have hpart : ∃ path ∈ cyclicModel.allPaths ⟨1, true, true, true⟩,
      path.template = "/nodes/\x7bId\x7d/parts/\x7bNode-Id\x7d" ∧
        (cyclicModel.queryEndpoints path).value.map (fun e =>
            (e.method, e.parameters.map (·.name), e.responses.map (·.status.text)))
          = [(.get, ["Id", "Node-Id", "$select", "$expand"], ["200", "default"]),
            (.patch, ["Id", "Node-Id"], ["204", "default"]),
            (.delete, ["Id", "Node-Id", "If-Match"], ["204", "default"])] := by
    decide +kernel
  obtain ⟨path, hpath, htemplate, hendpoints⟩ := hpart
  have hmem := (Model.mem_byPath_iff_of_depth hdepth hconvert).mpr ⟨hpath, rfl⟩
  obtain ⟨hmethods, hwellFormed⟩ := hall path _ hmem
  exact ⟨hdepth, conversion, rest, hconvertWith, path, _, hmem, htemplate, hmethods, hwellFormed,
    hendpoints⟩

end ODataApi
