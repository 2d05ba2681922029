import ODataApi.Endpoint.Synthesis
import ODataApi.Proofs.Name
import ODataApi.Proofs.Path.Produced
import Mathlib.Data.List.Nodup

/-!
# The endpoints of a path

Whatever governs a path, its endpoints stand on that path (`Emits.path_eq`) and have
different methods (`endpoints_methods_nodup`), at most the first of them GET
(`get_mem_provided_append_iff`).  They are named after the path and its type,
or after the operation that is called (`Emits.operationId_cases`).  They answer with success
or with an error (`Emits.responses_eq`), and their bodies hold entities of the type of the
path, unless an operation is called (`Emits.payload_cases`, `mem_invoke_payloads`).
-/

namespace ODataApi

namespace PathContext

variable {m : Model} {c : PathContext} {e : Endpoint}

/-! ## One endpoint -/

theorem invoke_path (operation : Operation) (name : String) :
    (c.invoke operation name).path = c.path := by
  rw [invoke]
  cases operation.kind with
  | action => rfl
  | function => rfl

theorem update_path : c.update.path = c.path := by
  rw [update]
  cases c.restrictions.update.value.method with
  | patch => rfl
  | put => rfl

theorem getRef_path : c.getRef.path = c.path := by
  rw [getRef]
  split
  · rfl
  · rfl

theorem mem_provided {condition : Bool} {endpoint : Endpoint} :
    e ∈ provided condition endpoint ↔ condition = true ∧ e = endpoint := by
  rw [provided]
  cases condition with
  | false => simp
  | true => simp

/-! ## All endpoints -/

/-- What an endpoint of a path is. -/
inductive Emits (m : Model) (c : PathContext) : Endpoint → Prop
  | list : Emits m c c.list
  | create : Emits m c c.create
  | get (r : ReadRestrictionsBase) : Emits m c (c.get r)
  | update : Emits m c c.update
  | delete : Emits m c c.delete
  | listCast : Emits m c c.listCast
  | getCast : Emits m c c.getCast
  | getCount : Emits m c c.getCount
  | getRef : Emits m c c.getRef
  | createRef : Emits m c c.createRef
  | setRef : Emits m c c.setRef
  | deleteRef : Emits m c c.deleteRef
  | invoke {operation : Operation} {name : String} (h : c.operation? m = some (operation, name)) :
      Emits m c (c.invoke operation name)

theorem emits_of_mem_ofCollection (h : e ∈ c.ofCollection) : Emits m c e := by
  simp only [ofCollection, List.mem_append, mem_provided] at h
  rcases h with ⟨-, rfl⟩ | ⟨-, rfl⟩
  · exact .list
  · exact .create

theorem emits_of_mem_ofEntity (h : e ∈ c.ofEntity) : Emits m c e := by
  rw [ofEntity] at h
  split at h
  · cases h
  · simp only [List.mem_append, mem_provided] at h
    rcases h with (⟨-, rfl⟩ | ⟨-, rfl⟩) | ⟨-, rfl⟩
    · exact .get _
    · exact .update
    · exact .delete

theorem emits_of_mem_ofSingleton (h : e ∈ c.ofSingleton) : Emits m c e := by
  simp only [ofSingleton, List.mem_append, mem_provided] at h
  rcases h with ⟨-, rfl⟩ | ⟨-, rfl⟩
  · exact .get _
  · exact .update

theorem emits_of_mem_ofSingleNavigation (h : e ∈ c.ofSingleNavigation) : Emits m c e := by
  simp only [ofSingleNavigation, List.mem_append, mem_provided] at h
  rcases h with (⟨-, rfl⟩ | ⟨-, rfl⟩) | ⟨-, rfl⟩
  · exact .get _
  · exact .update
  · exact .delete

theorem emits_of_mem_ofCast (h : e ∈ c.ofCast) : Emits m c e := by
  obtain ⟨-, rfl⟩ := mem_provided.mp h
  split
  · exact .listCast
  · exact .getCast

theorem emits_of_mem_ofCount (h : e ∈ c.ofCount) : Emits m c e := by
  obtain ⟨-, rfl⟩ := mem_provided.mp h
  exact .getCount

theorem emits_of_mem_ofRef (h : e ∈ c.ofRef) : Emits m c e := by
  simp only [ofRef, List.mem_append, mem_provided] at h
  rcases h with ((⟨-, rfl⟩ | ⟨-, rfl⟩) | ⟨-, rfl⟩) | ⟨-, rfl⟩
  · exact .getRef
  · exact .createRef
  · exact .setRef
  · exact .deleteRef

theorem emits_of_mem_ofOperation (h : e ∈ c.ofOperation m) : Emits m c e := by
  rw [ofOperation] at h
  cases hoperation : c.operation? m with
  | none =>
      rw [hoperation] at h
      cases h
  | some called =>
      rw [hoperation] at h
      obtain rfl := List.mem_singleton.mp h
      exact .invoke hoperation

theorem emits_of_mem (h : e ∈ c.endpoints m) : Emits m c e := by
  rw [endpoints] at h
  cases hkind : c.path.kind with
  | entitySet =>
      rw [hkind] at h
      exact emits_of_mem_ofCollection h
  | navigationProperty =>
      simp only [hkind] at h
      split at h
      · exact emits_of_mem_ofCollection h
      · exact emits_of_mem_ofSingleNavigation h
  | entity =>
      rw [hkind] at h
      exact emits_of_mem_ofEntity h
  | singleton =>
      rw [hkind] at h
      exact emits_of_mem_ofSingleton h
  | typeCast =>
      rw [hkind] at h
      exact emits_of_mem_ofCast h
  | count =>
      rw [hkind] at h
      exact emits_of_mem_ofCount h
  | ref =>
      rw [hkind] at h
      exact emits_of_mem_ofRef h
  | operation =>
      rw [hkind] at h
      exact emits_of_mem_ofOperation h
  | operationImport =>
      rw [hkind] at h
      exact emits_of_mem_ofOperation h

theorem Emits.path_eq (h : Emits m c e) : e.path = c.path := by
  cases h with
  | update => exact update_path
  | getRef => exact getRef_path
  | invoke => exact invoke_path _ _
  | _ => rfl

/-! ## Methods -/

theorem provided_methods_sublist (condition : Bool) (endpoint : Endpoint) :
    ((provided condition endpoint).map (·.method)).Sublist [endpoint.method] := by
  cases condition with
  | false => exact List.nil_sublist _
  | true => exact List.Sublist.refl _

theorem getRef_method : c.getRef.method = .get := by
  rw [getRef]
  split
  · rfl
  · rfl

theorem update_method : c.update.method = .patch ∨ c.update.method = .put := by
  rw [update]
  cases c.restrictions.update.value.method with
  | patch => exact Or.inl rfl
  | put => exact Or.inr rfl

theorem ofCollection_methods : (c.ofCollection.map (·.method)).Sublist [.get, .post] := by
  rw [ofCollection, List.map_append]
  exact (provided_methods_sublist _ c.list).append (provided_methods_sublist _ c.create)

theorem ofEntity_methods :
    (c.ofEntity.map (·.method)).Sublist [.get, c.update.method, .delete] := by
  rw [ofEntity]
  split
  · exact List.nil_sublist _
  · rw [List.map_append, List.map_append]
    exact ((provided_methods_sublist _ (c.get _)).append
      (provided_methods_sublist _ c.update)).append (provided_methods_sublist _ c.delete)

theorem ofSingleton_methods :
    (c.ofSingleton.map (·.method)).Sublist [.get, c.update.method] := by
  rw [ofSingleton, List.map_append]
  exact (provided_methods_sublist _ (c.get _)).append (provided_methods_sublist _ c.update)

theorem ofSingleNavigation_methods :
    (c.ofSingleNavigation.map (·.method)).Sublist
      ([.get, c.update.method] ++ if c.path.containment then [.delete] else []) := by
  rw [ofSingleNavigation, List.map_append, List.map_append]
  refine ((provided_methods_sublist _ (c.get _)).append
    (provided_methods_sublist _ c.update)).append ?_
  cases c.path.containment with
  | false => exact List.nil_sublist _
  | true => exact provided_methods_sublist _ c.delete

theorem ofCast_methods : (c.ofCast.map (·.method)).Sublist [.get] := by
  rw [ofCast]
  split
  · exact provided_methods_sublist _ c.listCast
  · exact provided_methods_sublist _ c.getCast

theorem ofCount_methods : (c.ofCount.map (·.method)).Sublist [.get] :=
  provided_methods_sublist _ c.getCount

theorem ofRef_methods :
    (c.ofRef.map (·.method)).Sublist
      (if c.path.collection then [.get, .post, .delete] else [.get, .put, .delete]) := by
  have hget := provided_methods_sublist c.restrictions.read.value.isReadable c.getRef
  rw [getRef_method] at hget
  rw [ofRef, List.map_append, List.map_append, List.map_append]
  -- of the methods that put a reference in place the other one is never provided
  cases c.path.collection with
  | false =>
      exact ((hget.append (List.nil_sublist [])).append
        (provided_methods_sublist _ c.setRef)).append (provided_methods_sublist _ c.deleteRef)
  | true =>
      exact ((hget.append (provided_methods_sublist _ c.createRef)).append
        (List.nil_sublist [])).append (provided_methods_sublist _ c.deleteRef)

theorem ofOperation_methods_nodup : ((c.ofOperation m).map (·.method)).Nodup := by
  rw [ofOperation]
  cases c.operation? m with
  | none => exact List.nodup_nil
  | some called => exact List.nodup_singleton _

theorem update_methods_nodup : [Method.get, c.update.method, .delete].Nodup := by
  rcases update_method (c := c) with h | h <;> rw [h] <;> decide

/-- No two endpoints of a path have one method. -/
theorem endpoints_methods_nodup : ((c.endpoints m).map (·.method)).Nodup := by
  have hupdate := update_methods_nodup (c := c)
  rw [endpoints]
  cases c.path.kind with
  | entitySet => exact ofCollection_methods.nodup (by decide)
  | navigationProperty =>
      simp only
      split
      · exact ofCollection_methods.nodup (by decide)
      · refine ofSingleNavigation_methods.nodup (hupdate.sublist ?_)
        split
        · exact List.Sublist.refl _
        · exact List.sublist_append_left [_, _] [_]
  | entity => exact ofEntity_methods.nodup hupdate
  | singleton =>
      exact ofSingleton_methods.nodup (hupdate.sublist (List.sublist_append_left [_, _] [_]))
  | typeCast => exact ofCast_methods.nodup (by decide)
  | count => exact ofCount_methods.nodup (by decide)
  | ref =>
      refine ofRef_methods.nodup ?_
      split <;> decide
  | operation => exact ofOperation_methods_nodup
  | operationImport => exact ofOperation_methods_nodup

/-! ## Reading

Of the endpoints of a kind at most the first is a GET. -/

theorem get_mem_provided_append_iff {condition : Bool} {endpoint : Endpoint}
    {rest : List Endpoint} (hget : endpoint.method = .get)
    (hrest : ∀ e ∈ rest, e.method ≠ .get) :
    e ∈ provided condition endpoint ++ rest ∧ e.method = .get ↔
      condition = true ∧ e = endpoint := by
  rw [List.mem_append, mem_provided]
  constructor
  · rintro ⟨h | h, hmethod⟩
    · exact h
    · exact absurd hmethod (hrest e h)
  · rintro ⟨hcondition, rfl⟩
    exact ⟨Or.inl ⟨hcondition, rfl⟩, hget⟩

theorem update_method_ne_get : c.update.method ≠ .get := by
  rcases update_method (c := c) with h | h
  · rw [h]
    exact nofun
  · rw [h]
    exact nofun

theorem get_mem_ofCollection_iff :
    e ∈ c.ofCollection ∧ e.method = .get ↔
      c.restrictions.read.value.isReadable = true ∧ e = c.list := by
  refine get_mem_provided_append_iff rfl fun e he => ?_
  obtain ⟨-, rfl⟩ := mem_provided.mp he
  exact nofun

theorem get_mem_ofEntity_iff :
    e ∈ c.ofEntity ∧ e.method = .get ↔
      c.restrictions.indexable.value.isSupported = true ∧
        c.restrictions.read.value.isReadableByKey = true ∧
        e = c.get c.restrictions.read.value.byKey := by
  rw [ofEntity]
  cases c.restrictions.indexable.value.isSupported with
  | false => simp
  | true =>
      simp only [Bool.not_true, Bool.false_eq_true, if_false, true_and, List.append_assoc]
      refine get_mem_provided_append_iff rfl fun e he => ?_
      rcases List.mem_append.mp he with he | he
      · obtain ⟨-, rfl⟩ := mem_provided.mp he
        exact update_method_ne_get
      · obtain ⟨-, rfl⟩ := mem_provided.mp he
        exact nofun

theorem get_mem_ofSingleton_iff :
    e ∈ c.ofSingleton ∧ e.method = .get ↔
      c.restrictions.read.value.isReadable = true ∧
        e = c.get c.restrictions.read.value.base := by
  refine get_mem_provided_append_iff rfl fun e he => ?_
  obtain ⟨-, rfl⟩ := mem_provided.mp he
  exact update_method_ne_get

theorem get_mem_ofSingleNavigation_iff :
    e ∈ c.ofSingleNavigation ∧ e.method = .get ↔
      c.restrictions.read.value.isReadable = true ∧
        e = c.get c.restrictions.read.value.base := by
  simp only [ofSingleNavigation, List.append_assoc]
  refine get_mem_provided_append_iff rfl fun e he => ?_
  rcases List.mem_append.mp he with he | he
  · obtain ⟨-, rfl⟩ := mem_provided.mp he
    exact update_method_ne_get
  · obtain ⟨-, rfl⟩ := mem_provided.mp he
    exact nofun

theorem get_mem_ofCast_iff :
    e ∈ c.ofCast ∧ e.method = .get ↔
      c.restrictions.read.value.isReadable = true ∧
        e = if c.path.collection then c.listCast else c.getCast := by
  rw [ofCast, mem_provided, and_iff_left_iff_imp]
  rintro ⟨-, rfl⟩
  split
  · rfl
  · rfl

theorem get_mem_ofCount_iff :
    e ∈ c.ofCount ∧ e.method = .get ↔
      (c.restrictions.count.value.isCountable && !c.excludesCount) = true ∧ e = c.getCount := by
  rw [ofCount, mem_provided, and_iff_left_iff_imp]
  rintro ⟨-, rfl⟩
  rfl

theorem get_mem_ofRef_iff :
    e ∈ c.ofRef ∧ e.method = .get ↔
      c.restrictions.read.value.isReadable = true ∧ e = c.getRef := by
  simp only [ofRef, List.append_assoc]
  refine get_mem_provided_append_iff getRef_method fun e he => ?_
  simp only [List.mem_append, mem_provided] at he
  rcases he with ⟨-, rfl⟩ | ⟨-, rfl⟩ | ⟨-, rfl⟩
  · exact nofun
  · exact nofun
  · exact nofun

/-! ## Names -/

/-- The verbs in the names of endpoints. -/
def verbs : List String :=
  ["List", "Create", "Get", "Update", "Set", "Delete", "GetCount", "GetRef", "CreateRef", "SetRef",
    "DeleteRef"]

theorem getRef_operationId : c.getRef.operationId = c.tag ++ "." ++ "GetRef" ++ c.typeLabel := by
  rw [getRef]
  split
  · rfl
  · rfl

theorem update_operationId :
    ∃ verb ∈ verbs, c.update.operationId = c.tag ++ "." ++ verb ++ c.typeLabel := by
  rw [update]
  cases c.restrictions.update.value.method with
  | patch => exact ⟨"Update", by decide, rfl⟩
  | put => exact ⟨"Set", by decide, rfl⟩

theorem invoke_operationId (operation : Operation) (name : String) :
    (c.invoke operation name).operationId = operation.name ∨
      (c.invoke operation name).operationId = c.tag ++ "." ++ operation.name := by
  rw [invoke]
  exact ite_eq_or_eq _ _ _

/-- An endpoint is named after the path, a verb and the type, or after an operation. -/
theorem Emits.operationId_cases (h : Emits m c e) :
    (∃ verb ∈ verbs, e.operationId = c.tag ++ "." ++ verb ++ c.typeLabel) ∨
      ∃ operation name, c.operation? m = some (operation, name) ∧
        (e.operationId = operation.name ∨ e.operationId = c.tag ++ "." ++ operation.name) := by
  cases h with
  | list | listCast => exact Or.inl ⟨"List", by decide, rfl⟩
  | create => exact Or.inl ⟨"Create", by decide, rfl⟩
  | get | getCast => exact Or.inl ⟨"Get", by decide, rfl⟩
  | update => exact Or.inl update_operationId
  | delete => exact Or.inl ⟨"Delete", by decide, rfl⟩
  | getCount => exact Or.inl ⟨"GetCount", by decide, rfl⟩
  | getRef => exact Or.inl ⟨"GetRef", by decide, getRef_operationId⟩
  | createRef => exact Or.inl ⟨"CreateRef", by decide, rfl⟩
  | setRef => exact Or.inl ⟨"SetRef", by decide, rfl⟩
  | deleteRef => exact Or.inl ⟨"DeleteRef", by decide, rfl⟩
  | invoke h => exact Or.inr ⟨_, _, h, invoke_operationId _ _⟩

/-- What is called at the end of a path is an operation of the model. -/
theorem exists_of_operation? {operation : Operation} {name : String}
    (h : c.operation? m = some (operation, name)) : ∃ o, operation = m.operation o := by
  rw [operation?] at h
  split at h
  · cases h
    exact ⟨_, rfl⟩
  · cases h
    exact ⟨_, rfl⟩
  · cases h

end PathContext

/-! ## Responses and bodies -/

/-- The response says that all went well. -/
def Response.IsSuccess (r : Response) : Prop := ∃ status, r.status = .code status ∧ status < 300

theorem Response.IsSuccess.status_text_ne {r : Response} (h : r.IsSuccess) :
    r.status.text ≠ errorResponse.status.text := by
  obtain ⟨status, hstatus, -⟩ := h
  intro htext
  rw [hstatus, ResponseStatus.text] at htext
  have hletter : 'd' ∈ (toString status).toList := by
    rw [htext]
    decide
  exact absurd (isDigit_of_mem_toString hletter) (by decide)

namespace Endpoint

variable {e : Endpoint} {r : Response} {payload : Payload}

/-- What the bodies of an endpoint hold. -/
def payloads (e : Endpoint) : List Payload :=
  (e.requestBody.map (·.payload)).toList ++ e.responses.filterMap (·.payload)

theorem mem_payloads_of_responses (h : e.responses = [r, errorResponse]) :
    payload ∈ e.payloads ↔
      e.requestBody.map (·.payload) = some payload ∨ r.payload = some payload ∨
        payload = .error := by
  rw [payloads, h, List.mem_append, Option.mem_toList]
  cases hr : r.payload with
  | none => simp [hr, errorResponse]
  | some held => simp [hr, errorResponse, eq_comm]

end Endpoint

namespace PathContext

variable {m : Model} {c : PathContext} {e : Endpoint} {payload : Payload} {operation : Operation}
  {name : String}

/-- What a body holds where nothing is called. -/
inductive Carries (c : PathContext) : Payload → Prop
  | entity {type : String} (h : c.typeName = some type) : Carries c (.entity type)
  | entityCollection {type : String} (h : c.typeName = some type) :
      Carries c (.entityCollection type)
  | count : Carries c .count
  | reference : Carries c .reference
  | referenceCollection : Carries c .referenceCollection
  | error : Carries c .error

theorem carries_of_entityPayload (h : c.entityPayload = some payload) : c.Carries payload := by
  obtain ⟨type, htype, rfl⟩ := Option.map_eq_some_iff.mp h
  exact .entity htype

theorem carries_of_collectionPayload (h : c.collectionPayload = some payload) :
    c.Carries payload := by
  obtain ⟨type, htype, rfl⟩ := Option.map_eq_some_iff.mp h
  exact .entityCollection htype

theorem carries_of_entityBody {description : String}
    (h : (c.entityBody description).map (·.payload) = some payload) : c.Carries payload := by
  rw [entityBody, Option.map_map] at h
  obtain ⟨held, hheld, rfl⟩ := Option.map_eq_some_iff.mp h
  exact carries_of_entityPayload hheld

theorem getRef_responses :
    ∃ held, c.Carries held ∧
      c.getRef.responses = [okResponse 200 "Retrieved reference" (some held), errorResponse] := by
  rw [getRef]
  split
  · exact ⟨.referenceCollection, .referenceCollection, rfl⟩
  · exact ⟨.reference, .reference, rfl⟩

theorem getRef_requestBody : c.getRef.requestBody = none := by
  rw [getRef]
  split
  · rfl
  · rfl

theorem update_responses : c.update.responses = [noContentResponse, errorResponse] := by
  rw [update]
  cases c.restrictions.update.value.method with
  | patch => rfl
  | put => rfl

theorem invoke_responses :
    (c.invoke operation name).responses = [operationResponse operation, errorResponse] := by
  rw [invoke]
  cases operation.kind with
  | action => rfl
  | function => rfl

theorem operationResponse_isSuccess : (operationResponse operation).IsSuccess := by
  rw [operationResponse]
  cases operation.returnType with
  | none => exact ⟨204, rfl, by decide⟩
  | some result => exact ⟨200, rfl, by decide⟩

/-- An endpoint has one response for success and one for whatever goes wrong. -/
theorem Emits.responses_eq (h : Emits m c e) :
    ∃ r, e.responses = [r, errorResponse] ∧ r.IsSuccess := by
  cases h with
  | list | get | listCast | getCast | getCount => exact ⟨_, rfl, 200, rfl, by decide⟩
  | create => exact ⟨_, rfl, 201, rfl, by decide⟩
  | update => exact ⟨_, update_responses, 204, rfl, by decide⟩
  | delete | createRef | setRef | deleteRef => exact ⟨_, rfl, 204, rfl, by decide⟩
  | getRef =>
      obtain ⟨_, -, h⟩ := getRef_responses (c := c)
      exact ⟨_, h, 200, rfl, by decide⟩
  | invoke => exact ⟨_, invoke_responses, operationResponse_isSuccess⟩

theorem carries_of_mem_payloads {r : Response} (h : payload ∈ e.payloads)
    (hresponses : e.responses = [r, errorResponse])
    (hbody : ∀ held, e.requestBody.map (·.payload) = some held → c.Carries held)
    (hsuccess : ∀ held, r.payload = some held → c.Carries held) : c.Carries payload := by
  rcases (Endpoint.mem_payloads_of_responses hresponses).mp h with h | h | rfl
  · exact hbody payload h
  · exact hsuccess payload h
  · exact .error

theorem carries_of_none : ∀ held, (none : Option Payload) = some held → c.Carries held := by
  intro held h
  cases h

theorem carries_of_some {held : Payload} (h : c.Carries held) :
    ∀ held', some held = some held' → c.Carries held' := by
  intro held' heq
  cases heq
  exact h

theorem Emits.payload_cases (h : Emits m c e) (hpayload : payload ∈ e.payloads) :
    c.Carries payload ∨
      ∃ operation name, c.operation? m = some (operation, name) ∧ e = c.invoke operation name := by
  cases h with
  | invoke h => exact Or.inr ⟨_, _, h, rfl⟩
  | list | listCast =>
      exact Or.inl (carries_of_mem_payloads hpayload rfl carries_of_none
        fun _ => carries_of_collectionPayload)
  | get | getCast =>
      exact Or.inl (carries_of_mem_payloads hpayload rfl carries_of_none
        fun _ => carries_of_entityPayload)
  | create =>
      exact Or.inl (carries_of_mem_payloads hpayload rfl (fun _ => carries_of_entityBody)
        fun _ => carries_of_entityPayload)
  | update =>
      exact Or.inl (carries_of_mem_payloads hpayload update_responses
        (fun _ => carries_of_entityBody) carries_of_none)
  | delete | deleteRef =>
      exact Or.inl (carries_of_mem_payloads hpayload rfl carries_of_none carries_of_none)
  | getCount =>
      exact Or.inl (carries_of_mem_payloads hpayload rfl carries_of_none (carries_of_some .count))
  | createRef | setRef =>
      exact Or.inl (carries_of_mem_payloads hpayload rfl (carries_of_some .reference)
        carries_of_none)
  | getRef =>
      obtain ⟨held, hheld, hresponses⟩ := getRef_responses (c := c)
      refine Or.inl (carries_of_mem_payloads hpayload hresponses ?_ (carries_of_some hheld))
      rw [getRef_requestBody]
      exact carries_of_none

theorem operation?_map_fst (m : Model) (c : PathContext) :
    (c.operation? m).map (·.1) = c.path.called? m := by
  rw [operation?, ResourcePath.called?]
  cases c.path.segments.getLast? with
  | none => rfl
  | some segment => cases segment <;> rfl

theorem called?_of_operation? (h : c.operation? m = some (operation, name)) :
    c.path.called? m = some operation := by
  rw [← operation?_map_fst, h]
  rfl

theorem exists_operation?_of_called? (h : c.path.called? m = some operation) :
    ∃ name, c.operation? m = some (operation, name) := by
  rw [← operation?_map_fst] at h
  obtain ⟨⟨_, name⟩, hname, rfl⟩ := Option.map_eq_some_iff.mp h
  exact ⟨name, hname⟩

/-- What stands on a path that ends with a call is the call. -/
theorem exists_eq_invoke (hcalls : c.path.CallKnown m) (h : c.path.called? m = some operation)
    (he : e ∈ c.endpoints m) : ∃ name, e = c.invoke operation name := by
  obtain ⟨name, hname⟩ := exists_operation?_of_called? h
  have hof : e ∈ c.ofOperation m := by
    rw [endpoints] at he
    rcases hcalls.kind_of_called h with hkind | hkind
    · rw [hkind] at he
      exact he
    · rw [hkind] at he
      exact he
  rw [ofOperation, hname] at hof
  exact ⟨name, List.mem_singleton.mp hof⟩

/-- A call holds the result of the operation and, of an action, the parameters. -/
theorem mem_invoke_payloads :
    payload ∈ (c.invoke operation name).payloads ↔
      (operation.kind = .action ∧ operation.parameters ≠ [] ∧
          payload = .parameters operation.parameters) ∨
        (∃ result, operation.returnType = some result ∧
          payload = .value result.type result.collection) ∨
        payload = .error := by
  rw [Endpoint.mem_payloads_of_responses invoke_responses]
  refine or_congr ?_ (or_congr_left ?_)
  · rw [invoke]
    cases operation.kind with
    | function => simp [Endpoint.taking, endpoint]
    | action =>
        rw [actionBody.eq_def]
        cases operation.parameters with
        | nil => simp
        | cons first rest => simp [eq_comm]
  · rw [operationResponse]
    cases operation.returnType with
    | none => simp [noContentResponse]
    | some result => simp [okResponse, eq_comm]

end PathContext

end ODataApi
