import ODataApi.Proofs.Document.Resolve
import ODataApi.Proofs.Restriction.Cache
import Mathlib.Data.List.DropRight

/-!
# A cache over a series of requests

A cache is asked what an element of a model says of a term, or to forget everything.
Whatever it has been asked before, and of whichever models, its answer is what reading the
annotation gives (`serveAll_answers`).

`Model.resolveM` is a look-up whose reader has effects of its own; with a reader that has
none it is `Model.resolve`.  So a reader can note that it runs (`readings`).  Counted from
the last time the cache was cleared or turned to another model, every annotation that was
looked up has been read once, in the order of the first look-ups, and the issues of the cache
are those of these readings (`readings_since_bound`).
-/

namespace ODataApi

/-- A record of some term. -/
abbrev AnyRecord := (term : Term) × term.Record

/-- What a cache is asked for. -/
inductive CacheRequest
  /-- What an element of a model says of a term. -/
  | resolve (m : Model) (element : Element) (term : Term)
  /-- To forget everything. -/
  | clear

namespace CacheRequest

/-- The model that is looked up in. -/
def model? : CacheRequest → Option Model
  | resolve m _ _ => some m
  | clear => none

/-- What is looked up. -/
def key? : CacheRequest → Option AnnotationKey
  | resolve _ element term => some (element, term)
  | clear => none

/-- Serve a request. -/
def serve : CacheRequest → StateM AnnotationCache (Option AnyRecord)
  | resolve m element term => do
    let record ← m.resolve element term
    pure (record.map (⟨term, ·⟩))
  | clear => do
    modify AnnotationCache.clear
    pure none

/-- Serve requests, one after the other. -/
def serveAll (requests : List CacheRequest) : StateM AnnotationCache (List (Option AnyRecord)) :=
  requests.mapM serve

/-- The cache that was empty before some requests. -/
def cacheAfter (requests : List CacheRequest) : AnnotationCache := ((serveAll requests).run {}).2

/-- What reading the annotation gives. -/
def direct : CacheRequest → Option AnyRecord
  | resolve m element term => do
    let value ← m.annotation? element term.qualifiedName
    let record ← (term.read value).value
    pure ⟨term, record⟩
  | clear => none

/-! ## Answers -/

/-- What a request does to a cache. -/
def after (cache : AnnotationCache) : CacheRequest → AnnotationCache
  | resolve m element term => cache.touch m (element, term)
  | clear => cache.clear

/-- What some requests do to a cache. -/
def afterAll (cache : AnnotationCache) (requests : List CacheRequest) : AnnotationCache :=
  requests.foldl after cache

variable {cache : AnnotationCache} {models : List Model} {requests : List CacheRequest}

theorem direct_resolve (m : Model) (element : Element) (term : Term) :
    (resolve m element term).direct = (m.record element term).map (⟨term, ·⟩) := by
  rw [direct, Model.record, Model.decode]
  cases m.annotation? element term.qualifiedName with
  | none => rfl
  | some value =>
      simp only [Option.bind_eq_bind, Option.bind_some]
      cases (term.read value).value with
      | none => rfl
      | some record => rfl

theorem serve_run (request : CacheRequest)
    (h : ∀ m, request.model? = some m → cache.Agrees m) :
    request.serve.run cache = (request.direct, after cache request) := by
  cases request with
  | resolve m element term =>
      have hrun := Model.resolve_run (h m rfl) element term
      rw [direct_resolve, serve, StateT.run_bind, hrun]
      rfl
  | clear => rfl

/-- A request leaves a cache that agrees with every model it agreed with. -/
theorem after_agrees (hids : Distinct models) (h : ∀ m ∈ models, cache.Agrees m)
    (request : CacheRequest) (hrequest : ∀ m, request.model? = some m → m ∈ models) :
    ∀ m ∈ models, (after cache request).Agrees m := by
  intro m hm
  cases request with
  | resolve served element term =>
      by_cases hid : served.id = m.id
      · have hsame : served = m := hids served (hrequest served rfl) m hm hid
        rw [hsame]
        exact (h m hm).touch
      · apply AnnotationCache.agrees_of_other
        rw [after, AnnotationCache.touch_model]
        simpa using hid
  | clear => exact AnnotationCache.agrees_empty m

theorem serveAll_cons (request : CacheRequest) (rest : List CacheRequest) :
    serveAll (request :: rest) = (do
      let answer ← request.serve
      let answers ← serveAll rest
      pure (answer :: answers)) :=
  List.mapM_cons

theorem serveAll_run (hids : Distinct models) (h : ∀ m ∈ models, cache.Agrees m)
    (hrequests : ∀ request ∈ requests, ∀ m, request.model? = some m → m ∈ models) :
    (serveAll requests).run cache = (requests.map direct, afterAll cache requests) := by
  induction requests generalizing cache with
  | nil => rfl
  | cons request rest ih =>
      have hmodel := hrequests request List.mem_cons_self
      have hserve := serve_run request fun m hm => h m (hmodel m hm)
      have hrest := ih (after_agrees hids h request hmodel)
        fun other hother => hrequests other (List.mem_cons_of_mem _ hother)
      rw [serveAll_cons, StateT.run_bind, hserve]
      show (serveAll rest >>= _).run (after cache request) = _
      rw [StateT.run_bind, hrest]
      rfl

theorem serveAll_run_empty (hids : Distinct (requests.filterMap model?)) :
    (serveAll requests).run {} = (requests.map direct, afterAll {} requests) := by
  refine serveAll_run hids (fun m _ => AnnotationCache.agrees_empty m) ?_
  intro request hrequest m hm
  exact List.mem_filterMap.mpr ⟨request, hrequest, hm⟩

/-- Whatever has been asked of a cache before, it answers what reading the annotation gives. -/
theorem serveAll_answers (requests : List CacheRequest)
    (hids : Distinct (requests.filterMap model?)) :
    ((serveAll requests).run {}).1 = requests.map direct := by
  rw [serveAll_run_empty hids]

/-- A set with an annotation of which a part cannot be read. -/
def partlyReadDocument : Document where
  ns := "A"
  entityTypes := [{ name := "T" }]
  containers := [{ name := "C", entitySets := [{ name := "S", type := "T" }] }]
  annotations := [⟨"A.C/S", "Org.OData.Capabilities.V1.TopSupported", .bool false⟩,
    ⟨"A.C/S", "Org.OData.Capabilities.V1.ReadRestrictions",
      .record none [("Description", .int 1), ("Readable", .bool false)]⟩]

/-- A set with an annotation that cannot be read. -/
def notReadDocument : Document where
  ns := "A"
  entityTypes := [{ name := "T" }]
  containers := [{ name := "C", entitySets := [{ name := "S", type := "T" }] }]
  annotations := [⟨"A.C/S", "Org.OData.Capabilities.V1.ReadRestrictions", .string "no"⟩]

/-- The model of `partlyReadDocument`. -/
def partlyReadModel : Model := partlyReadDocument.loaded ⟨0⟩

/-- The model of `notReadDocument`. -/
def notReadModel : Model := notReadDocument.loaded ⟨1⟩

/-- Look-ups that go from one model to another and back, and over a clearing. -/
def backAndForth : List CacheRequest :=
  let set : Element := .entitySet ⟨0⟩
  [.resolve partlyReadModel set .readRestrictions, .resolve notReadModel set .readRestrictions,
    .resolve partlyReadModel set .readRestrictions, .clear,
    .resolve partlyReadModel set .readRestrictions, .resolve partlyReadModel set .topSupported,
    .resolve partlyReadModel set .skipSupported, .resolve partlyReadModel set .readRestrictions]

theorem backAndForth_distinct : Distinct (backAndForth.filterMap model?) := by
  intro a ha b hb h
  have hcases : ∀ c ∈ backAndForth.filterMap model?, c = partlyReadModel ∨ c = notReadModel := by
    intro c hc
    have hmodels : backAndForth.filterMap model?
        = [partlyReadModel, notReadModel, partlyReadModel, partlyReadModel, partlyReadModel,
          partlyReadModel, partlyReadModel] := rfl
    simp only [hmodels, List.mem_cons, List.not_mem_nil, or_false] at hc
    rcases hc with h | h | h | h | h | h | h
    · exact Or.inl h
    · exact Or.inr h
    all_goals exact Or.inl h
  rcases hcases a ha with rfl | rfl <;> rcases hcases b hb with rfl | rfl
  · rfl
  · cases h
  · cases h
  · rfl

theorem backAndForth_answers :
    Distinct (backAndForth.filterMap model?) ∧
      ((serveAll backAndForth).run {}).1 = backAndForth.map direct ∧
      (backAndForth.map direct).map (·.isSome)
        = [true, false, true, false, true, true, false, true] := by
  refine ⟨backAndForth_distinct, serveAll_answers backAndForth backAndForth_distinct, ?_⟩
  decide +kernel

end CacheRequest

/-! ## Readers that note that they run -/

namespace Model

variable {n : Type → Type} [Monad n]

/-- A look-up whose reader has effects. -/
def resolveM (m : Model) (element : Element) (term : Term)
    (read : Expression → n (Reading (Option term.Record))) :
    StateT AnnotationCache n (Option term.Record) := do
  let cache ← get
  match cache.find? m.id element term with
  | some record =>
    set (cache.bind m.id)
    pure record
  | none =>
    match m.annotation? element term.qualifiedName with
    | none =>
      set ((cache.bind m.id).remember element term none [])
      pure none
    | some value =>
      let reading ← read value
      set ((cache.bind m.id).remember element term reading.value
        (reading.mismatches.map fun mismatch => mismatch.issue term (m.elementName element) ""))
      pure reading.value

theorem resolve_eq_resolveM (m : Model) (element : Element) (term : Term)
    (read : Reader term.Record) :
    m.resolve element term read = m.resolveM (n := Id) element term read := by
  refine StateT.ext fun cache => ?_
  cases hfind : (cache.bind m.id).entries.get? (element, term) with
  | some record => simp [resolve, resolveM, AnnotationCache.find?, hfind]
  | none =>
      cases hannotation : m.annotation? element term.qualifiedName with
      | none => simp [resolve, resolveM, AnnotationCache.find?, hfind, hannotation, decode]
      | some value =>
          simp [resolve, resolveM, AnnotationCache.find?, hfind, hannotation, decode]
          rfl

/-- Whether an element has an annotation of a term. -/
def annotates (m : Model) (key : AnnotationKey) : Bool :=
  (m.annotation? key.1 key.2.qualifiedName).isSome

end Model

/-- The readers that have run: the model, the element and the term of each. -/
abbrev ReadingLog := List (ModelId × AnnotationKey)

/-- The reader of a term, which notes that it runs. -/
def noting (m : Model) (element : Element) (term : Term) (value : Expression) :
    StateM ReadingLog (Reading (Option term.Record)) := do
  modify (· ++ [(m.id, element, term)])
  pure (term.read value)

namespace CacheRequest

/-- Serve a request with readers that note that they run. -/
def serveNoting :
    CacheRequest → StateT AnnotationCache (StateM ReadingLog) (Option AnyRecord)
  | resolve m element term => do
    let record ← m.resolveM element term (noting m element term)
    pure (record.map (⟨term, ·⟩))
  | clear => do
    modify AnnotationCache.clear
    pure none

/-- The readers that have run for some requests to a cache that was empty before. -/
def readings (requests : List CacheRequest) : ReadingLog :=
  (((requests.mapM serveNoting).run {}).run []).2

variable {cache : AnnotationCache} {requests : List CacheRequest} {m : Model}

/-- The reader that a request runs, if any. -/
def newReadings (cache : AnnotationCache) : CacheRequest → ReadingLog
  | resolve m element term =>
    if m.decodes cache element term then [(m.id, element, term)] else []
  | clear => []

/-- The readers that requests run, one after the other. -/
def readingsFrom (cache : AnnotationCache) : List CacheRequest → ReadingLog
  | [] => []
  | request :: rest =>
    newReadings cache request ++ readingsFrom (request.serve.run cache).2 rest

/-- A reader that notes that it runs changes neither answer nor cache. -/
theorem serveNoting_run (request : CacheRequest) (log : ReadingLog) :
    (request.serveNoting.run cache).run log
      = (request.serve.run cache, log ++ newReadings cache request) := by
  cases request with
  | clear =>
      simp [serveNoting, serve, newReadings]
      rfl
  | resolve m element term =>
      rw [serve, Model.resolve_eq_resolveM, newReadings, Model.decodes]
      cases hfind : cache.find? m.id element term with
      | some record =>
          simp [serveNoting, Model.resolveM, hfind]
          rfl
      | none =>
          cases hannotation : m.annotation? element term.qualifiedName with
          | none =>
              simp [serveNoting, Model.resolveM, hfind, hannotation]
              rfl
          | some value =>
              simp [serveNoting, Model.resolveM, hfind, hannotation, noting]
              rfl

theorem mapM_serveNoting_run (log : ReadingLog) :
    ((requests.mapM serveNoting).run cache).run log
      = ((serveAll requests).run cache, log ++ readingsFrom cache requests) := by
  induction requests generalizing cache log with
  | nil =>
      rw [readingsFrom, List.append_nil]
      rfl
  | cons request rest ih =>
      rw [List.mapM_cons, StateT.run_bind, StateT.run_bind, serveNoting_run, readingsFrom,
        ← List.append_assoc]
      show ((rest.mapM serveNoting >>= _).run (request.serve.run cache).2).run _ = _
      rw [StateT.run_bind, StateT.run_bind, ih, serveAll_cons]
      rfl

theorem readings_eq (requests : List CacheRequest) :
    readings requests = readingsFrom {} requests := by
  rw [readings, mapM_serveNoting_run, List.nil_append]

theorem readingsFrom_append (requests requests' : List CacheRequest) :
    readingsFrom cache (requests ++ requests')
      = readingsFrom cache requests
        ++ readingsFrom ((serveAll requests).run cache).2 requests' := by
  induction requests generalizing cache with
  | nil => rfl
  | cons request rest ih =>
      rw [List.cons_append, readingsFrom, ih, readingsFrom, List.append_assoc, serveAll_cons]
      rfl

/-! ## Look-ups in one model -/

/-- A series of look-ups in one model. -/
def lookUps (m : Model) (keys : List AnnotationKey) : List CacheRequest :=
  keys.map fun key => resolve m key.1 key.2

theorem eq_lookUps (h : ∀ request ∈ requests, request.model? = some m) :
    requests = lookUps m (requests.filterMap key?) := by
  induction requests with
  | nil => rfl
  | cons request rest ih =>
      have hrest := ih fun other hother => h other (List.mem_cons_of_mem request hother)
      have hmodel := h request List.mem_cons_self
      cases request with
      | clear => cases hmodel
      | resolve served element term =>
          cases hmodel
          exact congrArg (resolve m element term :: ·) hrest

theorem lookUps_append (keys keys' : List AnnotationKey) :
    lookUps m (keys ++ keys') = lookUps m keys ++ lookUps m keys' :=
  List.map_append

theorem afterAll_lookUps (keys : List AnnotationKey) :
    afterAll cache (lookUps m keys) = cache.touchAll m keys := by
  rw [afterAll, lookUps, List.foldl_map]
  rfl

theorem serveAll_lookUps_run (keys : List AnnotationKey) (h : cache.Agrees m) :
    ((serveAll (lookUps m keys)).run cache).2 = cache.touchAll m keys := by
  have hids : Distinct [m] := by
    intro a ha b hb _
    rw [List.mem_singleton.mp ha, List.mem_singleton.mp hb]
  have hrequests : ∀ request ∈ lookUps m keys, ∀ a, request.model? = some a → a ∈ [m] := by
    intro request hrequest a ha
    obtain ⟨key, -, rfl⟩ := List.mem_map.mp hrequest
    cases ha
    exact List.mem_singleton_self m
  rw [serveAll_run hids (fun a ha => List.mem_singleton.mp ha ▸ h) hrequests, afterAll_lookUps]

theorem newReadings_resolve (key : AnnotationKey) :
    newReadings cache (resolve m key.1 key.2)
      = if key ∉ (cache.bind m.id).entries ∧ m.annotates key then [(m.id, key)] else [] := by
  have hdecodes : m.decodes cache key.1 key.2 = true ↔
      key ∉ (cache.bind m.id).entries ∧ m.annotates key = true := by
    rw [Model.decodes, AnnotationCache.find?, Bool.and_eq_true, Std.DHashMap.mem_iff_isSome_get?,
      Option.isNone_iff_eq_none, Option.not_isSome_iff_eq_none]
    rfl
  rw [newReadings]
  exact if_congr hdecodes rfl rfl

/-- A cache that serves another model reads every annotation that is looked up, at the first
look-up. -/
theorem readingsFrom_lookUps (h : cache.model ≠ some m.id) (keys : List AnnotationKey) :
    readingsFrom cache (lookUps m keys)
      = (keys.eraseDups.filter m.annotates).map (m.id, ·) := by
  induction keys using List.reverseRecOn with
  | nil => rfl
  | append_singleton keys last ih =>
      have hrun := serveAll_lookUps_run keys (AnnotationCache.agrees_of_other h)
      have hknown : last ∈ ((cache.touchAll m keys).bind m.id).entries ↔ last ∈ keys := by
        rw [AnnotationCache.bind_touchAll_of_other h, AnnotationCache.mem_bind_touchAll_iff]
      rw [lookUps_append, readingsFrom_append, ih, hrun, List.eraseDups_append,
        List.filter_append, List.map_append]
      congr 1
      show newReadings (cache.touchAll m keys) (resolve m last.1 last.2) ++ [] = _
      rw [newReadings_resolve, List.append_nil]
      by_cases hmem : last ∈ keys
      · simp [hknown, hmem, List.removeAll]
      · cases hannotated : m.annotates last with
        | false => simp [hknown, hmem, hannotated, List.removeAll, List.eraseDups_cons]
        | true => simp [hknown, hmem, hannotated, List.removeAll, List.eraseDups_cons]

/-! ## Since the cache was last cleared or turned to another model -/

/-- The model of the last request, none after clearing. -/
def lastModel? (requests : List CacheRequest) : Option Model := requests.getLast?.bind model?

/-- Whether a request looks something up in a model, or clears the cache. -/
def isFor (id : Option ModelId) (request : CacheRequest) : Bool := request.model?.map (·.id) == id

/-- The requests since the cache was last cleared or turned to another model. -/
def current (requests : List CacheRequest) : List CacheRequest :=
  requests.rtakeWhile (isFor ((lastModel? requests).map (·.id)))

/-- The requests before these. -/
def earlier (requests : List CacheRequest) : List CacheRequest :=
  requests.rdropWhile (isFor ((lastModel? requests).map (·.id)))

theorem earlier_append_current (requests : List CacheRequest) :
    earlier requests ++ current requests = requests :=
  List.rdropWhile_append_rtakeWhile

theorem afterAll_model (requests : List CacheRequest) :
    (afterAll {} requests).model = (lastModel? requests).map (·.id) := by
  induction requests using List.reverseRecOn with
  | nil => rfl
  | append_singleton requests last _ =>
      rw [afterAll, List.foldl_append, lastModel?, List.getLast?_concat]
      cases last with
      | clear => rfl
      | resolve m element term => exact AnnotationCache.touch_model _ _

theorem earlier_distinct (hids : Distinct (requests.filterMap model?)) :
    Distinct ((earlier requests).filterMap model?) := by
  have hsubset : ∀ a ∈ (earlier requests).filterMap model?, a ∈ requests.filterMap model? := by
    intro a ha
    rw [← earlier_append_current requests, List.filterMap_append]
    exact List.mem_append_left _ ha
  intro a ha b hb
  exact hids a (hsubset a ha) b (hsubset b hb)

/-- Before the requests that look up in the model of the last one, another model is served,
or none. -/
theorem earlier_model (hlast : lastModel? requests = some m) :
    (afterAll {} (earlier requests)).model ≠ some m.id := by
  rw [afterAll_model, lastModel?]
  intro hmodel
  cases hearlier : (earlier requests).getLast? with
  | none => simp [hearlier] at hmodel
  | some request =>
      obtain ⟨hne, hrequest⟩ := List.mem_getLast?_eq_getLast hearlier
      have hnot : ¬ isFor ((lastModel? requests).map (·.id)) request := by
        rw [hrequest]
        exact List.rdropWhile_last_not _ _ hne
      apply hnot
      rw [hlast, isFor]
      simpa [hearlier] using hmodel

/-- The requests since then are look-ups in one model. -/
theorem current_eq_lookUps (hids : Distinct (requests.filterMap model?))
    (hlast : lastModel? requests = some m) :
    current requests = lookUps m ((current requests).filterMap key?) := by
  have hmem : ∀ request ∈ requests, ∀ a, request.model? = some a →
      a ∈ requests.filterMap model? := fun request hrequest a ha =>
    List.mem_filterMap.mpr ⟨request, hrequest, ha⟩
  refine eq_lookUps fun request hrequest => ?_
  have hfor := List.mem_rtakeWhile_imp hrequest
  have hrequest := (List.rtakeWhile_suffix _ _).subset hrequest
  obtain ⟨last, hlastmem, hlastmodel⟩ := Option.bind_eq_some_iff.mp hlast
  rw [hlast] at hfor
  cases hmodel : request.model? with
  | none => simp [isFor, hmodel] at hfor
  | some a =>
      have hid : a.id = m.id := by simpa [isFor, hmodel] using hfor
      rw [hids a (hmem request hrequest a hmodel) m
        (hmem last (List.mem_of_getLast? hlastmem) m hlastmodel) hid]

/-! ## Readings and issues -/

theorem flatMap_recordIssues_filter (m : Model) (keys : List AnnotationKey) :
    (keys.filter m.annotates).flatMap (fun key => m.recordIssues key.1 key.2)
      = keys.flatMap fun key => m.recordIssues key.1 key.2 := by
  induction keys with
  | nil => rfl
  | cons key rest ih =>
      rw [List.flatMap_cons, ← ih, List.filter_cons]
      cases hannotation : m.annotation? key.1 key.2.qualifiedName with
      | some value => simp [Model.annotates, hannotation]
      | none => simp [Model.annotates, hannotation, Model.recordIssues, Model.decode]

theorem readings_eq_append (hids : Distinct (requests.filterMap model?)) :
    readings requests
      = readings (earlier requests)
        ++ readingsFrom (afterAll {} (earlier requests)) (current requests) := by
  rw [readings_eq, readings_eq]
  conv_lhs => rw [← earlier_append_current requests]
  rw [readingsFrom_append, serveAll_run_empty (earlier_distinct hids)]

theorem issues_eq (hids : Distinct (requests.filterMap model?))
    (hlast : lastModel? requests = some m) :
    (afterAll {} requests).issues
      = ((current requests).filterMap key?).eraseDups.flatMap fun key =>
          m.recordIssues key.1 key.2 := by
  have hmodel : (afterAll {} requests).model = some m.id := by
    rw [afterAll_model, hlast]
    rfl
  have hafter : afterAll {} requests
      = (afterAll {} (earlier requests)).touchAll m ((current requests).filterMap key?) := by
    rw [← afterAll_lookUps, ← current_eq_lookUps hids hlast, afterAll, afterAll, afterAll,
      ← List.foldl_append, earlier_append_current]
  rw [← AnnotationCache.bind_of_model hmodel, hafter,
    AnnotationCache.bind_touchAll_of_other (earlier_model hlast),
    AnnotationCache.bind_touchAll_issues]

theorem readingsFrom_of_clear (h : ∀ request ∈ requests, request.model? = none) :
    readingsFrom cache requests = [] := by
  induction requests generalizing cache with
  | nil => rfl
  | cons request rest ih =>
      have hrest := fun other hother => h other (List.mem_cons_of_mem request hother)
      have hclear := h request List.mem_cons_self
      cases request with
      | clear => exact ih hrest
      | resolve m element term => cases hclear

theorem afterAll_of_lastModel?_eq_none (h : lastModel? requests = none) :
    afterAll {} requests = {} := by
  cases requests using List.reverseRecOn with
  | nil => rfl
  | append_singleton requests last =>
      rw [lastModel?, List.getLast?_concat] at h
      cases last with
      | clear =>
          rw [afterAll, List.foldl_append]
          rfl
      | resolve m element term => cases h

/-- Since the cache was last cleared or turned to another model, each annotation that has been
looked up has been read once, in the order of the first look-ups, and nothing else has been
read.  The issues of the cache are those of these readings. -/
theorem readings_since_bound (requests : List CacheRequest)
    (hids : Distinct (requests.filterMap model?)) :
    (∀ m, lastModel? requests = some m →
      readings requests
          = readings (earlier requests)
            ++ (((current requests).filterMap key?).eraseDups.filter m.annotates).map
                (m.id, ·) ∧
        (cacheAfter requests).issues
          = (((current requests).filterMap key?).eraseDups.filter m.annotates).flatMap
              fun key => m.recordIssues key.1 key.2) ∧
    (lastModel? requests = none →
      readings requests = readings (earlier requests) ∧ (cacheAfter requests).issues = []) := by
  have hcache : cacheAfter requests = afterAll {} requests := by
    rw [cacheAfter, serveAll_run_empty hids]
  rw [hcache]
  constructor
  case left =>
    intro m hlast
    have hcurrent := readingsFrom_lookUps (earlier_model hlast) ((current requests).filterMap key?)
    rw [← current_eq_lookUps hids hlast] at hcurrent
    rw [readings_eq_append hids, hcurrent, issues_eq hids hlast, flatMap_recordIssues_filter]
    exact ⟨rfl, rfl⟩
  case right =>
    intro hlast
    have hclear : ∀ request ∈ current requests, request.model? = none := by
      intro request hrequest
      have hfor := List.mem_rtakeWhile_imp hrequest
      rw [hlast] at hfor
      simpa [isFor] using hfor
    rw [readings_eq_append hids, readingsFrom_of_clear hclear, List.append_nil,
      afterAll_of_lastModel?_eq_none hlast]
    exact ⟨rfl, rfl⟩

theorem backAndForth_readings :
    Distinct (backAndForth.filterMap model?) ∧
      lastModel? backAndForth = some partlyReadModel ∧
      readings backAndForth
        = readings (earlier backAndForth)
          ++ [(⟨0⟩, .entitySet ⟨0⟩, .readRestrictions), (⟨0⟩, .entitySet ⟨0⟩, .topSupported)] ∧
      (cacheAfter backAndForth).issues
        = [⟨.readRestrictions, "A.C/S", "Description", "string", "int"⟩] := by
  obtain ⟨hreadings, hissues⟩ :=
    (readings_since_bound backAndForth backAndForth_distinct).1 partlyReadModel rfl
  have hkeys : (((current backAndForth).filterMap key?).eraseDups.filter partlyReadModel.annotates)
      = [(.entitySet ⟨0⟩, .readRestrictions), (.entitySet ⟨0⟩, .topSupported)] := by
    decide +kernel
  rw [hkeys] at hreadings hissues
  refine ⟨backAndForth_distinct, rfl, hreadings, hissues.trans ?_⟩
  decide +kernel

end CacheRequest

end ODataApi
