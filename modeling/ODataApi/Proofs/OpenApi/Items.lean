import ODataApi.OpenApi.Assembly
import ODataApi.Proofs.Conversion
import ODataApi.Proofs.Dictionary
import ODataApi.Proofs.Document.Resolve

/-!
# The operations of a document

`Document.entries` lists what stands on a URL template under a method.  Paths with one
template share an item, and of a method that several of them have the item keeps the
operation of the first.  So of the operations that the endpoints of a conversion become
the document has the first one of each template and method (`entries_perm_firsts`), and
no operation is lost if and only if no two endpoints share both (`entries_complete_iff`).
-/

namespace ODataApi

/-! ## The first of each key -/

section

variable {κ α : Type} [BEq κ]

/-- The first value of each key. -/
def firsts : List (κ × α) → List (κ × α)
  | [] => []
  | first :: rest => first :: (firsts rest).filter fun other => other.1 != first.1

theorem firsts_sublist : ∀ l : List (κ × α), (firsts l).Sublist l
  | [] => List.Sublist.refl []
  | _ :: rest => (List.filter_sublist.trans (firsts_sublist rest)).cons_cons _

theorem firsts_map {β : Type} (f : α → β) : ∀ l : List (κ × α),
    firsts (l.map fun x => (x.1, f x.2)) = (firsts l).map fun x => (x.1, f x.2)
  | [] => rfl
  | first :: rest => by
      rw [List.map_cons, firsts, firsts_map f rest, List.filter_map, firsts, List.map_cons]
      rfl

variable [LawfulBEq κ]

theorem firsts_keys_nodup : ∀ l : List (κ × α), ((firsts l).map (·.1)).Nodup
  | [] => List.nodup_nil
  | first :: rest => by
      rw [firsts, List.map_cons, List.nodup_cons]
      constructor
      · simp
      · exact (firsts_keys_nodup rest).sublist (List.filter_sublist.map _)

theorem firsts_append : ∀ l l' : List (κ × α),
    firsts (l ++ l') = firsts l ++ (firsts l').filter fun x => x.1 ∉ l.map (·.1)
  | [], l' => by simp [firsts]
  | first :: rest, l' => by
      rw [List.cons_append, firsts, firsts_append rest l', List.filter_append, List.filter_filter,
        firsts, List.cons_append]
      congr 2
      refine List.filter_congr fun x _ => ?_
      rw [Bool.eq_iff_iff]
      simp only [Bool.and_eq_true, bne_iff_ne, decide_eq_true_eq, List.map_cons, List.mem_cons,
        not_or, ne_eq]

theorem firsts_of_nodup : ∀ {l : List (κ × α)}, (l.map (·.1)).Nodup → firsts l = l
  | [], _ => rfl
  | first :: rest, h => by
      obtain ⟨hfirst, hrest⟩ := List.nodup_cons.mp h
      rw [firsts, firsts_of_nodup hrest, List.filter_eq_self.mpr]
      intro x hx
      rw [bne_iff_ne]
      intro heq
      refine hfirst ?_
      show first.1 ∈ rest.map (·.1)
      rw [← heq]
      exact List.mem_map_of_mem hx

theorem mem_keys_append_missing {l l' : List (κ × α)} {k : κ} :
    k ∈ (l ++ l'.filter fun x => x.1 ∉ l.map (·.1)).map (·.1) ↔
      k ∈ l.map (·.1) ∨ k ∈ l'.map (·.1) := by
  rw [List.map_append, List.mem_append]
  by_cases hk : k ∈ l.map (·.1)
  · simp only [hk, true_or]
  · simp only [hk, false_or, List.mem_map, List.mem_filter, decide_eq_true_eq]
    constructor
    · rintro ⟨x, ⟨hx, -⟩, rfl⟩
      exact ⟨x, hx, rfl⟩
    · rintro ⟨x, hx, rfl⟩
      exact ⟨x, ⟨hx, by simpa using hk⟩, rfl⟩

theorem firsts_perm_iff {l : List (κ × α)} : (firsts l).Perm l ↔ (l.map (·.1)).Nodup := by
  constructor
  · intro h
    exact (h.map (·.1)).nodup_iff.mp (firsts_keys_nodup l)
  · intro h
    rw [firsts_of_nodup h]

theorem length_firsts_iff {l : List (κ × α)} :
    (firsts l).length = l.length ↔ (l.map (·.1)).Nodup := by
  constructor
  · intro h
    rw [← (firsts_sublist l).eq_of_length h]
    exact firsts_keys_nodup l
  · intro h
    rw [firsts_of_nodup h]

end

namespace OpenApi

/-! ## Items by template -/

/-- What stands on a URL template under a method. -/
abbrev Entry := (String × Method) × Operation

/-- The operations of an item. -/
def itemEntries (template : String) (item : PathItem) : List Entry :=
  item.map fun (method, operation) => ((template, method), operation)

/-- The operations of items, item by item. -/
def entriesOf (items : List (String × PathItem)) : List Entry :=
  items.flatMap fun (template, item) => itemEntries template item

/-- The operations of a document. -/
def Document.entries (document : Document) : List Entry := entriesOf document.paths

theorem entries_map_operation (document : Document) :
    document.entries.map (·.2) = document.operations := by
  rw [Document.entries, entriesOf, List.map_flatMap]
  simp only [itemEntries, List.map_map]
  rfl

theorem length_entries (document : Document) :
    document.entries.length = document.operations.length := by
  rw [← entries_map_operation, List.length_map]

variable {d : Dictionary PathItem} {template : String} {item : PathItem}

theorem mem_itemEntries_keys {k : String × Method} :
    k ∈ (itemEntries template item).map (·.1) ↔ k.1 = template ∧ k.2 ∈ item.map (·.1) := by
  simp only [itemEntries, List.map_map, List.mem_map, Function.comp_apply]
  constructor
  · rintro ⟨x, hx, rfl⟩
    exact ⟨rfl, x, hx, rfl⟩
  · rintro ⟨htemplate, x, hx, hmethod⟩
    exact ⟨x, hx, Prod.ext htemplate.symm hmethod⟩

theorem itemEntries_keys_nodup (template : String) (h : (item.map (·.1)).Nodup) :
    ((itemEntries template item).map (·.1)).Nodup := by
  have hkeys : (itemEntries template item).map (·.1)
      = (item.map (·.1)).map fun method => (template, method) := by
    rw [itemEntries, List.map_map, List.map_map]
    rfl
  rw [hkeys]
  refine h.map ?_
  intro method method' heq
  exact (Prod.mk.inj heq).2

theorem entriesOf_append (items items' : List (String × PathItem)) :
    entriesOf (items ++ items') = entriesOf items ++ entriesOf items' :=
  List.flatMap_append

theorem entriesOf_cons (items : List (String × PathItem)) :
    entriesOf ((template, item) :: items) = itemEntries template item ++ entriesOf items :=
  List.flatMap_cons

theorem mem_entriesOf_keys {items : List (String × PathItem)} {k : String × Method} :
    k ∈ (entriesOf items).map (·.1) ↔ ∃ x ∈ items, x.1 = k.1 ∧ k.2 ∈ x.2.map (·.1) := by
  rw [entriesOf, List.map_flatMap, List.mem_flatMap]
  simp only [mem_itemEntries_keys, eq_comm]

theorem mem_entriesOf_keys_iff (hd : d.Sorted) (hget : d.get? template = some item)
    {method : Method} :
    (template, method) ∈ (entriesOf d).map (·.1) ↔ method ∈ item.map (·.1) := by
  rw [mem_entriesOf_keys]
  constructor
  · rintro ⟨⟨_, other⟩, hx, rfl, hmethod⟩
    rw [hd.get?_of_mem hx] at hget
    cases hget
    exact hmethod
  · intro hmethod
    exact ⟨(template, item), Dictionary.mem_of_get? hget, rfl, hmethod⟩

theorem itemEntries_merge (first second : PathItem) :
    itemEntries template (first.merge second) = itemEntries template first
      ++ (itemEntries template second).filter fun x => x.1.2 ∉ first.map (·.1) := by
  have hlookup : ∀ x : Method × Operation,
      (first.lookup x.1).isNone = decide (x.1 ∉ first.map (·.1)) := by
    intro x
    rw [Bool.eq_iff_iff, Option.isNone_iff_eq_none, List.lookup_eq_none_iff, decide_eq_true_eq]
    simp only [bne_iff_ne, List.mem_map, not_exists, not_and]
    exact forall₂_congr fun _ _ => ne_comm
  rw [PathItem.merge, itemEntries, List.map_append, itemEntries, itemEntries, List.filter_map]
  congr 2
  exact List.filter_congr fun x _ => hlookup x

theorem addItem_sorted (h : d.Sorted) (entry : String × PathItem) :
    (View.addItem d entry).Sorted := by
  rw [View.addItem]
  split
  · exact h.insert
  · exact h.insert

/-- An item adds the methods that are missing on its template. -/
theorem addItem_entries (h : d.Sorted) (template : String) (item : PathItem) :
    (entriesOf (View.addItem d (template, item))).Perm
      (entriesOf d ++ (itemEntries template item).filter fun x =>
        x.1 ∉ (entriesOf d).map (·.1)) := by
  rw [View.addItem]
  cases hget : d.get? template with
  | none =>
      have hnew : template ∉ Dictionary.names d := Dictionary.get?_eq_none_iff.mp hget
      have hfilter : (itemEntries template item).filter (fun x =>
          x.1 ∉ (entriesOf d).map (·.1)) = itemEntries template item := by
        refine List.filter_eq_self.mpr fun x hx => ?_
        obtain ⟨htemplate, -⟩ := mem_itemEntries_keys.mp (List.mem_map_of_mem hx)
        rw [decide_eq_true_eq, mem_entriesOf_keys]
        rintro ⟨y, hy, heq, -⟩
        refine hnew ?_
        rw [← htemplate, ← heq]
        exact List.mem_map_of_mem hy
      rw [hfilter]
      exact ((Dictionary.insert_perm hnew).flatMap_right _).trans List.perm_append_comm
  | some old =>
      obtain ⟨before, after, hsplit, hinsert⟩ :=
        Dictionary.exists_insert_eq h hget (old.merge item)
      have hfilter : (itemEntries template item).filter (fun x =>
            x.1 ∉ (entriesOf d).map (·.1))
          = (itemEntries template item).filter fun x => x.1.2 ∉ old.map (·.1) := by
        refine List.filter_congr fun x hx => ?_
        obtain ⟨rfl, -⟩ := mem_itemEntries_keys.mp (List.mem_map_of_mem hx)
        exact decide_eq_decide.mpr (not_congr (mem_entriesOf_keys_iff h hget))
      show (entriesOf (Dictionary.insert template (old.merge item) d)).Perm _
      rw [hinsert, hfilter, hsplit]
      simp only [entriesOf_append, entriesOf_cons, itemEntries_merge, List.append_assoc]
      refine List.Perm.append_left _ (List.Perm.append_left _ ?_)
      exact List.perm_append_comm

theorem foldl_addItem_entries (h : d.Sorted) {items : List (String × PathItem)}
    (hitems : ∀ x ∈ items, (x.2.map (·.1)).Nodup) :
    (entriesOf (items.foldl View.addItem d)).Perm
      (entriesOf d ++ (firsts (entriesOf items)).filter fun x =>
        x.1 ∉ (entriesOf d).map (·.1)) := by
  induction items generalizing d with
  | nil => simp [entriesOf, firsts]
  | cons first rest ih =>
      obtain ⟨template, item⟩ := first
      have hitem := itemEntries_keys_nodup template (hitems _ List.mem_cons_self)
      have hadd := addItem_entries h template item
      have hrest := ih (addItem_sorted h (template, item)) fun x hx =>
        hitems x (List.mem_cons_of_mem _ hx)
      rw [entriesOf_cons, firsts_append, firsts_of_nodup hitem, List.filter_append,
        ← List.append_assoc]
      refine hrest.trans (hadd.append ?_)
      rw [List.filter_filter]
      refine List.Perm.of_eq (List.filter_congr fun x _ => ?_)
      have hkeys : x.1 ∈ (entriesOf (View.addItem d (template, item))).map (·.1) ↔
          x.1 ∈ (entriesOf d).map (·.1) ∨ x.1 ∈ (itemEntries template item).map (·.1) := by
        rw [(hadd.map (·.1)).mem_iff, mem_keys_append_missing]
      rw [← Bool.decide_and, decide_eq_decide, hkeys, not_or]

/-! ## What endpoints become -/

theorem operationIds_append (used ids ids' : List String) :
    operationIds used (ids ++ ids')
      = operationIds used ids ++ operationIds (ids.reverse ++ used) ids' := by
  induction ids generalizing used with
  | nil => rfl
  | cons id rest ih =>
      rw [List.cons_append, operationIds, ih, operationIds, List.reverse_cons, List.append_assoc]
      rfl

theorem length_operationIds (used ids : List String) :
    (operationIds used ids).length = ids.length := by
  induction ids generalizing used with
  | nil => rfl
  | cons id rest ih => exact congrArg (· + 1) (ih (id :: used))

namespace View

variable {endpoints : List Endpoint}

/-- The operations that endpoints become, each under its template and method, when the
names in `used` have been given. -/
def rendered (v : View) (used : List String) (endpoints : List Endpoint) : List Entry :=
  endpoints.zipWith (fun e id => ((e.path.template, e.method), v.operation e id))
    (operationIds used (endpoints.map (·.operationId)))

theorem rendered_append (v : View) (used : List String) (endpoints endpoints' : List Endpoint) :
    v.rendered used (endpoints ++ endpoints') = v.rendered used endpoints
      ++ v.rendered ((endpoints.map (·.operationId)).reverse ++ used) endpoints' := by
  rw [rendered, List.map_append, operationIds_append, List.zipWith_append]
  · rfl
  · rw [length_operationIds, List.length_map]

theorem rendered_keys (v : View) (used : List String) (endpoints : List Endpoint) :
    (v.rendered used endpoints).map (·.1) = endpoints.map fun e => (e.path.template, e.method) := by
  induction endpoints generalizing used with
  | nil => rfl
  | cons e rest ih => exact congrArg ((e.path.template, e.method) :: ·) (ih (e.operationId :: used))

theorem length_rendered (v : View) (used : List String) (endpoints : List Endpoint) :
    (v.rendered used endpoints).length = endpoints.length := by
  rw [← List.length_map (·.1), rendered_keys, List.length_map]

theorem item_methods (v : View) (used : List String) (endpoints : List Endpoint) :
    (v.item used endpoints).map (·.1) = endpoints.map (·.method) := by
  induction endpoints generalizing used with
  | nil => rfl
  | cons e rest ih => exact congrArg (e.method :: ·) (ih (e.operationId :: used))

theorem itemEntries_item (v : View) (used : List String)
    (h : ∀ e ∈ endpoints, e.path.template = template) :
    itemEntries template (v.item used endpoints) = v.rendered used endpoints := by
  induction endpoints generalizing used with
  | nil => rfl
  | cons e rest ih =>
      have hrest := ih (e.operationId :: used) fun e' he' => h e' (List.mem_cons_of_mem e he')
      have he : e.path.template = template := h e List.mem_cons_self
      rw [← he] at hrest ⊢
      exact congrArg (_ :: ·) hrest

theorem entriesOf_items (v : View) (used : List String) :
    ∀ groups : List (ResourcePath × List Endpoint), WellGrouped groups →
      entriesOf (v.items used groups) = v.rendered used (groups.flatMap (·.2))
  | [], _ => rfl
  | (path, []) :: rest, h => by
      rw [items, entriesOf_items v used rest fun group hgroup =>
        h group (List.mem_cons_of_mem _ hgroup)]
      rfl
  | (path, e :: endpoints) :: rest, h => by
      have hitem := itemEntries_item v used fun e' he' =>
        congrArg ResourcePath.template ((h _ List.mem_cons_self).1 e' he')
      have hrest := entriesOf_items v (((e :: endpoints).map (·.operationId)).reverse ++ used)
        rest fun group hgroup => h group (List.mem_cons_of_mem _ hgroup)
      rw [List.flatMap_cons, rendered_append, ← hrest, ← hitem]
      rfl

theorem items_methods_nodup (v : View) (used : List String) :
    ∀ groups : List (ResourcePath × List Endpoint), WellGrouped groups →
      ∀ x ∈ v.items used groups, (x.2.map (·.1)).Nodup
  | [], _ => fun x hx => absurd hx List.not_mem_nil
  | (path, []) :: rest, h =>
      items_methods_nodup v used rest fun group hgroup =>
        h group (List.mem_cons_of_mem _ hgroup)
  | (path, e :: endpoints) :: rest, h => by
      intro x hx
      rcases List.mem_cons.mp hx with rfl | hx
      · rw [item_methods]
        exact (h _ List.mem_cons_self).2
      · exact items_methods_nodup v _ rest (fun group hgroup =>
          h group (List.mem_cons_of_mem _ hgroup)) x hx

end View

/-- A document has the first operation of each template and method. -/
theorem entries_perm_firsts (m : Model) (conversion : Conversion) (info : Info)
    (provider : SchemaProvider) (h : WellGrouped conversion.groups) :
    (Document.ofConversion m conversion info provider).entries.Perm
      (firsts (View.rendered ⟨m, provider⟩ [] conversion.endpoints)) := by
  have hfold := foldl_addItem_entries (d := []) List.Pairwise.nil
    (View.items_methods_nodup ⟨m, provider⟩ [] conversion.groups h)
  rw [View.entriesOf_items _ _ _ h] at hfold
  refine hfold.trans (List.Perm.of_eq ?_)
  simp [entriesOf, Conversion.endpoints]

/-! ## No operation is lost -/

/-- The document of a conversion has every operation once, under the template and method
of its endpoint, if and only if no two endpoints share both.  Then, and only then, it has
as many operations as the conversion has endpoints. -/
theorem entries_complete_iff {m : Model} {settings : Settings} {conversion : Conversion}
    (h : m.convert settings = .ok conversion) (info : Info) (provider : SchemaProvider) :
    ((Document.ofConversion m conversion info provider).entries.Perm
        (View.rendered ⟨m, provider⟩ [] conversion.endpoints) ↔
      (conversion.endpoints.map fun e => (e.path.template, e.method)).Nodup) ∧
    ((Document.ofConversion m conversion info provider).operations.length
        = conversion.endpoints.length ↔
      (conversion.endpoints.map fun e => (e.path.template, e.method)).Nodup) := by
  have hfirsts := entries_perm_firsts m conversion info provider (Model.convert_wellGrouped h)
  rw [← View.rendered_keys ⟨m, provider⟩ []]
  constructor
  · rw [← firsts_perm_iff]
    exact ⟨hfirsts.symm.trans, hfirsts.trans⟩
  · rw [← length_firsts_iff, View.length_rendered, ← length_entries, hfirsts.length_eq]

/-- Two containers with a singleton of one name. -/
def twinDocument : ODataApi.Document where
  ns := "A"
  entityTypes := [{ name := "T" }]
  containers := [
    { name := "C", singletons := [{ name := "S", type := "T" }] },
    { name := "D", singletons := [{ name := "S", type := "T" }] }]

/-- The model of `twinDocument`. -/
def twinModel : Model := twinDocument.loaded ⟨0⟩

/-- Two of four operations are lost where two containers have a singleton of one name. -/
theorem twinModel_loses_operations :
    twinDocument.resolve ⟨0⟩ = .ok twinModel ∧
      ∃ conversion, twinModel.convert {} = .ok conversion ∧
        conversion.endpoints.length = 4 ∧
        ¬ (Document.ofConversion twinModel conversion {}).entries.Perm
          (View.rendered ⟨twinModel, .edm⟩ [] conversion.endpoints) ∧
        (Document.ofConversion twinModel conversion {}).operations.length ≠ 4 := by
  have hdepth : 0 ≤ ({} : Settings).maxNavigationDepth := by decide
  have hconvert := twinModel.convert_of_depth hdepth
  have hlength : ((twinModel.queryAll (twinModel.allPaths {})).value.flatMap (·.2)).length = 4 := by
    decide +kernel
  have htwice : ¬ (((twinModel.queryAll (twinModel.allPaths {})).value.flatMap (·.2)).map
      fun e => (e.path.template, e.method)).Nodup := by
    decide +kernel
  obtain ⟨hperm, hcount⟩ := entries_complete_iff hconvert {} .edm
  refine ⟨rfl, _, hconvert, hlength, ?_, ?_⟩
  · rw [hperm]
    exact htwice
  · intro hsame
    exact htwice (hcount.mp (hsame.trans hlength.symm))

end OpenApi

end ODataApi
