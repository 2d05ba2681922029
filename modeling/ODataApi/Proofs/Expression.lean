import ODataApi.Expression
import ODataApi.Proofs.Dictionary

/-!
# From JSON and back

`ofJson` treats three things in a JSON value specially: members of objects that start with `@`
or `$`, whole numbers beyond sixty-four bits, and the order and repetition of members.  A value
without the first two is plain, and `toJson?` gives it back with its objects as dictionaries
(`toJson?_ofJson`).  In the other direction a float that is not finite is all that has no JSON
form, wherever in an expression it occurs (`toJson?_eq_none_iff`).
-/

namespace ODataApi

namespace Json

/-! ## Values whose objects are dictionaries -/

/-- The members of every object are sorted by name, each name once. -/
inductive Sorted : Json → Prop
  | null : Sorted .null
  | bool (value : Bool) : Sorted (.bool value)
  | number (value : JsonNumber) : Sorted (.number value)
  | string (value : String) : Sorted (.string value)
  | array {items : List Json} (hitems : ∀ item ∈ items, Sorted item) : Sorted (.array items)
  | object {members : List (String × Json)} (hsorted : Dictionary.Sorted members)
      (hvalues : ∀ member ∈ members, Sorted member.2) : Sorted (.object members)

theorem canonicalItems_eq_map (items : List Json) : canonicalItems items = items.map canonical := by
  induction items with
  | nil => rfl
  | cons item rest ih => rw [canonicalItems, ih, List.map_cons]

theorem canonicalMembers_eq_map (members : List (String × Json)) :
    canonicalMembers members = members.map fun member => (member.1, canonical member.2) := by
  induction members with
  | nil => rfl
  | cons member rest ih => rw [canonicalMembers, ih, List.map_cons]

theorem Sorted.canonical_eq {json : Json} (h : json.Sorted) : json.canonical = json := by
  induction h with
  | null => rfl
  | bool value => rfl
  | number value => rfl
  | string value => rfl
  | array hitems ih => rw [canonical, canonicalItems_eq_map, List.map_congr_left ih, List.map_id']
  | @object members hsorted hvalues ih =>
      have hsame : ∀ member ∈ members, (member.1, canonical member.2) = member :=
        fun member hmember => by rw [ih member hmember]
      rw [canonical, canonicalMembers_eq_map, List.map_congr_left hsame, List.map_id',
        hsorted.ofList_eq]

/-! ## Plain values -/

/-- No member of an object starts with `@` or `$`, and every whole number fits sixty-four bits,
sign included.  Other numbers are finite, as all numbers that can be written are. -/
inductive Plain : Json → Prop
  | null : Plain .null
  | bool (value : Bool) : Plain (.bool value)
  | int {n : Int} (h : Expression.isInt64 n = true) : Plain (.number (.int n))
  | float {x : Binary64} (h : x.isFinite = true) : Plain (.number (.float x))
  | string (value : String) : Plain (.string value)
  | array {items : List Json} (hitems : ∀ item ∈ items, Plain item) : Plain (.array items)
  | object {members : List (String × Json)}
      (hnames : ∀ member ∈ members, Expression.isControl member.1 = false)
      (hvalues : ∀ member ∈ members, Plain member.2) : Plain (.object members)

end Json

namespace Expression

/-! ## There and back -/

theorem isControl_of_mem_pathMembers : ∀ name ∈ pathMembers, isControl name = true := by decide

theorem isControl_enumMember : isControl "$EnumMember" = true := by decide

/-- Only an object with a member that is no field is a path or a member of an enumeration. -/
theorem ofWrapper?_eq_none {members : List (String × Json)}
    (h : ∀ member ∈ members, isControl member.1 = false) : ofWrapper? members = none := by
  fun_cases ofWrapper? members with
  | case1 name value hpath =>
      have hcontrol := isControl_of_mem_pathMembers name (List.contains_iff_mem.mp hpath)
      exact absurd ((h _ (List.mem_singleton_self _)).symm.trans hcontrol) Bool.false_ne_true
  | case2 value hpath =>
      have hcontrol := isControl_enumMember
      exact absurd ((h _ (List.mem_singleton_self _)).symm.trans hcontrol) Bool.false_ne_true
  | case3 => rfl
  | case4 => rfl

theorem ofItems_eq_map (items : List Json) : ofItems items = items.map ofJson := by
  induction items with
  | nil => rfl
  | cons item rest ih => rw [ofItems, ih, List.map_cons]

theorem ofMembers_eq_map {members : List (String × Json)}
    (h : ∀ member ∈ members, isControl member.1 = false) :
    ofMembers members = members.map fun member => (member.1, ofJson member.2) := by
  induction members with
  | nil => rfl
  | cons member rest ih =>
      obtain ⟨hname, hrest⟩ := List.forall_mem_cons.mp h
      rw [ofMembers, hname, if_neg Bool.false_ne_true, ih hrest, List.map_cons]

/-- An object all of whose members are fields is the record of its dictionary. -/
theorem ofJson_object {members : List (String × Json)}
    (h : ∀ member ∈ members, isControl member.1 = false) :
    ofJson (.object members) = record (typeName? members)
      ((Dictionary.ofList members).map fun member => (member.1, ofJson member.2)) := by
  have hnone : ofWrapper? (Dictionary.ofList members) = none :=
    ofWrapper?_eq_none fun member hmember => h member (Dictionary.mem_of_mem_ofList hmember)
  rw [ofJson, hnone, Option.getD_none, ofMembers_eq_map h, Dictionary.ofList_map]

theorem itemsOf?_map {items : List Json}
    (h : ∀ item ∈ items, (ofJson item).toJson? = some item.canonical) :
    itemsOf? (items.map ofJson) = some (items.map Json.canonical) := by
  induction items with
  | nil => rfl
  | cons item rest ih =>
      obtain ⟨hitem, hrest⟩ := List.forall_mem_cons.mp h
      rw [List.map_cons, itemsOf?, hitem, ih hrest]
      rfl

theorem membersOf?_map {members : List (String × Json)}
    (h : ∀ member ∈ members, (ofJson member.2).toJson? = some member.2.canonical) :
    membersOf? (members.map fun member => (member.1, ofJson member.2)) =
      some (members.map fun member => (member.1, member.2.canonical)) := by
  induction members with
  | nil => rfl
  | cons member rest ih =>
      obtain ⟨hmember, hrest⟩ := List.forall_mem_cons.mp h
      rw [List.map_cons, membersOf?, hmember, ih hrest]
      rfl

/-- A plain value comes back with its objects as dictionaries. -/
theorem toJson?_ofJson {json : Json} (h : json.Plain) :
    (ofJson json).toJson? = some json.canonical := by
  induction h with
  | null => rfl
  | bool value => rfl
  | int hint => rw [ofJson, ofNumber, if_pos hint]; rfl
  | float hfinite => rw [ofJson, ofNumber, toJson?, if_pos hfinite]; rfl
  | string value => rfl
  | array hitems ih =>
      rw [ofJson, toJson?, ofItems_eq_map, itemsOf?_map ih, Json.canonical,
        Json.canonicalItems_eq_map]
      rfl
  | object hnames hvalues ih =>
      have hmembers := membersOf?_map fun member hmember =>
        ih member (Dictionary.mem_of_mem_ofList hmember)
      rw [ofJson_object hnames, toJson?, hmembers, Json.canonical, Json.canonicalMembers_eq_map,
        Dictionary.ofList_map]
      rfl

/-! ## What has no JSON form -/

/-- An expression is a part of another, at any depth. -/
inductive Occurs (part : Expression) : Expression → Prop
  | here : Occurs part part
  | field {type : Option String} {fields : List (String × Expression)} {name : String}
      {value : Expression} (hmem : (name, value) ∈ fields) (h : Occurs part value) :
      Occurs part (record type fields)
  | item {items : List Expression} {item : Expression} (hmem : item ∈ items)
      (h : Occurs part item) : Occurs part (collection items)

theorem itemsOf?_eq_none_iff {items : List Expression} :
    itemsOf? items = none ↔ ∃ item ∈ items, item.toJson? = none := by
  induction items with
  | nil => simp [itemsOf?]
  | cons item rest ih =>
      rw [List.exists_mem_cons_iff, ← ih, itemsOf?]
      cases item.toJson? with
      | none => simp
      | some json => cases itemsOf? rest <;> simp

theorem membersOf?_eq_none_iff {fields : List (String × Expression)} :
    membersOf? fields = none ↔ ∃ field ∈ fields, field.2.toJson? = none := by
  induction fields with
  | nil => simp [membersOf?]
  | cons field rest ih =>
      rw [List.exists_mem_cons_iff, ← ih, membersOf?]
      cases field.2.toJson? with
      | none => simp
      | some json => cases membersOf? rest <;> simp

/-- What is missing for a part is missing for the whole. -/
theorem Occurs.toJson?_eq_none {part value : Expression} (h : Occurs part value)
    (hpart : part.toJson? = none) : value.toJson? = none := by
  induction h with
  | here => exact hpart
  | field hmem _ ih => rw [toJson?, membersOf?_eq_none_iff.mpr ⟨_, hmem, ih⟩, Option.map_none]
  | item hmem _ ih => rw [toJson?, itemsOf?_eq_none_iff.mpr ⟨_, hmem, ih⟩, Option.map_none]

theorem exists_occurs_of_toJson?_eq_none :
    ∀ {value : Expression}, value.toJson? = none →
      ∃ x, Binary64.isFinite x = false ∧ Occurs (float x) value
  | float x, h => by
      refine ⟨x, ?_, .here⟩
      rw [toJson?] at h
      simpa using h
  | record type fields, h => by
      rw [toJson?, Option.map_eq_none_iff] at h
      obtain ⟨⟨name, value⟩, hmem, hnone⟩ := membersOf?_eq_none_iff.mp h
      obtain ⟨x, hx, hoccurs⟩ := exists_occurs_of_toJson?_eq_none hnone
      exact ⟨x, hx, .field hmem hoccurs⟩
  | collection items, h => by
      rw [toJson?, Option.map_eq_none_iff] at h
      obtain ⟨item, hmem, hnone⟩ := itemsOf?_eq_none_iff.mp h
      obtain ⟨x, hx, hoccurs⟩ := exists_occurs_of_toJson?_eq_none hnone
      exact ⟨x, hx, .item hmem hoccurs⟩
termination_by value => sizeOf value
decreasing_by
  · have hfield := List.sizeOf_lt_of_mem hmem
    simp only [Prod.mk.sizeOf_spec, record.sizeOf_spec] at hfield ⊢
    omega
  · have hitem := List.sizeOf_lt_of_mem hmem
    simp only [collection.sizeOf_spec]
    omega

theorem toJson?_eq_none_iff {value : Expression} :
    value.toJson? = none ↔ ∃ x, Binary64.isFinite x = false ∧ Occurs (float x) value := by
  refine ⟨exists_occurs_of_toJson?_eq_none, ?_⟩
  rintro ⟨x, hx, hoccurs⟩
  exact hoccurs.toJson?_eq_none (by rw [toJson?, hx, if_neg Bool.false_ne_true])

/-! ## Payloads -/

/-- What is written in JSON and plain is kept by an expression, and what an expression holds can
be written unless it is a float that is not finite. -/
theorem payload_survives :
    (∀ json : Json, json.Plain → (ofJson json).toJson? = some json.canonical ∧
      (json.Sorted → (ofJson json).toJson? = some json)) ∧
    ∀ value : Expression,
      value.toJson? = none ↔ ∃ x, Binary64.isFinite x = false ∧ Occurs (float x) value := by
  refine ⟨?_, fun value => toJson?_eq_none_iff⟩
  intro json hplain
  refine ⟨toJson?_ofJson hplain, ?_⟩
  intro hsorted
  rw [toJson?_ofJson hplain, hsorted.canonical_eq]

/-- An object in an array in an object, with a number of either kind. -/
def nestedPayload : Json :=
  .object [
    ("Bounds", .array [.object [("Unit", .null)], .number (.float ⟨0x3ff8000000000000⟩)]),
    ("Limit", .ofInt (-3))]

theorem nestedPayload_survives :
    nestedPayload.Plain ∧ nestedPayload.Sorted ∧
      (ofJson nestedPayload).toJson? = some nestedPayload := by
  have hplain : nestedPayload.Plain := by
    refine .object (by decide) (List.forall_mem_cons.mpr ⟨.array ?_, ?_⟩)
    · refine List.forall_mem_cons.mpr ⟨.object (by decide) ?_, ?_⟩
      · exact List.forall_mem_singleton.mpr .null
      · exact List.forall_mem_singleton.mpr (.float (by decide))
    · exact List.forall_mem_singleton.mpr (.int (by decide))
  have hsorted : nestedPayload.Sorted := by
    refine .object (List.pairwise_pair.mpr (by decide)) (List.forall_mem_cons.mpr ⟨.array ?_, ?_⟩)
    · refine List.forall_mem_cons.mpr ⟨.object (List.pairwise_singleton _ _) ?_, ?_⟩
      · exact List.forall_mem_singleton.mpr .null
      · exact List.forall_mem_singleton.mpr (.number _)
    · exact List.forall_mem_singleton.mpr (.number _)
  exact ⟨hplain, hsorted, (payload_survives.1 nestedPayload hplain).2 hsorted⟩

end Expression

end ODataApi
