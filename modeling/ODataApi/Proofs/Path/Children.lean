import ODataApi.Proofs.Path.Position

/-!
# The paths below a path

The position of a path is the position of its segments, read off its fields
(`ResourcePath.position`).  The paths directly below a path go one segment further,
once for each segment that its position allows (`children_view`,
`mem_nextSegments_iff`, `nextSegments_nodup`).
-/

namespace ODataApi

theorem Settings.lt_navigationDepth_iff {settings : Settings} {depth : Nat} :
    depth < settings.navigationDepth ↔ (depth : Int) < settings.maxNavigationDepth := by
  rw [Settings.navigationDepth]
  omega

namespace ResourcePath

/-- The type before the cast that ends a path. -/
def castBase (path : ResourcePath) : Option EntityTypeHandle :=
  if path.isCast then path.castFrom else none

/-- What the fields of a path say of its position. -/
def position (path : ResourcePath) : Position :=
  if path.isTerminal then .final
  else
    { type := path.entityType
      collection := path.collection
      castFrom := if path.isCast then path.castFrom else none
      reference := path.kind == .navigationProperty && !path.containment
      navigations := path.depth
      names := path.parameters.map (·.name) }

/-- The segments of a path and their position. -/
def view (path : ResourcePath) : List Segment × Position := (path.segments, path.position)

/-- The view of a path one segment further. -/
def viewAfter (m : Model) (path : ResourcePath) (segment : Segment) : List Segment × Position :=
  (path.segments ++ [segment], path.position.after m segment)

/-! ## The segments that follow -/

/-- The key that follows a collection. -/
def keySegments (m : Model) (path : ResourcePath) (t : EntityTypeHandle) : List Segment :=
  if path.collection && !path.isCast && !(m.key t).isEmpty then
    [.key t (freshNames (path.parameters.map (·.name)) (m.entityType t).name (m.key t))]
  else []

/-- The navigation properties that follow a single entity. -/
def navigationSegments (settings : Settings) (m : Model) (path : ResourcePath)
    (t : EntityTypeHandle) : List Segment :=
  if !path.collection && path.depth < settings.navigationDepth then
    (path.notInherited m.navigationProperties t).map .navigation
  else []

/-- The casts that follow. -/
def castSegments (settings : Settings) (m : Model) (path : ResourcePath) (t : EntityTypeHandle) :
    List Segment :=
  if settings.typeCastPaths && !path.isCast then
    ((m.derivedTypes t).filter fun u => !(m.entityType u).isAbstract).map .typeCast
  else []

/-- The operations that follow. -/
def operationSegments (settings : Settings) (m : Model) (path : ResourcePath)
    (t : EntityTypeHandle) : List Segment :=
  if settings.operationPaths then
    (path.notInherited (fun u => m.boundOperations u path.collection) t).map .operation
  else []

/-- The count that follows a collection. -/
def countSegments (settings : Settings) (path : ResourcePath) : List Segment :=
  if settings.countPaths && path.collection then [.count] else []

/-- The reference that follows a navigation property. -/
def refSegments (path : ResourcePath) : List Segment :=
  if path.kind == .navigationProperty && !path.containment then [.ref] else []

/-- The segments that follow a path. -/
def nextSegments (settings : Settings) (m : Model) (path : ResourcePath) : List Segment :=
  if path.isTerminal then []
  else
    match path.entityType with
    | none => []
    | some t =>
      path.keySegments m t ++ path.navigationSegments settings m t ++ path.castSegments settings m t
        ++ path.operationSegments settings m t ++ path.countSegments settings ++ path.refSegments

/-! ## One segment further -/

variable {settings : Settings} {m : Model} {path : ResourcePath} {t : EntityTypeHandle}

theorem position_eq (h : path.isTerminal = false) :
    path.position =
      { type := path.entityType
        collection := path.collection
        castFrom := path.castBase
        reference := path.kind == .navigationProperty && !path.containment
        navigations := path.depth
        names := path.parameters.map (·.name) } := by
  rw [position, h]
  rfl

theorem position_of_terminal (h : path.isTerminal = true) : path.position = .final := by
  rw [position, h]
  rfl

@[simp] theorem call_segments (operation : Operation) (name : String) :
    (path.call operation name).segments = path.segments := by
  rw [call]
  cases operation.kind with
  | action => rfl
  | function => rfl

theorem withNavigation_view (h : path.isTerminal = false) (n : NavigationHandle) :
    (path.withNavigation m n).view = path.viewAfter m (.navigation n) := by
  have hlast : (path.withNavigation m n).isTerminal = false := by
    simp [withNavigation, push, isTerminal, Segment.isTerminal]
  rw [view, viewAfter, position_eq hlast, position_eq h]
  simp [withNavigation, push, Position.after, castBase, isCast]

theorem withCast_view (h : path.isTerminal = false) (u : EntityTypeHandle) :
    (path.withCast m u).view = path.viewAfter m (.typeCast u) := by
  have hlast : (path.withCast m u).isTerminal = false := by
    simp [withCast, push, isTerminal, Segment.isTerminal]
  rw [view, viewAfter, position_eq hlast, position_eq h]
  simp [withCast, push, Position.after, castBase, isCast]

theorem withOperation_view (o : OperationHandle) :
    (path.withOperation m o).view = path.viewAfter m (.operation o) := by
  have hsegments : (path.withOperation m o).segments = path.segments ++ [.operation o] :=
    call_segments (m.operation o) _
  have hlast : (path.withOperation m o).isTerminal = true := by
    simp [isTerminal, hsegments, Segment.isTerminal]
  rw [view, viewAfter, position_of_terminal hlast, hsegments]
  rfl

theorem withCount_view : path.withCount.view = path.viewAfter m .count := by
  have hlast : path.withCount.isTerminal = true := by
    simp [withCount, push, isTerminal, Segment.isTerminal]
  rw [view, viewAfter, position_of_terminal hlast]
  rfl

theorem withRef_view : path.withRef.view = path.viewAfter m .ref := by
  have hlast : path.withRef.isTerminal = true := by
    simp [withRef, push, isTerminal, Segment.isTerminal]
  rw [view, viewAfter, position_of_terminal hlast]
  rfl

/-- A type without a key has no keyed path, and all others have one. -/
theorem withKey?_view (h : path.isTerminal = false) (ht : path.entityType = some t) :
    (path.withKey? m).map view
      = if (m.key t).isEmpty then none
        else some (path.viewAfter m (.key t
          (freshNames (path.parameters.map (·.name)) (m.entityType t).name (m.key t)))) := by
  have hnames : (keyOf m t).map (·.1) = m.key t := by
    simp [keyOf, Function.comp_def]
  rw [withKey?, ht]
  simp only
  cases hkey : keyOf m t with
  | nil =>
      rw [hkey] at hnames
      simp [← hnames]
  | cons first rest =>
      rw [hkey] at hnames
      obtain ⟨added, hadded, hfresh, -⟩ := addParameters_eq_append (m.entityType t).name .key
        path.parameters (first :: rest)
      simp only [hadded, List.drop_left, hfresh, hnames]
      have hne : (m.key t).isEmpty = false := by
        rw [← hnames]
        rfl
      rw [hne, Option.map_some]
      have hlast : ∀ template, ({ path.push (.key t (freshNames (path.parameters.map (·.name))
          (m.entityType t).name (m.key t))) .entity with
            template, collection := false, parameters := path.parameters ++ added } :
          ResourcePath).isTerminal = false := by
        intro template
        simp [push, isTerminal, Segment.isTerminal]
      rw [view, viewAfter, position_eq (hlast _), position_eq h]
      simp [push, Position.after, castBase, isCast, hfresh, hnames, ht]

/-! ## Kind by kind -/

theorem keyChildren_view (h : path.isTerminal = false) (ht : path.entityType = some t) :
    (path.keyChildren m).map view = (path.keySegments m t).map (path.viewAfter m) := by
  rw [keyChildren, keySegments]
  cases path.collection && !path.isCast with
  | false => rfl
  | true =>
      rw [if_pos rfl, Bool.true_and, ← Option.toList_map, withKey?_view h ht]
      cases (m.key t).isEmpty with
      | false => rfl
      | true => rfl

theorem navigationChildren_view (h : path.isTerminal = false) :
    (path.navigationChildren settings m t).map view
      = (path.navigationSegments settings m t).map (path.viewAfter m) := by
  rw [navigationChildren, navigationSegments]
  split
  · rw [List.map_map, List.map_map]
    exact List.map_congr_left fun n _ => withNavigation_view h n
  · rfl

theorem castChildren_view (h : path.isTerminal = false) :
    (path.castChildren settings m t).map view
      = (path.castSegments settings m t).map (path.viewAfter m) := by
  rw [castChildren, castSegments]
  split
  · rw [List.map_map, List.map_map]
    exact List.map_congr_left fun u _ => withCast_view h u
  · rfl

theorem operationChildren_view :
    (path.operationChildren settings m t).map view
      = (path.operationSegments settings m t).map (path.viewAfter m) := by
  rw [operationChildren, operationSegments]
  split
  · rw [List.map_map, List.map_map]
    exact List.map_congr_left fun o _ => withOperation_view o
  · rfl

theorem countChildren_view :
    (path.countChildren settings).map view
      = (path.countSegments settings).map (path.viewAfter m) := by
  rw [countChildren, countSegments]
  split
  · exact congrArg (fun v => [v]) withCount_view
  · rfl

theorem refChildren_view :
    path.refChildren.map view = path.refSegments.map (path.viewAfter m) := by
  rw [refChildren, refSegments]
  split
  · exact congrArg (fun v => [v]) withRef_view
  · rfl

/-- The paths directly below a path go on with each of the segments that follow. -/
theorem children_view (settings : Settings) (m : Model) (path : ResourcePath) :
    (path.children settings m).map view
      = (path.nextSegments settings m).map (path.viewAfter m) := by
  rw [children, nextSegments]
  cases h : path.isTerminal with
  | true => rfl
  | false =>
      cases ht : path.entityType with
      | none => rfl
      | some t =>
          simp only [Bool.false_eq_true, if_false, List.map_append]
          rw [keyChildren_view h ht, navigationChildren_view h, castChildren_view h,
            operationChildren_view, countChildren_view, refChildren_view]

theorem children_segments (settings : Settings) (m : Model) (path : ResourcePath) :
    (path.children settings m).map (·.segments)
      = (path.nextSegments settings m).map fun segment => path.segments ++ [segment] := by
  have hviews := congrArg (List.map Prod.fst) (children_view settings m path)
  rw [List.map_map, List.map_map] at hviews
  exact hviews

theorem exists_of_mem_children {child : ResourcePath} (h : child ∈ path.children settings m) :
    ∃ segment ∈ path.nextSegments settings m, child.segments = path.segments ++ [segment] ∧
      child.position = path.position.after m segment := by
  have hview : child.view ∈ (path.children settings m).map view := List.mem_map_of_mem h
  rw [children_view, List.mem_map] at hview
  obtain ⟨segment, hsegment, heq⟩ := hview
  obtain ⟨hsegments, hposition⟩ := Prod.ext_iff.mp heq
  exact ⟨segment, hsegment, hsegments.symm, hposition.symm⟩

theorem exists_mem_children {segment : Segment} (h : segment ∈ path.nextSegments settings m) :
    ∃ child ∈ path.children settings m, child.segments = path.segments ++ [segment] := by
  have hsegments : path.segments ++ [segment] ∈ (path.children settings m).map (·.segments) := by
    rw [children_segments]
    exact List.mem_map_of_mem h
  exact List.mem_map.mp hsegments

/-! ## What follows is what the position allows -/

theorem notInherited_eq {α : Type} [BEq α] (offered : EntityTypeHandle → List α) :
    path.notInherited offered t
      = match path.castBase with
        | none => offered t
        | some base => (offered t).filter fun x => !(offered base).contains x := by
  rw [notInherited, castBase]
  cases path.isCast with
  | false => rfl
  | true =>
      cases path.castFrom with
      | none => rfl
      | some base => rfl

theorem mem_notInherited {α : Type} [BEq α] [LawfulBEq α] {offered : EntityTypeHandle → List α}
    {x : α} : x ∈ path.notInherited offered t ↔
      x ∈ offered t ∧ ∀ base, path.castBase = some base → x ∉ offered base := by
  rw [notInherited_eq]
  cases path.castBase with
  | none => simp
  | some base => simp

theorem notInherited_nodup {α : Type} [BEq α] {offered : EntityTypeHandle → List α}
    (h : (offered t).Nodup) : (path.notInherited offered t).Nodup := by
  rw [notInherited_eq]
  cases path.castBase with
  | none => exact h
  | some base => exact h.filter _

/-- A cast knows the type before it. -/
def CastKnown (path : ResourcePath) : Prop := path.isCast = true → path.castFrom ≠ none

theorem CastKnown.isCast_eq_false_iff (h : path.CastKnown) :
    path.isCast = false ↔ path.castBase = none := by
  rw [castBase]
  cases hcast : path.isCast with
  | false => simp
  | true => simpa using h hcast

variable {segment : Segment}

theorem mem_keySegments :
    segment ∈ path.keySegments m t ↔
      segment = .key t (freshNames (path.parameters.map (·.name)) (m.entityType t).name (m.key t)) ∧
        path.collection = true ∧ path.isCast = false ∧ m.key t ≠ [] := by
  rw [keySegments, List.mem_ite_nil_right, List.mem_singleton]
  simp only [Bool.and_eq_true, Bool.not_eq_true', List.isEmpty_eq_false_iff]
  rw [and_comm, and_assoc]

theorem mem_navigationSegments (hm : m.Acyclic) :
    segment ∈ path.navigationSegments settings m t ↔
      ∃ n, segment = .navigation n ∧ path.collection = false ∧
        (path.depth : Int) < settings.maxNavigationDepth ∧ m.Offers t n ∧
        ∀ base, path.castBase = some base → ¬ m.Offers base n := by
  rw [navigationSegments, List.mem_ite_nil_right, List.mem_map]
  simp only [Bool.and_eq_true, Bool.not_eq_true', decide_eq_true_eq, mem_notInherited,
    Model.mem_navigationProperties_iff hm, Settings.lt_navigationDepth_iff]
  constructor
  · rintro ⟨⟨hc, hd⟩, n, hn, rfl⟩
    exact ⟨n, rfl, hc, hd, hn⟩
  · rintro ⟨n, rfl, hc, hd, hn⟩
    exact ⟨⟨hc, hd⟩, n, hn, rfl⟩

theorem mem_castSegments (hm : m.Hierarchical) :
    segment ∈ path.castSegments settings m t ↔
      ∃ u, segment = .typeCast u ∧ settings.typeCastPaths = true ∧ path.isCast = false ∧
        u ≠ t ∧ m.Inherits u t ∧ (m.entityType u).isAbstract = false := by
  rw [castSegments, List.mem_ite_nil_right, List.mem_map]
  simp only [Bool.and_eq_true, Bool.not_eq_true', List.mem_filter, Model.mem_derivedTypes_iff hm,
    and_assoc]
  constructor
  · rintro ⟨hs, hc, u, hne, hu, ha, rfl⟩
    exact ⟨u, rfl, hs, hc, hne, hu, ha⟩
  · rintro ⟨u, rfl, hs, hc, hne, hu, ha⟩
    exact ⟨hs, hc, u, hne, hu, ha, rfl⟩

theorem mem_operationSegments (hm : m.Acyclic) :
    segment ∈ path.operationSegments settings m t ↔
      ∃ o, segment = .operation o ∧ settings.operationPaths = true ∧
        m.BindsTo o t path.collection ∧
        ∀ base, path.castBase = some base → ¬ m.BindsTo o base path.collection := by
  rw [operationSegments, List.mem_ite_nil_right, List.mem_map]
  simp only [mem_notInherited, Model.mem_boundOperations_iff hm]
  constructor
  · rintro ⟨hs, o, ho, rfl⟩
    exact ⟨o, rfl, hs, ho⟩
  · rintro ⟨o, rfl, hs, ho⟩
    exact ⟨hs, o, ho, rfl⟩

theorem mem_countSegments :
    segment ∈ path.countSegments settings ↔
      segment = .count ∧ settings.countPaths = true ∧ path.collection = true := by
  rw [countSegments, List.mem_ite_nil_right, List.mem_singleton, Bool.and_eq_true, and_comm]

theorem mem_refSegments :
    segment ∈ path.refSegments ↔
      segment = .ref ∧ (path.kind == .navigationProperty && !path.containment) = true := by
  rw [refSegments, List.mem_ite_nil_right, List.mem_singleton, and_comm]

/-- The segments that follow a path are those its position allows. -/
theorem mem_nextSegments_iff (hm : m.Hierarchical) (h : path.CastKnown) :
    segment ∈ path.nextSegments settings m ↔ path.position.Allows m settings segment := by
  rw [nextSegments]
  cases hlast : path.isTerminal with
  | true =>
      rw [if_pos rfl, position_of_terminal hlast]
      exact iff_of_false List.not_mem_nil (Position.final_not_allows segment)
  | false =>
      rw [if_neg Bool.false_ne_true, position_eq hlast]
      cases ht : path.entityType with
      | none => cases segment <;> simp [Position.Allows]
      | some t =>
          simp only [List.mem_append, mem_keySegments, mem_navigationSegments hm.acyclic,
            mem_castSegments hm, mem_operationSegments hm.acyclic, mem_countSegments,
            mem_refSegments, h.isCast_eq_false_iff]
          cases segment with
          | key u names =>
              simp only [Position.Allows, Segment.key.injEq, Option.some.injEq]
              constructor
              · rintro (((((⟨⟨rfl, rfl⟩, hkey⟩ | h) | h) | h) | h) | h)
                · exact ⟨rfl, hkey.1, hkey.2.1, hkey.2.2, rfl⟩
                all_goals simp at h
              · rintro ⟨rfl, hcollection, hcast, hkey, rfl⟩
                exact Or.inl (Or.inl (Or.inl (Or.inl (Or.inl
                  ⟨⟨rfl, rfl⟩, hcollection, hcast, hkey⟩))))
          | _ => simp [Position.Allows]

/-! ## No segment twice -/

theorem keySegments_nodup : (path.keySegments m t).Nodup := by
  rw [keySegments]
  split
  · exact List.nodup_singleton _
  · exact List.nodup_nil

theorem navigationSegments_nodup (hm : m.Acyclic) :
    (path.navigationSegments settings m t).Nodup := by
  rw [navigationSegments]
  split
  · refine (notInherited_nodup (Model.navigationProperties_nodup hm t)).map ?_
    intro n n' h
    exact Segment.navigation.inj h
  · exact List.nodup_nil

theorem castSegments_nodup (hm : m.Hierarchical) : (path.castSegments settings m t).Nodup := by
  rw [castSegments]
  split
  · refine ((Model.derivedTypes_nodup hm t).filter _).map ?_
    intro u u' h
    exact Segment.typeCast.inj h
  · exact List.nodup_nil

theorem operationSegments_nodup : (path.operationSegments settings m t).Nodup := by
  rw [operationSegments]
  split
  · refine (notInherited_nodup (Model.boundOperations_nodup t path.collection)).map ?_
    intro o o' h
    exact Segment.operation.inj h
  · exact List.nodup_nil

theorem countSegments_nodup : (path.countSegments settings).Nodup := by
  rw [countSegments]
  split
  · exact List.nodup_singleton _
  · exact List.nodup_nil

theorem refSegments_nodup : path.refSegments.Nodup := by
  rw [refSegments]
  split
  · exact List.nodup_singleton _
  · exact List.nodup_nil

/-- No segment follows a path twice: within a kind they differ by their handles. -/
theorem nextSegments_nodup (hm : m.Hierarchical) : (path.nextSegments settings m).Nodup := by
  have hacyclic := hm.acyclic
  rw [nextSegments]
  split
  · exact List.nodup_nil
  · cases path.entityType with
    | none => exact List.nodup_nil
    | some t =>
        simp only [List.nodup_append, List.mem_append, mem_keySegments,
          mem_navigationSegments hacyclic, mem_castSegments hm, mem_operationSegments hacyclic,
          mem_countSegments, mem_refSegments]
        grind [keySegments_nodup, navigationSegments_nodup, castSegments_nodup,
          operationSegments_nodup, countSegments_nodup, refSegments_nodup]

/-! ## What a path below a path is -/

@[simp] theorem call_kind (operation : Operation) (name : String) :
    (path.call operation name).kind = path.kind := by
  rw [call]
  cases operation.kind with
  | action => rfl
  | function => rfl

theorem castKnown_of_kind_ne (h : path.kind ≠ .typeCast) :
    path.CastKnown := by
  intro hcast
  exact absurd (beq_iff_eq.mp hcast) h

theorem withKey?_eq_some {child : ResourcePath} (h : path.withKey? m = some child) :
    ∃ t names template parameters, path.entityType = some t ∧
      child =
        { path.push (.key t names) .entity with template, collection := false, parameters } := by
  rw [withKey?] at h
  cases ht : path.entityType with
  | none =>
      rw [ht] at h
      cases h
  | some t =>
      simp only [ht] at h
      cases hkey : keyOf m t with
      | nil =>
          rw [hkey] at h
          cases h
      | cons first rest =>
          rw [hkey] at h
          cases h
          exact ⟨t, _, _, _, rfl, rfl⟩

/-- What going one segment further does to a path. -/
inductive Follows (settings : Settings) (m : Model) (path : ResourcePath) : ResourcePath → Prop
  | key {child : ResourcePath} (hcollection : path.collection = true)
      (hcast : path.isCast = false) (h : path.withKey? m = some child) :
      Follows settings m path child
  | navigation {t : EntityTypeHandle} {n : NavigationHandle} (ht : path.entityType = some t)
      (hcollection : path.collection = false) (hdepth : path.depth < settings.navigationDepth)
      (hn : n ∈ path.notInherited m.navigationProperties t) :
      Follows settings m path (path.withNavigation m n)
  | typeCast {t u : EntityTypeHandle} (ht : path.entityType = some t)
      (henabled : settings.typeCastPaths = true) (hcast : path.isCast = false)
      (hu : u ∈ m.derivedTypes t) (habstract : (m.entityType u).isAbstract = false) :
      Follows settings m path (path.withCast m u)
  | operation {t : EntityTypeHandle} {o : OperationHandle} (ht : path.entityType = some t)
      (henabled : settings.operationPaths = true)
      (ho : o ∈ path.notInherited (fun u => m.boundOperations u path.collection) t) :
      Follows settings m path (path.withOperation m o)
  | count (henabled : settings.countPaths = true) (hcollection : path.collection = true) :
      Follows settings m path path.withCount
  | ref (hkind : path.kind = .navigationProperty) (hcontainment : path.containment = false) :
      Follows settings m path path.withRef

theorem follows_of_mem_children {child : ResourcePath} (h : child ∈ path.children settings m) :
    path.isTerminal = false ∧ Follows settings m path child := by
  rw [children] at h
  cases hlast : path.isTerminal with
  | true =>
      rw [hlast] at h
      cases h
  | false =>
      refine ⟨rfl, ?_⟩
      cases ht : path.entityType with
      | none =>
          rw [hlast, ht] at h
          cases h
      | some t =>
          simp only [hlast, ht, Bool.false_eq_true, if_false, List.mem_append, keyChildren,
            navigationChildren, castChildren, operationChildren, countChildren, refChildren,
            List.mem_ite_nil_right, Option.mem_toList, List.mem_map, List.mem_singleton,
            List.mem_filter, Bool.and_eq_true, Bool.not_eq_true', decide_eq_true_eq,
            beq_iff_eq] at h
          rcases h with ((((⟨hkey, h⟩ | ⟨hnavigation, n, hn, rfl⟩) | ⟨hcast, u, hu, rfl⟩) |
            ⟨henabled, o, ho, rfl⟩) | ⟨hcount, rfl⟩) | ⟨href, rfl⟩
          · exact .key hkey.1 hkey.2 h
          · exact .navigation ht hnavigation.1 hnavigation.2 hn
          · exact .typeCast ht hcast.1 hcast.2 hu.1 hu.2
          · exact .operation ht henabled ho
          · exact .count hcount.1 hcount.2
          · exact .ref href.1 href.2

/-- Only a cast makes a cast, and it notes the type that is there. -/
theorem castKnown_of_mem_children {child : ResourcePath} (h : child ∈ path.children settings m) :
    child.CastKnown := by
  cases (follows_of_mem_children h).2 with
  | key _ _ h =>
      obtain ⟨_, _, _, _, -, rfl⟩ := withKey?_eq_some h
      exact castKnown_of_kind_ne (by simp [push])
  | navigation => exact castKnown_of_kind_ne (by simp [withNavigation, push])
  | typeCast ht =>
      intro _
      simp [withCast, ht]
  | operation => exact castKnown_of_kind_ne (by simp [withOperation, push])
  | count => exact castKnown_of_kind_ne (by simp [withCount, push])
  | ref => exact castKnown_of_kind_ne (by simp [withRef, push])

end ResourcePath

end ODataApi
