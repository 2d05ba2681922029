import Mathlib.Data.List.DropRight
import ODataApi.Proofs.Path.Narrowing

/-!
# Longer navigation paths

Annotations write the navigation properties and casts of a path one after another, with slashes in
between and without the casts at the end.  Casts that are left out at the end of a path stand in
the middle of a longer one, and nothing else changes in what is written: the navigation path of a
path is an initial part of that of every path that goes on from it
(`ResourcePath.begins_navigationPath`), and it follows no more navigation properties
(`ResourcePath.DepthCounted.depth_le`).
-/

namespace ODataApi

/-! ## Initial parts -/

/-- Whether a navigation path is another one or goes on after a slash to be it. -/
def Begins (start path : String) : Prop := start = path ∨ ∃ rest, path = start ++ "/" ++ rest

namespace Begins

variable {start path : String}

theorem refl (path : String) : Begins path path := Or.inl rfl

theorem eq_or_length_lt (h : Begins start path) : start = path ∨ start.length < path.length := by
  obtain rfl | ⟨rest, rfl⟩ := h
  · exact Or.inl rfl
  · refine Or.inr ?_
    rw [String.length_append, String.length_append]
    have hslash : "/".length = 1 := rfl
    omega

theorem head_eq (h : Begins start path) :
    NavigationRestrictions.head path = NavigationRestrictions.head start := by
  obtain rfl | ⟨rest, rfl⟩ := h
  · rfl
  have hchars : (start ++ "/" ++ rest).toList = start.toList ++ '/' :: rest.toList := by simp
  rw [NavigationRestrictions.head, NavigationRestrictions.head, hchars, List.takeWhile_append]
  -- either a slash inside the start ends the first part or the one after it does
  split
  case isTrue hwhole =>
    have hstart := (List.takeWhile_prefix (· != '/')).eq_of_length hwhole
    rw [List.takeWhile_cons_of_neg (by decide), List.append_nil, hstart]
  case isFalse => rfl

/-- The first part is an initial part. -/
theorem head (path : String) : Begins (NavigationRestrictions.head path) path := by
  have hsplit := List.takeWhile_append_dropWhile (p := (· != '/')) (l := path.toList)
  cases hrest : path.toList.dropWhile (· != '/') with
  | nil =>
      rw [hrest, List.append_nil] at hsplit
      refine Or.inl ?_
      rw [NavigationRestrictions.head, hsplit, String.ofList_toList]
  | cons slash rest =>
      have hslash : (slash != '/') = false := by
        simpa [hrest] using
          List.head_dropWhile_not (· != '/') (l := path.toList) (by simp [hrest])
      obtain rfl : slash = '/' := by simpa using hslash
      refine Or.inr ⟨String.ofList rest, String.toList_inj.mp ?_⟩
      rw [hrest] at hsplit
      simpa [NavigationRestrictions.head] using hsplit.symm

theorem intercalate {names longer : List String} (h : names <+: longer) (hne : names ≠ []) :
    Begins ("/".intercalate names) ("/".intercalate longer) := by
  obtain ⟨rest, rfl⟩ := h
  cases rest with
  | nil =>
      rw [List.append_nil]
      exact refl _
  | cons name rest =>
      exact Or.inr ⟨_, String.intercalate_append_of_ne_nil hne (List.cons_ne_nil _ _)⟩

end Begins

/-! ## What is left out at the end -/

/-- What is left out at the end of a list is not left out any more once something is kept after
it. -/
theorem rdropWhile_isPrefix {α : Type} (p : α → Bool) {items longer : List α}
    (h : items <+: longer) : items.rdropWhile p <+: longer.rdropWhile p := by
  obtain ⟨rest, rfl⟩ := h
  induction rest using List.reverseRecOn with
  | nil => simp only [List.append_nil, List.prefix_rfl]
  | append_singleton rest item ih =>
      rw [← List.append_assoc, List.rdropWhile_concat]
      split
      case isTrue => exact ih
      case isFalse =>
        rw [List.append_assoc]
        exact (List.rdropWhile_prefix p items).trans (List.prefix_append _ _)

namespace ResourcePath

variable {m : Model} {path longer : ResourcePath}

/-- The names on the navigation path of a path. -/
def navigationNames (m : Model) (path : ResourcePath) : List String :=
  (path.segments.tail.filterMap (navigationName? m)).rdropWhile Name.isQualified

theorem navigationPath_eq (h : path.depth ≠ 0) :
    path.navigationPath m = "/".intercalate (path.navigationNames m) := by
  rw [navigationPath, if_neg h, navigationNames, List.rdropWhile]

theorem navigationNames_isPrefix (h : path.segments <+: longer.segments)
    (hne : path.segments ≠ []) : path.navigationNames m <+: longer.navigationNames m := by
  obtain ⟨rest, hrest⟩ := h
  refine rdropWhile_isPrefix _ ?_
  rw [← hrest, List.tail_append_of_ne_nil hne, List.filterMap_append]
  exact List.prefix_append _ _

namespace DepthCounted

theorem depth_le (h : path.DepthCounted) (hlonger : longer.DepthCounted)
    (hbelow : path.segments <+: longer.segments) : path.depth ≤ longer.depth := by
  rw [h, hlonger]
  exact hbelow.sublist.countP_le

theorem segments_ne_nil (h : path.DepthCounted) (hdepth : path.depth ≠ 0) :
    path.segments ≠ [] := by
  intro hnil
  rw [DepthCounted, hnil, List.countP_nil] at h
  exact hdepth h

end DepthCounted

/-- The navigation path of a path begins that of a longer one, unless there is nothing on it. -/
theorem begins_navigationPath (h : path.segments <+: longer.segments)
    (hne : path.segments ≠ []) (hdepth : path.depth ≠ 0) (hlonger : longer.depth ≠ 0) :
    path.navigationPath m = "" ∨
      Begins (path.navigationPath m) (longer.navigationPath m) := by
  rw [navigationPath_eq hdepth, navigationPath_eq hlonger]
  cases hnames : path.navigationNames m with
  | nil => exact Or.inl String.intercalate_nil
  | cons name names =>
      refine Or.inr (Begins.intercalate ?_ (List.cons_ne_nil _ _))
      rw [← hnames]
      exact navigationNames_isPrefix h hne

end ResourcePath

end ODataApi
