import ODataApi.Capability.Record
import ODataApi.Proofs.Capability.Reading

/-!
# The records of the vocabulary

Every reader of the vocabulary is truthful (`Term.truthful`), and those of records read their
fields one by one (`Term.isRecord`), from the small records that others have in their fields up
to the records of the terms.
-/

namespace ODataApi

open Reader (IsRecord Truthful)

/-! ## Permissions -/

theorem AuthorizationScope.isRecord : IsRecord AuthorizationScope.read := by
  refine .intro ["Scope", "RestrictedProperties"] (.next .string fun scope => ?_)
    (by decide) (by decide)
  cases scope with
  | none => exact .pure _ _
  | some scope => exact .next .string fun _ => .pure [] _

theorem Permission.isRecord : IsRecord Permission.read :=
  .intro _ (.next .string fun _ => .next AuthorizationScope.isRecord.truthful.listOf fun _ =>
    .pure [] _) (by decide) (by decide)

theorem readPermissions_readsFields :
    ReadsFields ["Permissions", "Permission"] readPermissions := by
  refine .next Permission.isRecord.truthful.listOf fun permissions => ?_
  cases permissions with
  | some permissions => exact .pure _ _
  | none => exact .next Permission.isRecord.truthful fun _ => .pure [] _

/-! ## Custom parameters -/

theorem ExampleValue.isRecord : IsRecord ExampleValue.read :=
  .intro _ (.next .string fun _ => .next .json fun _ => .next .string fun _ => .pure [] _)
    (by decide) (by decide)

theorem CustomParameter.isRecord : IsRecord CustomParameter.read := by
  refine .intro ["Name", "Description", "DocumentationURL", "Required", "ExampleValues"]
    (.next .string fun name => ?_) (by decide) (by decide)
  cases name with
  | none => exact .pure _ _
  | some name =>
      exact .next .string fun _ => .next .string fun _ => .next .bool fun _ =>
        .next ExampleValue.isRecord.truthful.listOf fun _ => .pure [] _

theorem CustomParameter.truthful_listOf : Truthful (.listOf CustomParameter.read) :=
  CustomParameter.isRecord.truthful.listOf

/-! ## Reading and modifying -/

theorem ReadRestrictionsBase.readFields_readsFields :
    ReadsFields
      ["Readable", "Permissions", "Permission", "CustomHeaders", "CustomQueryOptions",
        "Description"]
      ReadRestrictionsBase.readFields :=
  .next .bool fun _ => readPermissions_readsFields.bind fun _ =>
    .next CustomParameter.truthful_listOf fun _ => .next CustomParameter.truthful_listOf fun _ =>
    .next .string fun _ => .pure [] _

theorem ReadRestrictionsBase.isRecord : IsRecord ReadRestrictionsBase.read :=
  .intro _ (readFields_readsFields.bind fun _ => .pure [] _) (by decide) (by decide)

theorem ReadRestrictions.isRecord : IsRecord ReadRestrictions.read :=
  .intro _ (ReadRestrictionsBase.readFields_readsFields.bind fun _ =>
    .next ReadRestrictionsBase.isRecord.truthful fun _ => .pure [] _) (by decide) (by decide)

theorem ModificationQueryOptions.isRecord : IsRecord ModificationQueryOptions.read :=
  .intro _ (.next .bool fun _ => .next .bool fun _ => .next .bool fun _ => .next .bool fun _ =>
    .next .bool fun _ => .next .bool fun _ => .pure [] _) (by decide) (by decide)

theorem InsertRestrictions.isRecord : IsRecord InsertRestrictions.read :=
  .intro _ (.next .bool fun _ => .next .paths fun _ => .next .paths fun _ => .next .int fun _ =>
    readPermissions_readsFields.bind fun _ =>
    .next ModificationQueryOptions.isRecord.truthful fun _ =>
    .next CustomParameter.truthful_listOf fun _ => .next CustomParameter.truthful_listOf fun _ =>
    .next .string fun _ => .pure [] _) (by decide) (by decide)

theorem UpdateMethod.truthful : Truthful UpdateMethod.read :=
  .of_cases fun value => by
    rcases Truthful.enumMember_cases value with ⟨text, -, htaken⟩ | hrefused
    · rw [UpdateMethod.read, htaken, Reading.pure_bind]
      dsimp only
      split
      · exact Or.inl (List.forall_mem_nil _)
      · exact Or.inl (List.forall_mem_nil _)
      · exact Or.inr ⟨_, Truthful.mismatch_eq (by decide) value⟩
    · rw [UpdateMethod.read, hrefused, Truthful.mismatch_eq (by decide) value]
      exact Or.inr ⟨_, rfl⟩

theorem UpdateRestrictions.isRecord : IsRecord UpdateRestrictions.read :=
  .intro _ (.next UpdateMethod.truthful fun _ => .next .bool fun _ => .next .bool fun _ =>
    .next .paths fun _ => .next .int fun _ => readPermissions_readsFields.bind fun _ =>
    .next ModificationQueryOptions.isRecord.truthful fun _ =>
    .next CustomParameter.truthful_listOf fun _ => .next CustomParameter.truthful_listOf fun _ =>
    .next .string fun _ => .pure [] _) (by decide) (by decide)

theorem DeleteRestrictions.isRecord : IsRecord DeleteRestrictions.read :=
  .intro _ (.next .bool fun _ => .next .paths fun _ => .next .int fun _ =>
    readPermissions_readsFields.bind fun _ => .next CustomParameter.truthful_listOf fun _ =>
    .next CustomParameter.truthful_listOf fun _ => .next .string fun _ => .pure [] _)
    (by decide) (by decide)

/-! ## Query options -/

theorem CountRestrictions.isRecord : IsRecord CountRestrictions.read :=
  .intro _ (.next .bool fun _ => .next .paths fun _ => .next .paths fun _ => .pure [] _)
    (by decide) (by decide)

theorem FilterRestrictions.isRecord : IsRecord FilterRestrictions.read :=
  .intro _ (.next .bool fun _ => .next .bool fun _ => .next .paths fun _ => .next .paths fun _ =>
    .next .int fun _ => .pure [] _) (by decide) (by decide)

theorem SearchRestrictions.isRecord : IsRecord SearchRestrictions.read :=
  .intro _ (.next .bool fun _ => .next .enumMember fun _ => .pure [] _) (by decide) (by decide)

theorem SortRestrictions.isRecord : IsRecord SortRestrictions.read :=
  .intro _ (.next .bool fun _ => .next .paths fun _ => .next .paths fun _ => .next .paths fun _ =>
    .pure [] _) (by decide) (by decide)

theorem SelectSupport.isRecord : IsRecord SelectSupport.read :=
  .intro _ (.next .bool fun _ => .next .bool fun _ => .next .bool fun _ => .next .bool fun _ =>
    .next .bool fun _ => .next .bool fun _ => .next .bool fun _ => .next .bool fun _ =>
    .next .bool fun _ => .pure [] _) (by decide) (by decide)

theorem ExpandRestrictions.isRecord : IsRecord ExpandRestrictions.read :=
  .intro _ (.next .bool fun _ => .next .paths fun _ => .next .int fun _ => .pure [] _)
    (by decide) (by decide)

theorem Tag.truthful : Truthful Tag.read :=
  .of_shape "bool" (by decide) fun value => by
    cases value with
    | bool b | null => exact Or.inl (List.forall_mem_nil _)
    | _ => exact Or.inr rfl

/-! ## Navigation -/

/-- An unknown member is called a member, whether it is one or a string. -/
theorem Navigability.truthful : Truthful Navigability.read :=
  .of_cases fun value => by
    rcases Truthful.enumMember_cases value with ⟨text, hvalue, htaken⟩ | hrefused
    · rw [Navigability.read, htaken, Reading.pure_bind]
      dsimp only
      cases Navigability.ofMember? (Name.last text) with
      | some navigability => exact Or.inl (List.forall_mem_nil _)
      | none =>
          refine Or.inr ⟨"Recursive, Single or None", ?_⟩
          rcases hvalue with rfl | rfl
          · rfl
          · rfl
    · rw [Navigability.read, hrefused, Truthful.mismatch_eq (by decide) value]
      exact Or.inr ⟨_, rfl⟩

theorem NavigationPropertyRestriction.isRecord : IsRecord NavigationPropertyRestriction.read := by
  refine .intro ["NavigationProperty", "Navigability", "ReadRestrictions", "InsertRestrictions",
    "UpdateRestrictions", "DeleteRestrictions", "CountRestrictions", "FilterRestrictions",
    "SearchRestrictions", "SortRestrictions", "TopSupported", "SkipSupported", "IndexableByKey"]
    (.next .path fun path => ?_) (by decide) (by decide)
  cases path with
  | none => exact .pure _ _
  | some path =>
      exact .next Navigability.truthful fun _ => .next ReadRestrictions.isRecord.truthful fun _ =>
        .next InsertRestrictions.isRecord.truthful fun _ =>
        .next UpdateRestrictions.isRecord.truthful fun _ =>
        .next DeleteRestrictions.isRecord.truthful fun _ =>
        .next CountRestrictions.isRecord.truthful fun _ =>
        .next FilterRestrictions.isRecord.truthful fun _ =>
        .next SearchRestrictions.isRecord.truthful fun _ =>
        .next SortRestrictions.isRecord.truthful fun _ => .next .bool fun _ => .next .bool fun _ =>
        .next .bool fun _ => .pure [] _

theorem NavigationRestrictions.isRecord : IsRecord NavigationRestrictions.read :=
  .intro _ (.next Navigability.truthful fun _ =>
    .next NavigationPropertyRestriction.isRecord.truthful.listOf fun _ => .pure [] _)
    (by decide) (by decide)

/-! ## Terms -/

/-- The term has a single boolean in place of a record. -/
def Term.IsTag (term : Term) : Prop :=
  term = .indexableByKey ∨ term = .topSupported ∨ term = .skipSupported

theorem Term.isRecord {term : Term} (h : ¬ term.IsTag) : IsRecord term.read := by
  cases term with
  | readRestrictions => exact ReadRestrictions.isRecord
  | insertRestrictions => exact InsertRestrictions.isRecord
  | updateRestrictions => exact UpdateRestrictions.isRecord
  | deleteRestrictions => exact DeleteRestrictions.isRecord
  | countRestrictions => exact CountRestrictions.isRecord
  | filterRestrictions => exact FilterRestrictions.isRecord
  | searchRestrictions => exact SearchRestrictions.isRecord
  | sortRestrictions => exact SortRestrictions.isRecord
  | selectSupport => exact SelectSupport.isRecord
  | expandRestrictions => exact ExpandRestrictions.isRecord
  | navigationRestrictions => exact NavigationRestrictions.isRecord
  | indexableByKey => exact absurd (Or.inl rfl) h
  | topSupported => exact absurd (Or.inr (Or.inl rfl)) h
  | skipSupported => exact absurd (Or.inr (Or.inr rfl)) h

theorem Term.truthful (term : Term) : Truthful term.read := by
  by_cases h : term.IsTag
  · rcases h with rfl | rfl | rfl
    · exact Tag.truthful
    · exact Tag.truthful
    · exact Tag.truthful
  · exact (Term.isRecord h).truthful

end ODataApi
