import ODataApi.Capability.Navigation
import ODataApi.Capability.Term

/-!
# The record of each term

Every term has one type of record, with a reader and a record of defaults that
stands for an element that says nothing.
-/

namespace ODataApi

/-- An annotation value that could not be read in full: where and why. -/
structure DecodeIssue where
  /-- The term. -/
  term : Term
  /-- The name of the annotated element. -/
  element : String
  /-- The location in the value, empty for the value itself. -/
  field : String
  /-- What was expected. -/
  expected : String
  /-- The shape that was found. -/
  found : String
deriving DecidableEq, Repr

/-- The issue of a mismatch in the value at `base` of an annotation. -/
def Mismatch.issue (m : Mismatch) (term : Term) (element base : String) : DecodeIssue where
  term
  element
  field := locationText base m.location
  expected := m.expected
  found := m.found

namespace Term

/-- The type of the record of a term. -/
abbrev Record : Term → Type
  | .readRestrictions => ReadRestrictions
  | .insertRestrictions => InsertRestrictions
  | .updateRestrictions => UpdateRestrictions
  | .deleteRestrictions => DeleteRestrictions
  | .countRestrictions => CountRestrictions
  | .filterRestrictions => FilterRestrictions
  | .searchRestrictions => SearchRestrictions
  | .sortRestrictions => SortRestrictions
  | .selectSupport => SelectSupport
  | .expandRestrictions => ExpandRestrictions
  | .navigationRestrictions => NavigationRestrictions
  | .indexableByKey => Tag
  | .topSupported => Tag
  | .skipSupported => Tag

/-- The reader of the record of a term. -/
def read : (term : Term) → Reader term.Record
  | .readRestrictions => ReadRestrictions.read
  | .insertRestrictions => InsertRestrictions.read
  | .updateRestrictions => UpdateRestrictions.read
  | .deleteRestrictions => DeleteRestrictions.read
  | .countRestrictions => CountRestrictions.read
  | .filterRestrictions => FilterRestrictions.read
  | .searchRestrictions => SearchRestrictions.read
  | .sortRestrictions => SortRestrictions.read
  | .selectSupport => SelectSupport.read
  | .expandRestrictions => ExpandRestrictions.read
  | .navigationRestrictions => NavigationRestrictions.read
  | .indexableByKey => Tag.read
  | .topSupported => Tag.read
  | .skipSupported => Tag.read

/-- The record of an element that says nothing. -/
def defaults : (term : Term) → term.Record
  | .readRestrictions => {}
  | .insertRestrictions => {}
  | .updateRestrictions => {}
  | .deleteRestrictions => {}
  | .countRestrictions => {}
  | .filterRestrictions => {}
  | .searchRestrictions => {}
  | .sortRestrictions => {}
  | .selectSupport => {}
  | .expandRestrictions => {}
  | .navigationRestrictions => {}
  | .indexableByKey => {}
  | .topSupported => {}
  | .skipSupported => {}

end Term

end ODataApi
