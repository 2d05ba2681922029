/-!
# Terms of the capabilities vocabulary

A term says what clients may do with an element.  Annotations name it with the
namespace of the vocabulary in front.
-/

namespace ODataApi

/-- The namespace of the capabilities vocabulary. -/
def capabilityNamespace : String := "Org.OData.Capabilities.V1"

/-- A term of the capabilities vocabulary. -/
inductive Term
  | readRestrictions
  | insertRestrictions
  | updateRestrictions
  | deleteRestrictions
  | countRestrictions
  | filterRestrictions
  | searchRestrictions
  | sortRestrictions
  | selectSupport
  | expandRestrictions
  | navigationRestrictions
  | indexableByKey
  | topSupported
  | skipSupported
deriving DecidableEq, Hashable, Repr, Inhabited

namespace Term

/-- Every term. -/
def all : List Term :=
  [readRestrictions, insertRestrictions, updateRestrictions, deleteRestrictions,
    countRestrictions, filterRestrictions, searchRestrictions, sortRestrictions, selectSupport,
    expandRestrictions, navigationRestrictions, indexableByKey, topSupported, skipSupported]

/-- The name without the namespace. -/
def name : Term → String
  | readRestrictions => "ReadRestrictions"
  | insertRestrictions => "InsertRestrictions"
  | updateRestrictions => "UpdateRestrictions"
  | deleteRestrictions => "DeleteRestrictions"
  | countRestrictions => "CountRestrictions"
  | filterRestrictions => "FilterRestrictions"
  | searchRestrictions => "SearchRestrictions"
  | sortRestrictions => "SortRestrictions"
  | selectSupport => "SelectSupport"
  | expandRestrictions => "ExpandRestrictions"
  | navigationRestrictions => "NavigationRestrictions"
  | indexableByKey => "IndexableByKey"
  | topSupported => "TopSupported"
  | skipSupported => "SkipSupported"

/-- The name with the namespace. -/
def qualifiedName (term : Term) : String := capabilityNamespace ++ "." ++ term.name

/-- The term of a qualified name. -/
def ofQualifiedName? (name : String) : Option Term :=
  all.find? fun term => term.qualifiedName == name

/-- The term of a name without namespace. -/
def ofName? (name : String) : Option Term := all.find? fun term => term.name == name

/-! ## Tests -/

example : ofQualifiedName? "Org.OData.Capabilities.V1.TopSupported" = some topSupported := by
  decide +kernel
example : ofQualifiedName? "TopSupported" = none := by decide +kernel

end Term

end ODataApi
