/-!
# Names

Types, operations and containers have a namespace and a simple name, with a dot
between them.  A name with a dot in it is taken to be qualified already.  The path
of a member of a container or type joins two names with a slash.
-/

namespace ODataApi

namespace Name

/-- Whether a name carries a namespace. -/
def isQualified (name : String) : Bool := name.toList.contains '.'

/-- The part after the last dot, or the whole name if it has none. -/
def simple (name : String) : String :=
  String.ofList (name.toList.reverse.takeWhile (· != '.')).reverse

/-- A namespace and a simple name in one. -/
def join (ns simple : String) : String := ns ++ "." ++ simple

/-- The qualified form of a name that is qualified or belongs to `ns`. -/
def qualify (ns name : String) : String := if isQualified name then name else join ns name

/-- The path of a member. -/
def member (owner name : String) : String := owner ++ "/" ++ name

/-- The parts of a path around its first slash. -/
def splitMember? (path : String) : Option (String × String) :=
  match path.toList.span (· != '/') with
  | (owner, _ :: name) => some (String.ofList owner, String.ofList name)
  | (_, []) => none

/-- The part after the last slash, or the whole path if it has none. -/
def last (path : String) : String :=
  String.ofList (path.toList.reverse.takeWhile (· != '/')).reverse

/-! ## Tests -/

example : (simple "A.B.C", simple "C", simple "A.") = ("C", "C", "") := by decide
example : (qualify "A" "B", qualify "A" "C.B") = ("A.B", "C.B") := by decide
example : splitMember? "A.B/c/d" = some ("A.B", "c/d") := by decide
example : splitMember? "A.B" = none := by decide

end Name

end ODataApi
