/-!
# Dictionaries

A dictionary is a list of named values in the order of the names, each name once.
Names are ordered by code points, which is also the order of their UTF-8 bytes.
`insert` keeps the order and replaces the value of a name that is there, so of
repeated names in a list the last one counts for `ofList`.
-/

namespace ODataApi

/-- Values by name, sorted. -/
abbrev Dictionary (α : Type) := List (String × α)

namespace Dictionary

variable {α : Type}

/-- Set the value of a name. -/
def insert (name : String) (value : α) : Dictionary α → Dictionary α
  | [] => [(name, value)]
  | (other, old) :: rest =>
    if name < other then (name, value) :: (other, old) :: rest
    else if name = other then (name, value) :: rest
    else (other, old) :: insert name value rest

/-- The dictionary of a list of named values. -/
def ofList (entries : List (String × α)) : Dictionary α :=
  entries.foldl (fun d entry => insert entry.1 entry.2 d) []

/-- The value of a name. -/
def get? (name : String) (d : Dictionary α) : Option α := d.lookup name

/-- Remove a name. -/
def erase (name : String) (d : Dictionary α) : Dictionary α :=
  d.filter fun entry => entry.1 != name

/-! ## Tests -/

example : ofList [("b", 1), ("a", 2), ("b", 3)] = [("a", 2), ("b", 3)] := by decide

end Dictionary

end ODataApi
