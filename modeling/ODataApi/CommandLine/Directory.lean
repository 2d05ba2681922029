/-!
# Directories in memory

A directory holds texts by the components of their paths.  A path leads through
directories only, so a file cannot be written into one that does not exist.  No path
leaves the directory: neither one that starts at the root of a file system nor one
that goes above the directory leads anywhere, but for those `isNullDevice` knows.  Names
and paths have a greatest length, in bytes.
-/

namespace ODataApi.CommandLine

/-- The files of a directory and of the directories in it. -/
structure Directory where
  /-- Texts by the components of their paths, the latest first. -/
  files : List (List String × String) := []
deriving DecidableEq, Repr, Inhabited

/-! ## Paths -/

/-- The greatest length of a name. -/
def maxNameSize : Nat := 255

/-- The length of a path that is too long. -/
def pathSizeLimit : Nat := 4096

/-- The place that components lead to from a directory.  All but the last are
directories or lead to the directory above, if there is one. -/
def follow? (isDirectory : List String → Bool) (above? : List String → Option (List String))
    (place : List String) : List String → Option (List String)
  | [] => none
  | [name] =>
    if ["", ".", ".."].contains name || maxNameSize < name.utf8ByteSize then none
    else some (place ++ [name])
  | name :: rest =>
    if name = "" || name = "." then follow? isDirectory above? place rest
    else if name = ".." then
      (above? place).bind fun place => follow? isDirectory above? place rest
    else if isDirectory (place ++ [name]) then follow? isDirectory above? (place ++ [name]) rest
    else none

/-- Whether a path is that of the device that is empty and keeps nothing that is written
to it.  The root of a file system is its own directory above. -/
def isNullDevice (path : String) : Bool :=
  path.startsWith "/" && path.utf8ByteSize < pathSizeLimit
    && follow? (· == ["dev"]) (fun place => some place.dropLast) [] (path.splitOn "/")
      == some ["dev", "null"]

/-! ## Files -/

namespace Directory

/-- Whether a place is a directory: the directory itself, or one with files. -/
def isDirectory (directory : Directory) (place : List String) : Bool :=
  place.isEmpty || directory.files.any fun file => place.isPrefixOf file.1 && file.1 != place

/-- The place that components lead to. -/
def walk? (directory : Directory) (components : List String) : Option (List String) :=
  follow? directory.isDirectory
    (fun place => if place.isEmpty then none else some place.dropLast) [] components

/-- The place of a file. -/
def place? (directory : Directory) (path : String) : Option (List String) :=
  if path.startsWith "/" || pathSizeLimit ≤ path.utf8ByteSize then none
  else directory.walk? (path.splitOn "/")

/-- The text of a file. -/
def read? (directory : Directory) (path : String) : Option String :=
  (directory.place? path).bind fun place => directory.files.lookup place

/-- The directory with a file written, if there can be one. -/
def write? (directory : Directory) (path text : String) : Option Directory := do
  let place ← directory.place? path
  if directory.isDirectory place then none else some ⟨(place, text) :: directory.files⟩

/-- A directory with named files. -/
def ofList (files : List (String × String)) : Directory :=
  ⟨files.map fun (path, text) =>
    ((path.splitOn "/").filter fun name => name != "" && name != ".", text)⟩

/-! ## Tests -/

example : walk? ⟨[(["a", "b"], "x")]⟩ [".", "a", "..", "a", "b"] = some ["a", "b"] := by
  decide +kernel
example : walk? ⟨[(["a", "b"], "x")]⟩ ["b", "a"] = none := by decide +kernel
example : walk? ⟨[(["a", "b"], "x")]⟩ ["a", ""] = none := by decide +kernel
example : follow? (· == ["dev"]) (fun place => some place.dropLast) [] ["", "..", "dev", "", "null"]
    = some ["dev", "null"] := by decide +kernel

end Directory

end ODataApi.CommandLine
