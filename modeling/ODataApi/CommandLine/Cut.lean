/-!
# Cutting texts

Some parts of a text are given by positions that count bytes.  A position can then be
within a character, and a part that starts or ends there does not exist.  `TextFault`
tells such a cut from a text that has not got the form it should have.
-/

namespace ODataApi.CommandLine

/-- What is wrong with a text. -/
inductive TextFault
  /-- It has not got the form it should have. -/
  | malformed
  /-- A part starts or ends within a character. -/
  | torn
deriving DecidableEq, Repr

/-- Characters in two, the first of which take a number of bytes. -/
def splitBytes : (size : Nat) → List Char → Except TextFault (List Char × List Char)
  | 0, cs => .ok ([], cs)
  | _ + 1, [] => .error .torn
  | size + 1, c :: rest =>
    if c.utf8Size ≤ size + 1 then
      (splitBytes (size + 1 - c.utf8Size) rest).map fun (first, rest) => (c :: first, rest)
    else .error .torn
termination_by structural _ cs => cs

/-- The characters up to a position. -/
def partTo (cs : List Char) (stop : Nat) : Except TextFault (List Char) :=
  (splitBytes stop cs).map (·.1)

/-- The characters from a position on. -/
def partFrom (cs : List Char) (first : Nat) : Except TextFault (List Char) :=
  (splitBytes first cs).map (·.2)

/-- The characters between two positions. -/
def part (cs : List Char) (first stop : Nat) : Except TextFault (List Char) := do
  partTo (← partFrom cs first) (stop - first)

/-! ## Tests -/

example : (match part "aéb".toList 1 3 with | .ok cs => cs == ['é'] | _ => false) = true := by
  decide +kernel
example : (match part "aéb".toList 2 3 with | .error .torn => true | _ => false) = true := by
  decide +kernel

end ODataApi.CommandLine
