/-!
# Blank characters

Two sets of blank characters: those of ASCII, and those with the Unicode property
`White_Space`.  A set is given by its ranges of code points.
-/

namespace ODataApi.Character

/-- Whether a character is in one of the ranges, each with its first and its last code
point. -/
def isWithin (ranges : List (Nat × Nat)) (c : Char) : Bool :=
  ranges.any fun (first, last) => first ≤ c.toNat && c.toNat ≤ last

/-- The ranges of the characters with the property `White_Space`. -/
def spaceRanges : List (Nat × Nat) :=
  [(0x9, 0xd), (0x20, 0x20), (0x85, 0x85), (0xa0, 0xa0), (0x1680, 0x1680), (0x2000, 0x200a),
    (0x2028, 0x2029), (0x202f, 0x202f), (0x205f, 0x205f), (0x3000, 0x3000)]

/-- The characters with the property `White_Space`. -/
def isSpace (c : Char) : Bool := isWithin spaceRanges c

/-- The blank characters of ASCII.  The vertical tab is not one. -/
def isBlank (c : Char) : Bool :=
  c == ' ' || c == '\t' || c == '\n' || c == '\r' || c == '\x0c'

/-- Characters without those at both ends that are in a set. -/
def trim (set : Char → Bool) (cs : List Char) : List Char :=
  ((cs.dropWhile set).reverse.dropWhile set).reverse

/-! ## Tests -/

example : " \t\n\r\x0b\x0c\u00a0\u3000".toList.all isSpace = true := by decide +kernel
example : "\u200b\x1c_".toList.any isSpace = false := by decide +kernel
example : "\x0b\u00a0".toList.any isBlank = false := by decide +kernel
example : trim isSpace "\u00a0 a b\x0b".toList = "a b".toList := by decide +kernel

end ODataApi.Character
