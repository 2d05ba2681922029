/-!
# Patterns

A pattern is a regular expression, as a log filter matches the value of a field with
one.  The tree of a pattern keeps what decides whether the pattern can be used.

* Its flags.  A flag holds from where it is set to the end of the group.  Two flags
  matter here: `i` ignores case and `u`, which is set at first, matches characters
  and not bytes.
* Its depth, the number of nodes with parts on the way to a leaf.  It is at most
  `maxDepth`.

There are no tables of characters.  So a pattern that matches characters can neither
ignore the case of one nor name a class of them with a letter, and it has no word
boundaries.  A pattern that matches bytes does not match a byte that is no character
of ASCII by itself.
-/

namespace ODataApi.CommandLine

/-- A change of flags: the letters that are set, and those that are unset if there is
a minus sign. -/
structure FlagChange where
  /-- The flags that are set. -/
  set : List Char := []
  /-- The flags behind the minus sign. -/
  unset : Option (List Char) := none
deriving DecidableEq, Repr, Inhabited

/-- A flag after a change. -/
def FlagChange.apply (change : FlagChange) (flag : Char) (value : Bool) : Bool :=
  change.set.contains flag || (value && !(change.unset.getD []).contains flag)

namespace Pattern

/-- A part of a pattern without parts. -/
inductive Atom
  /-- A character.  `byte` says whether it is written as a byte in hexadecimal. -/
  | literal (c : Char) (byte : Bool)
  /-- A class named with a letter, such as that of the digits. -/
  | named (negated : Bool)
  /-- Any character of a line. -/
  | dot
  /-- The start or end of a line or text. -/
  | anchor
  | wordBoundary
deriving DecidableEq, Repr

/-- What stands between the brackets of a class. -/
inductive CharacterSet
  | empty
  | atom (atom : Atom)
  | range (first last : Char)
  /-- A class named in brackets and colons. -/
  | posix (negated : Bool)
  | bracket (negated : Bool) (set : CharacterSet)
  | union (sets : List CharacterSet)
  /-- An intersection or a difference. -/
  | operation (left right : CharacterSet)
deriving Inhabited

end Pattern

open Pattern in
/-- A pattern. -/
inductive Pattern
  | empty
  | atom (atom : Atom)
  /-- A change of flags up to the end of the group. -/
  | flags (change : FlagChange)
  | bracket (negated : Bool) (set : CharacterSet)
  | repetition (pattern : Pattern)
  /-- A group, with the flags it changes. -/
  | group (change : FlagChange) (pattern : Pattern)
  | sequence (patterns : List Pattern)
  | alternation (patterns : List Pattern)
deriving Inhabited

namespace Pattern

/-! ## Depth -/

mutual

/-- The number of nodes with parts on the longest way to a leaf of a set. -/
def CharacterSet.depth : CharacterSet → Nat
  | .bracket _ set => set.depth + 1
  | .union sets => CharacterSet.depthOfAll sets + 1
  | .operation left right => max left.depth right.depth + 1
  | _ => 0

/-- The greatest depth of sets. -/
def CharacterSet.depthOfAll : List CharacterSet → Nat
  | [] => 0
  | set :: rest => max set.depth (depthOfAll rest)

end

mutual

/-- The number of nodes with parts on the longest way to a leaf. -/
def depth : Pattern → Nat
  | .bracket _ set => set.depth + 1
  | .repetition pattern => pattern.depth + 1
  | .group _ pattern => pattern.depth + 1
  | .sequence patterns => depthOfAll patterns + 1
  | .alternation patterns => depthOfAll patterns + 1
  | _ => 0

/-- The greatest depth of patterns. -/
def depthOfAll : List Pattern → Nat
  | [] => 0
  | pattern :: rest => max pattern.depth (depthOfAll rest)

end

/-- The greatest depth of a pattern in use. -/
def maxDepth : Nat := 250

/-! ## Flags -/

/-- The flags that decide what a pattern may contain. -/
structure Flags where
  /-- Whether case is ignored. -/
  caseless : Bool := false
  /-- Whether characters are matched, and not bytes. -/
  unicode : Bool := true
deriving DecidableEq, Repr, Inhabited

/-- The flags after a change. -/
def Flags.change (flags : Flags) (change : FlagChange) : Flags where
  caseless := change.apply 'i' flags.caseless
  unicode := change.apply 'u' flags.unicode

/-- A character of ASCII. -/
def isAscii (c : Char) : Bool := c.toNat < 0x80

/-- Whether an atom can be used where flags hold. -/
def Atom.isUsable (flags : Flags) : Atom → Bool
  | .literal c byte => if flags.unicode then !flags.caseless else !byte || isAscii c
  | .named negated => !flags.unicode && !negated
  | .dot => flags.unicode
  | .anchor => true
  | .wordBoundary => !flags.unicode

mutual

/-- Whether a set can be used where flags hold. -/
def CharacterSet.isUsable (flags : Flags) : CharacterSet → Bool
  | .empty => true
  | .atom (.literal c _) => if flags.unicode then !flags.caseless else isAscii c
  | .atom a => a.isUsable flags
  | .range first last =>
    if flags.unicode then !flags.caseless else isAscii first && isAscii last
  | .posix negated => if flags.unicode then !flags.caseless else !negated
  | .bracket negated set => (flags.unicode || !negated) && set.isUsable flags
  | .union sets => CharacterSet.areUsable flags sets
  | .operation left right => left.isUsable flags && right.isUsable flags

/-- Whether all sets can be used where flags hold. -/
def CharacterSet.areUsable (flags : Flags) : List CharacterSet → Bool
  | [] => true
  | set :: rest => set.isUsable flags && areUsable flags rest

end

mutual

/-- The flags after a pattern, none if it cannot be used where `flags` hold. -/
def flagsAfter? (flags : Flags) : Pattern → Option Flags
  | .empty => some flags
  | .atom a => if a.isUsable flags then some flags else none
  | .flags change => some (flags.change change)
  | .bracket negated set =>
    if (CharacterSet.bracket negated set).isUsable flags then some flags else none
  | .repetition pattern => pattern.flagsAfter? flags
  | .group change pattern => (pattern.flagsAfter? (flags.change change)).map fun _ => flags
  | .sequence patterns => flagsAfterAll? flags patterns
  | .alternation patterns => flagsAfterAll? flags patterns

/-- The flags after patterns in turn. -/
def flagsAfterAll? (flags : Flags) : List Pattern → Option Flags
  | [] => some flags
  | pattern :: rest => (pattern.flagsAfter? flags).bind fun flags => flagsAfterAll? flags rest

end

/-- Whether a pattern can be used. -/
def isUsable (pattern : Pattern) : Bool :=
  pattern.depth ≤ maxDepth && (pattern.flagsAfter? {}).isSome

end Pattern

end ODataApi.CommandLine
