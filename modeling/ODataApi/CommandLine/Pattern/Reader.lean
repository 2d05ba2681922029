import ODataApi.Character.Numeric
import ODataApi.CommandLine.Pattern
import ODataApi.Json.Reader
import ODataApi.Numeral

/-!
# Reading patterns

A pattern is read in one pass with a stack.  `Progress` holds the alternatives and the
items of the innermost open group, and the groups around it.  A class has a stack of
its own, since classes nest in brackets.

The flag `x` decides how a pattern is read: while it is set, spaces and comments do not
count.  A comment starts with `#` and ends with its line.

A repetition with a count has a closing brace, and so has a code in braces.  The value
of a field ends at its first closing brace, so neither is read here, and a brace opens
nothing.
-/

namespace ODataApi.CommandLine.Pattern

open Character (isSpace isAlphabetic isAlphanumeric)

/-! ## Blanks -/

/-- The text after spaces and comments. -/
def skipIgnored (comment : Bool) : List Char → List Char
  | [] => []
  | c :: rest =>
    if comment then skipIgnored (c != '\n') rest
    else if c == '#' then skipIgnored true rest
    else if isSpace c then skipIgnored false rest
    else c :: rest

/-- The text from the next character that counts. -/
def skip (verbose : Bool) (cs : List Char) : List Char :=
  if verbose then skipIgnored false cs else cs

/-! ## Escapes -/

/-- A code of as many hexadecimal digits as `count`, after the digits read, and the
text after it. -/
def codeFrom? (verbose : Bool) (code : Nat) : (count : Nat) → List Char → Option (Nat × List Char)
  | 0, cs => some (code, cs)
  | count + 1, cs =>
    match skip verbose cs with
    | [] => none
    | c :: rest => (Json.Token.hexDigit? c).bind fun digit =>
      codeFrom? verbose (code * 16 + digit) count rest

/-- The character of a code, and the text after it. -/
def coded? (verbose byte : Bool) (count : Nat) (cs : List Char) : Option (Atom × List Char) := do
  let (code, rest) ← codeFrom? verbose 0 count cs
  if code < 0xd800 ∨ (0xdfff < code ∧ code < 0x110000) then
    some (.literal (Char.ofNat code) byte, skip verbose rest)
  else none

/-- The character that a letter behind a backslash stands for. -/
def control? : Char → Option Char
  | 'a' => some '\x07'
  | 'f' => some '\x0c'
  | 't' => some '\t'
  | 'n' => some '\n'
  | 'r' => some '\r'
  | 'v' => some '\x0b'
  | _ => none

/-- What a backslash and the text behind it stand for, and the text after that. -/
def escape? (verbose : Bool) : List Char → Option (Atom × List Char)
  | [] => none
  | 'x' :: rest => coded? verbose true 2 rest
  | 'u' :: rest => coded? verbose false 4 rest
  | 'U' :: rest => coded? verbose false 8 rest
  | 'b' :: '\x7b' :: _ => none
  | c :: rest =>
    if ['d', 's', 'w'].contains c then some (.named false, rest)
    else if ['D', 'S', 'W'].contains c then some (.named true, rest)
    else if ['A', 'z'].contains c then some (.anchor, rest)
    else if ['b', 'B', '<', '>'].contains c then some (.wordBoundary, rest)
    else if isAscii c && !c.isAlphanum then some (.literal c false, rest)
    else (control? c).map fun c => (.literal c false, rest)

/-! ## Classes -/

/-- A class that is being read, from its bracket on. -/
structure OpenClass where
  negated : Bool
  /-- The operand before an operator. -/
  left : Option CharacterSet := none
  /-- The items after the bracket or operator, latest first. -/
  items : List CharacterSet := []
deriving Inhabited

namespace OpenClass

/-- The set read so far. -/
def set (current : OpenClass) : CharacterSet :=
  let right : CharacterSet :=
    match current.items with
    | [] => .empty
    | [item] => item
    | items => .union items.reverse
  match current.left with
  | none => right
  | some left => .operation left right

/-- With an item. -/
def add (current : OpenClass) (item : CharacterSet) : OpenClass :=
  { current with items := item :: current.items }

end OpenClass

/-- The dashes at the start of a class, and the text after them. -/
def leadingDashes (verbose : Bool) (current : OpenClass) :
    (fuel : Nat) → List Char → OpenClass × List Char
  | fuel + 1, '-' :: rest =>
    leadingDashes verbose (current.add (.atom (.literal '-' false))) fuel (skip verbose rest)
  | _, cs => (current, cs)

/-- A class from the text after its bracket, and the text after its start.  Dashes at the
start are characters, and so is a bracket that would close it there. -/
def openClass (verbose : Bool) (cs : List Char) : OpenClass × List Char :=
  let (negated, cs) :=
    match skip verbose cs with
    | '^' :: rest => (true, skip verbose rest)
    | cs => (false, cs)
  match leadingDashes verbose { negated } cs.length cs with
  | (current, ']' :: rest) =>
    if current.items.isEmpty then (current.add (.atom (.literal ']' false)), skip verbose rest)
    else (current, ']' :: rest)
  | start => start

/-- The names of the classes in brackets and colons. -/
def posixNames : List String :=
  ["alnum", "alpha", "ascii", "blank", "cntrl", "digit", "graph", "lower", "print", "punct",
    "space", "upper", "word", "xdigit"]

/-- A class in brackets and colons from the text after its bracket, and the text after it. -/
def posix? : List Char → Option (CharacterSet × List Char)
  | ':' :: cs =>
    let (negated, cs) :=
      match cs with
      | '^' :: rest => (true, rest)
      | cs => (false, cs)
    match cs.span (· != ':') with
    | (name, ':' :: ']' :: rest) =>
      if posixNames.contains (String.ofList name) then some (.posix negated, rest) else none
    | _ => none
  | _ => none

/-- The character after the next one that counts.  A comment counts from its second
character on. -/
def peek? (verbose : Bool) (cs : List Char) : Option Char :=
  if verbose then
    match cs.dropWhile isSpace with
    | '#' :: rest => (rest.dropWhile isSpace).head?
    | rest => rest.head?
  else cs.head?

/-- A character or escape of a class, and the text after it. -/
def classAtom? (verbose : Bool) : List Char → Option (Atom × List Char)
  | [] => none
  | '\\' :: rest => escape? verbose rest
  | c :: rest => some (.literal c false, rest)

/-- An item of a class: a character, a class named with a letter, or a range. -/
def classItem? (verbose : Bool) (cs : List Char) : Option (CharacterSet × List Char) := do
  let (first, rest) ← classAtom? verbose cs
  let single : Option CharacterSet :=
    match first with
    | .literal .. | .named _ => some (.atom first)
    | _ => none
  match skip verbose rest with
  | '-' :: rest' =>
    let following := peek? verbose rest'
    if following == some ']' || following == some '-' then return (← single, '-' :: rest')
    let (last, rest) ← classAtom? verbose (skip verbose rest')
    match first, last with
    | .literal a _, .literal b _ => if a ≤ b then some (.range a b, rest) else none
    | _, _ => none
  | rest => return (← single, rest)

/-- A class and the text after it.  `outer` holds the classes around `current`, the
innermost first. -/
def class? (verbose : Bool) (current : OpenClass) (outer : List OpenClass) :
    (fuel : Nat) → List Char → Option (Bool × CharacterSet × List Char)
  | 0, _ => none
  | fuel + 1, cs =>
    match skip verbose cs with
    | [] => none
    | '[' :: rest =>
      match posix? rest with
      | some (item, rest) => class? verbose (current.add item) outer fuel rest
      | none =>
        let (inner, rest) := openClass verbose rest
        class? verbose inner (current :: outer) fuel rest
    | ']' :: rest =>
      match outer with
      | [] => some (current.negated, current.set, rest)
      | parent :: outer =>
        class? verbose (parent.add (.bracket current.negated current.set)) outer fuel rest
    | '&' :: '&' :: rest | '-' :: '-' :: rest | '~' :: '~' :: rest =>
      class? verbose { current with left := some current.set, items := [] } outer fuel rest
    | cs => (classItem? verbose cs).bind fun (item, rest) =>
      class? verbose (current.add item) outer fuel rest

/-! ## Groups -/

/-- The letters that are flags. -/
def flagLetters : List Char := ['i', 'm', 's', 'U', 'u', 'R', 'x']

/-- A change of flags up to a colon or parenthesis, and the text from there on. -/
def flagChange? (change : FlagChange) : List Char → Option (FlagChange × List Char)
  | [] => none
  | c :: rest =>
    if c == ':' || c == ')' then
      if change.unset == some [] then none else some (change, c :: rest)
    else if c == '-' then
      if change.unset.isSome then none else flagChange? { change with unset := some [] } rest
    else if flagLetters.contains c && !change.set.contains c
        && !(change.unset.getD []).contains c then
      match change.unset with
      | none => flagChange? { change with set := c :: change.set } rest
      | some letters => flagChange? { change with unset := some (c :: letters) } rest
    else none

/-- Whether characters are the name of a group. -/
def isGroupName : List Char → Bool
  | [] => false
  | first :: rest =>
    (first == '_' || isAlphabetic first)
      && rest.all fun c => ['_', '.', '[', ']'].contains c || isAlphanumeric c

/-- The start of a group. -/
inductive GroupStart
  | group (change : FlagChange) (name : Option (List Char))
  /-- No group, but flags for the group around. -/
  | flags (change : FlagChange)
deriving Repr

/-- The name of a group, and the text after it. -/
def groupName? (cs : List Char) : Option (GroupStart × List Char) :=
  match cs.span (· != '>') with
  | (name, _ :: rest) => if isGroupName name then some (.group {} (some name), rest) else none
  | (_, []) => none

/-- The start of a group from the text after its parenthesis, and the text after it.
There are no groups that look around. -/
def groupStart? (verbose : Bool) (cs : List Char) : Option (GroupStart × List Char) :=
  match skip verbose cs with
  | '?' :: '=' :: _ | '?' :: '!' :: _ | '?' :: '<' :: '=' :: _ | '?' :: '<' :: '!' :: _ => none
  | '?' :: 'P' :: '<' :: rest | '?' :: '<' :: rest => groupName? rest
  | '?' :: rest =>
    match flagChange? {} rest with
    | some (change, ':' :: rest) => some (.group change none, rest)
    | some (change, _ :: rest) => if change == {} then none else some (.flags change, rest)
    | _ => none
  | rest => some (.group {} none, rest)

/-! ## Patterns -/

/-- The parts of a group read so far. -/
structure Parts where
  /-- The alternatives before the last, latest first. -/
  alternatives : List Pattern := []
  /-- The items of the last alternative, latest first. -/
  items : List Pattern := []
deriving Inhabited

namespace Parts

/-- The last alternative. -/
def last (parts : Parts) : Pattern :=
  match parts.items with
  | [] => .empty
  | [item] => item
  | items => .sequence items.reverse

/-- The pattern of all parts. -/
def pattern (parts : Parts) : Pattern :=
  match parts.alternatives with
  | [] => parts.last
  | alternatives => .alternation (alternatives.reverse ++ [parts.last])

/-- With an item. -/
def add (parts : Parts) (item : Pattern) : Parts := { parts with items := item :: parts.items }

/-- With another alternative. -/
def next (parts : Parts) : Parts := { alternatives := parts.last :: parts.alternatives }

/-- With the last item repeated.  A change of flags is nothing to repeat. -/
def repeat? (parts : Parts) : Option Parts :=
  match parts.items with
  | [] | .flags _ :: _ => none
  | item :: items => some { parts with items := .repetition item :: items }

end Parts

/-- A group that is open. -/
structure OpenGroup where
  /-- The parts before it. -/
  before : Parts
  /-- The flags it changes. -/
  change : FlagChange
  /-- Whether spaces and comments do not count around it. -/
  verbose : Bool
deriving Inhabited

/-- A pattern while it is read. -/
structure Progress where
  /-- The parts of the innermost group. -/
  parts : Parts := {}
  /-- The open groups, innermost first. -/
  groups : List OpenGroup := []
  /-- The names of groups. -/
  names : List (List Char) := []
  /-- Whether spaces and comments do not count. -/
  verbose : Bool := false
deriving Inhabited

namespace Progress

/-- With an item. -/
def add (p : Progress) (item : Pattern) : Progress := { p with parts := p.parts.add item }

/-- With the start of a group.  Two groups have different names. -/
def start? (p : Progress) : GroupStart → Option Progress
  | .flags change =>
    some { p.add (.flags change) with verbose := change.apply 'x' p.verbose }
  | .group change name =>
    if name.any p.names.contains then none
    else some {
      groups := ⟨p.parts, change, p.verbose⟩ :: p.groups
      names := name.toList ++ p.names
      verbose := change.apply 'x' p.verbose }

/-- With the innermost group closed. -/
def close? (p : Progress) : Option Progress :=
  match p.groups with
  | [] => none
  | innermost :: groups => some {
      p with
      parts := innermost.before.add (.group innermost.change p.parts.pattern)
      groups
      verbose := innermost.verbose }

/-- The pattern after `p` and the rest of the text. -/
def read? (p : Progress) : (fuel : Nat) → List Char → Option Pattern
  | 0, _ => none
  | fuel + 1, cs =>
    match skip p.verbose cs with
    | [] => if p.groups.isEmpty then some p.parts.pattern else none
    | '(' :: rest => do
      let (start, rest) ← groupStart? p.verbose rest
      (← p.start? start).read? fuel rest
    | ')' :: rest => p.close?.bind fun p => p.read? fuel rest
    | '|' :: rest => { p with parts := p.parts.next }.read? fuel rest
    | '[' :: rest => do
      let (opened, rest) := openClass p.verbose rest
      let (negated, set, rest) ← class? p.verbose opened [] rest.length rest
      (p.add (.bracket negated set)).read? fuel rest
    | '\x7b' :: _ => none
    | '\\' :: rest => (escape? p.verbose rest).bind fun (a, rest) =>
      (p.add (.atom a)).read? fuel rest
    | '.' :: rest => (p.add (.atom .dot)).read? fuel rest
    | '^' :: rest | '$' :: rest => (p.add (.atom .anchor)).read? fuel rest
    | c :: rest =>
      if c == '?' || c == '*' || c == '+' then
        p.parts.repeat?.bind fun parts =>
          { p with parts }.read? fuel (if rest.head? == some '?' then rest.drop 1 else rest)
      else (p.add (.atom (.literal c false))).read? fuel rest

end Progress

/-- The pattern that characters are. -/
def read? (cs : List Char) : Option Pattern := Progress.read? {} (cs.length + 1) cs

/-- Whether characters are a pattern that can be used. -/
def accepts (cs : List Char) : Bool := (read? cs).any isUsable

/-! ## Tests -/

example : ["", "a|b*?", "(?<n>x)", "[]a-c]", "[^[:digit:]&&x]", "a**", "(?x) a # b", "(?-u)\\d",
    "\\x41\\u00e9", "]"].all (fun text => accepts text.toList) = true := by decide +kernel
example : ["(", ")", "*", "[", "[z-a]", "\\", "\\x", "\\d", "\\b", "a\x7b2", "(?i)a", "(?=a)",
    "(?i)*", "(?-u).", "(?<n>)(?<n>)", "[a-\\d]"].any
      (fun text => accepts text.toList) = false := by decide +kernel

end ODataApi.CommandLine.Pattern
