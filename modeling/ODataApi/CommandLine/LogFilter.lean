import ODataApi.CommandLine.Cut
import ODataApi.CommandLine.Pattern.Reader

/-!
# Log filters

A log filter is a list of directives with commas between them.  A directive is a
level, a target, a target with a level behind an equals sign, or any of these for a
span in brackets, whose field stands in braces.  A level is a word in upper or lower
case or a number up to five; behind an equals sign it may be missing.  A field is a
name, or a name with a value behind an equals sign: a boolean, a number or a pattern.

Spaces around a directive do not count, but its parts are taken from the text with
its spaces, at the positions they have without.  Positions count bytes, so a part can
start or end within a character.

`checkLogFilter` goes through a directive character by character and keeps what part
of it is being read.  The first directive with a fault decides.
-/

namespace ODataApi.CommandLine

open Character (isSpace isAlphanumeric trim)

/-! ## Levels and fields -/

/-- The words that are levels. -/
def levelNames : List String := ["off", "error", "warn", "info", "debug", "trace"]

/-- Whether characters are a level.  No characters are one. -/
def isLevel (cs : List Char) : Bool :=
  let digits := match cs with
    | '+' :: rest => rest
    | rest => rest
  let isNumber := !digits.isEmpty && digits.all Char.isDigit && Numeral.digitsValue digits ≤ 5
  cs.isEmpty || isNumber || levelNames.any fun name => name.toList == cs.map Char.toLower

/-- Whether characters are a number: a numeral, an infinity or no number by its name. -/
def isNumber (cs : List Char) : Bool :=
  let name := (Numeral.scanSign cs).2.map Char.toLower
  (Numeral.read? cs).isSome || ["inf", "infinity", "nan"].any fun text => text.toList == name

/-- Whether characters are a field: a name, with a value between the first equals sign
and the second. -/
def isField (cs : List Char) : Bool :=
  match cs.dropWhile (· != '=') with
  | [] => !cs.isEmpty
  | _ :: rest =>
    let value := rest.takeWhile (· != '=')
    isNumber value || Pattern.accepts value

/-! ## Directives -/

/-- The part of a directive that is being read. -/
inductive DirectivePart
  | start
  | levelOrTarget
  /-- A span and the position it starts at. -/
  | span (first : Nat)
  /-- A field and the position it starts at. -/
  | field (first : Nat)
  | fields
  | target
  /-- A level and the position it starts at. -/
  | level (first : Nat)
deriving DecidableEq, Repr

/-- Whether a directive can start with a character. -/
def opensDirective (c : Char) : Bool := c == '-' || c == ':' || c == '_' || isAlphanumeric c

namespace DirectivePart

/-- The part after the character at `position`. -/
def next (text : List Char) (position : Nat) :
    DirectivePart → Char → Except TextFault DirectivePart
  | start, '[' => .ok (span (position + 1))
  | start, c => if opensDirective c then .ok levelOrTarget else .error .malformed
  | levelOrTarget, '=' => do
    let _ ← part text 0 position
    .ok (level (position + 1))
  | levelOrTarget, '[' => do
    let _ ← part text 0 position
    .ok (span (position + 1))
  | levelOrTarget, _ => .ok levelOrTarget
  | target, '=' => .ok (level (position + 1))
  | span first, ']' => do
    let _ ← part text first position
    .ok target
  | span first, '\x7b' => do
    let _ ← part text first position
    .ok (field (position + 1))
  | span first, _ => .ok (span first)
  | field first, '\x7d' => do
    if isField (← part text first position) then .ok fields else .error .malformed
  | field first, _ => .ok (field first)
  | fields, ']' => .ok target
  | level first, _ => .ok (level first)
  | _, _ => .error .malformed

/-- Whether a directive can end with a part. -/
def close (text : List Char) : DirectivePart → Except TextFault Unit
  | levelOrTarget | target => .ok ()
  | level first => do
    if isLevel (← partFrom text first) then .ok () else .error .malformed
  | _ => .error .malformed

/-- The rest of a directive, whose first character is at `position`. -/
def finish (text : List Char) : (position : Nat) → DirectivePart → List Char →
    Except TextFault Unit
  | _, part, [] => part.close text
  | position, part, c :: rest => do
    (← part.next text position c).finish text (position + c.utf8Size) rest

end DirectivePart

/-- Whether a text is a directive. -/
def checkDirective (text : List Char) : Except TextFault Unit :=
  DirectivePart.start.finish text 0 (trim isSpace text)

/-- Whether a text is a log filter.  Directives without characters do not count. -/
def checkLogFilter (text : String) : Except TextFault Unit :=
  ((text.splitOn ",").filter (!·.isEmpty)).forM fun directive => checkDirective directive.toList

/-! ## Tests -/

example : ["a=5", "a[b\x7bc=+1.5\x7d]=Info", "\u00a0a", "²", "a→=", " [\x7ba=(\x7d]"].all
    (fun text => (checkDirective text.toList).toBool) = true := by decide +kernel
example : ["a=b=c", " a=5", "→", "[\x7b\x7d]", "[\x7ba=(\x7d]", "[s]=info "].any
    (fun text => (checkDirective text.toList).toBool) = false := by decide +kernel
example : (match checkDirective "\u00a0é=5".toList with
    | .error .torn => true
    | _ => false) = true := by decide +kernel

end ODataApi.CommandLine
