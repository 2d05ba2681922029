import ODataApi.Binary64

/-!
# Decimal numerals

A numeral has a sign, digits, a point with digits after it and a power of ten.  The
sign, the point and the power are optional, and one side of the point may have no
digits.  The power follows the letter `e` in either case and has a sign of its own.

`nearest` is the binary64 number nearest to a numeral.  It computes no power of ten
that puts the numeral out of range by itself.
-/

namespace ODataApi

/-- A decimal numeral. -/
structure Numeral where
  /-- Whether there is a minus sign. -/
  negative : Bool := false
  /-- The digits before the point. -/
  whole : List Char := []
  /-- The digits after the point, if there is one. -/
  fraction : Option (List Char) := none
  /-- The power of ten, if one is given. -/
  exponent : Option Int := none
deriving DecidableEq, Repr

namespace Numeral

/-- The value of digits. -/
def digitsValue (digits : List Char) : Nat :=
  digits.foldl (fun n c => n * 10 + (c.toNat - '0'.toNat)) 0

/-- A whole number with a sign or without. -/
def signedWhole? (cs : List Char) : Option Int :=
  let whole? (digits : List Char) : Option Nat :=
    if digits.isEmpty || !digits.all Char.isDigit then none else some (digitsValue digits)
  match cs with
  | '-' :: rest => (whole? rest).map fun n => -n
  | '+' :: rest => (whole? rest).map fun n => n
  | rest => (whole? rest).map fun n => n

/-- A sign, if there is one, and what follows. -/
def scanSign : List Char → Bool × List Char
  | '-' :: rest => (true, rest)
  | '+' :: rest => (false, rest)
  | rest => (false, rest)

/-- The fraction of a numeral, if there is one, and what follows. -/
def scanFraction : List Char → Option (List Char) × List Char
  | '.' :: rest =>
    let (digits, rest) := rest.span Char.isDigit
    (some digits, rest)
  | rest => (none, rest)

/-- The numeral that characters are. -/
def read? (cs : List Char) : Option Numeral := do
  let (negative, cs) := scanSign cs
  let (whole, cs) := cs.span Char.isDigit
  let (fraction, cs) := scanFraction cs
  if whole.isEmpty && (fraction.getD []).isEmpty then none
  let exponent ←
    match cs with
    | [] => some none
    | 'e' :: rest | 'E' :: rest => (signedWhole? rest).map some
    | _ => none
  pure { negative, whole, fraction, exponent }

/-- Whether a numeral has neither a point nor a power of ten. -/
def isWhole (n : Numeral) : Bool := n.fraction.isNone && n.exponent.isNone

/-- All digits as one number. -/
def significand (n : Numeral) : Nat := digitsValue (n.whole ++ n.fraction.getD [])

/-- The power of ten of the last digit. -/
def lastExponent (n : Numeral) : Int := n.exponent.getD 0 - (n.fraction.getD []).length

/-- The greatest power of ten that is finite. -/
def maxPower : Nat := 308

/-- The magnitude of a numeral, rounded to nearest.

A significand that is not zero is at least one, so a power above `maxPower` is out of
range.  It is below twice `2 ^ log2`, and `10 ^ p` is above `2 ^ (3 * p)`, which bounds
the powers that leave less than half of the least number. -/
def magnitude (n : Numeral) : Binary64 :=
  let significand := n.significand
  if significand = 0 then Binary64.ofNat 0
  else
    match n.lastExponent with
    | .ofNat power =>
      if maxPower < power then Binary64.infinity
      else Binary64.ofNat (significand * Nat.pow 10 power)
    | .negSucc power =>
      if significand.log2 + 1077 < 3 * power then Binary64.ofNat 0
      else Binary64.ofRatio significand (Nat.pow 10 (power + 1))

/-- The binary64 number nearest to a numeral. -/
def nearest (n : Numeral) : Binary64 :=
  if n.negative then n.magnitude.neg else n.magnitude

/-! ## Tests -/

example : read? "-12.50e+3".toList
    = some ⟨true, "12".toList, some "50".toList, some 3⟩ := by decide +kernel
example : read? "+.5".toList = some ⟨false, [], some ['5'], none⟩ := by decide +kernel
example : (read? ".".toList, read? "1e".toList, read? "1.0.0".toList) = (none, none, none) := by
  decide +kernel
example : (read? "1.5".toList).map nearest = some ⟨0x3ff8000000000000⟩ := by decide +kernel
example : (read? "2e308".toList).map nearest = some Binary64.infinity := by decide +kernel
example : (read? "1e-400".toList).map nearest = some ⟨0⟩ := by decide +kernel
example : (read? "5e-324".toList).map nearest = some ⟨1⟩ := by decide +kernel
example : (read? "17976931348623158e292".toList).map (·.nearest.isFinite) = some true := by
  decide +kernel
example : (read? "17976931348623159e292".toList).map (·.nearest.isFinite) = some false := by
  decide +kernel

end Numeral

end ODataApi
