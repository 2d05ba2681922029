/-!
# Binary64 numbers

A number is its sixty-four bits: a sign, an exponent field of eleven bits and a
fraction of fifty-two.  Finite magnitudes are whole multiples of the least
positive number, `2 ^ -1074`, so all arithmetic here is exact arithmetic on
natural numbers followed by one rounding, to nearest and a tie to even.

The magnitude of a finite number in units of `2 ^ -1074` is
`significand * 2 ^ scale`.  The fields are laid out so that the bits of a
positive number are `scale * 2 ^ 52 + significand`, also below the least normal
number, and a significand rounded up to `2 ^ 53` carries into the exponent.
-/

namespace ODataApi

/-- A binary64 number, held as its bits.  Equality is equality of bits: the two
zeros differ, and a NaN equals itself. -/
structure Binary64 where
  /-- Sign, exponent field and fraction, most significant bit first. -/
  bits : UInt64
deriving DecidableEq, Inhabited, Repr

namespace Binary64

/-! ## Fields -/

/-- The bit above the fraction, `2 ^ 52`. -/
def leadingBit : Nat := 0x10000000000000

/-- The units in one: `2 ^ 1074`. -/
def unitsPerOne : Nat := Nat.pow 2 1074

/-- The eleven bits after the sign. -/
def exponentField (x : Binary64) : Nat := x.bits.toNat / leadingBit % 2048

/-- The low fifty-two bits. -/
def fraction (x : Binary64) : Nat := x.bits.toNat % leadingBit

/-- The sign bit. -/
def isNegative (x : Binary64) : Bool := 0x8000000000000000 ≤ x.bits.toNat

/-- An exponent field of all ones marks the infinities and the NaNs. -/
def isFinite (x : Binary64) : Bool := x.exponentField != 2047

/-- The values that are no number. -/
def isNaN (x : Binary64) : Bool := x.exponentField == 2047 && x.fraction != 0

/-- Either zero. -/
def isZero (x : Binary64) : Bool := x.exponentField == 0 && x.fraction == 0

/-- The fraction with its implicit leading bit, which only an exponent field of
zero lacks. -/
def significand (x : Binary64) : Nat :=
  if x.exponentField = 0 then x.fraction else leadingBit + x.fraction

/-- How often the significand is doubled, counted from the least exponent. -/
def scale (x : Binary64) : Nat := x.exponentField - 1

/-- The magnitude of a finite number in units of `2 ^ -1074`. -/
def units (x : Binary64) : Nat := x.significand * Nat.pow 2 x.scale

/-- The same magnitude with the other sign. -/
def neg (x : Binary64) : Binary64 := ⟨x.bits ^^^ 0x8000000000000000⟩

/-- Positive infinity. -/
def infinity : Binary64 := ⟨0x7ff0000000000000⟩

/-! ## Rounding -/

/-- The whole number nearest to `num / den`; a tie goes to the even one. -/
def roundRatio (num den : Nat) : Nat :=
  let q := num / den
  let r := num % den
  if den < 2 * r ∨ (2 * r = den ∧ q % 2 = 1) then q + 1 else q

/-- The number nearest to `num / den`.  What rounds beyond the greatest finite
number is infinity. -/
def ofRatio (num den : Nat) : Binary64 :=
  let whole := num * unitsPerOne / den
  let scale := whole.log2 - 52
  let bits := scale * leadingBit + roundRatio (num * unitsPerOne) (den * Nat.pow 2 scale)
  ⟨UInt64.ofNat (min bits infinity.bits.toNat)⟩

/-- The number nearest to a natural number. -/
def ofNat (n : Nat) : Binary64 := ofRatio n 1

/-- The rounded product of two magnitudes. -/
def mul (x y : Binary64) : Binary64 := ofRatio (x.units * y.units) (unitsPerOne * unitsPerOne)

/-- The rounded quotient of two magnitudes. -/
def div (x y : Binary64) : Binary64 := ofRatio x.units y.units

/-! ## Scaling by powers of ten

Only the powers up to `10 ^ 308` are numbers of their own.  A larger step down
is taken in parts of `10 ^ 308`, each of which rounds. -/

/-- The number nearest to `10 ^ n`. -/
def powerOfTen (n : Nat) : Binary64 := ofNat (Nat.pow 10 n)

/-- The greatest exponent of a power of ten that is finite. -/
def maxPower : Nat := 308

/-- `x` times `10 ^ n`, if that is finite. -/
def raise? (x : Binary64) (n : Nat) : Option Binary64 :=
  if n ≤ maxPower then
    let y := x.mul (powerOfTen n)
    if y.isFinite then some y else none
  else if x.isZero then some x
  else none

/-- `x` divided by `10 ^ n`, in parts that are numbers. -/
def lower (x : Binary64) (n : Nat) : Binary64 :=
  if n ≤ maxPower then x.div (powerOfTen n)
  else if x.isZero then x
  else lower (x.div (powerOfTen maxPower)) (n - maxPower)
termination_by n
decreasing_by simp_all [maxPower]; omega

/-- The value of `significand * 10 ^ exponent`, if it is finite.  The
significand is rounded first and the power of ten applied to the rounded number,
so the result can differ from the nearest number in its last bit. -/
def ofDecimal? (significand : Nat) (exponent : Int) : Option Binary64 :=
  match exponent with
  | .ofNat n => (ofNat significand).raise? n
  | .negSucc n => some ((ofNat significand).lower (n + 1))

/-! ## Tests -/

example : (ofNat 1).bits = 0x3ff0000000000000 := by decide +kernel
example : (ofNat 5).bits = 0x4014000000000000 := by decide +kernel
example : (ofNat 0x20000000000001).bits = 0x4340000000000000 := by decide +kernel
example : (ofRatio 1 3).bits = 0x3fd5555555555555 := by decide +kernel
example : (ofRatio 1 unitsPerOne).bits = 1 := by decide +kernel
example : (ofRatio 1 (2 * unitsPerOne)).bits = 0 := by decide +kernel
example : ofNat (Nat.pow 10 309) = infinity := by decide +kernel
example : (ofDecimal? 15 (-1)).map bits = some 0x3ff8000000000000 := by decide +kernel
example : (ofDecimal? 1 400).map bits = none := by decide +kernel
example : (ofDecimal? 0 400).map bits = some 0 := by decide +kernel
example : (ofDecimal? 5 (-324)).map bits = some 1 := by decide +kernel

end Binary64

end ODataApi
