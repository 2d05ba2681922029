import ODataApi.Binary64

/-!
# The shortest decimal text of a number

A decimal reads back as a number when it lies in the interval of the reals that
round to it.  The interval reaches half a unit of the last place to either side,
a quarter below a power of two, and includes its ends when the significand is
even.  `shortest` takes the coarsest decimal grid with a point in the interval.
On a grid only the two neighbours of the number can be nearest to it, so two
tests decide a grid, and seventeen digits always suffice.

`text` writes a magnitude from `10 ^ -5` up to `10 ^ 16` positionally and any
other with an exponent.
-/

namespace ODataApi

/-- The decimal number `digits * 10 ^ exponent`. -/
structure Decimal where
  /-- The digits, as one whole number. -/
  digits : Nat
  /-- The power of ten of the last digit. -/
  exponent : Int
deriving DecidableEq, Repr

namespace Decimal

/-- Trailing zeros move into the exponent, at most `fuel` of them. -/
def stripZeros : (fuel : Nat) → Decimal → Decimal
  | 0, d => d
  | fuel + 1, d =>
    if d.digits ≠ 0 ∧ d.digits % 10 = 0 then stripZeros fuel ⟨d.digits / 10, d.exponent + 1⟩ else d

/-- The digits and the exponent, as text: positional where the decimal point
falls within the first sixteen digits or at most five places before them. -/
def text (d : Decimal) : String :=
  let digits := (toString d.digits).toList
  let length := digits.length
  let point := (length : Int) + d.exponent
  let render (whole fraction : List Char) : String :=
    String.ofList whole ++ "." ++ String.ofList fraction
  if 0 ≤ d.exponent ∧ point ≤ 16 then
    render (digits ++ List.replicate d.exponent.toNat '0') ['0']
  else if 0 < point ∧ point ≤ 16 then
    render (digits.take point.toNat) (digits.drop point.toNat)
  else if -5 < point ∧ point ≤ 0 then
    render ['0'] (List.replicate (-point).toNat '0' ++ digits)
  else
    let mantissa :=
      if length = 1 then String.ofList digits else render (digits.take 1) (digits.drop 1)
    mantissa ++ "e" ++ toString (point - 1)

end Decimal

namespace Binary64

/-- How many decimal digits a natural number has; none for zero. -/
def decimalLength (n : Nat) : Nat :=
  if n = 0 then 0 else decimalLength (n / 10) + 1
termination_by n
decreasing_by omega

/-- A number and the ends of the interval that rounds to it, in quarters of the
least positive number. -/
structure Interval where
  /-- The lower end. -/
  low : Nat
  /-- The number itself. -/
  mid : Nat
  /-- The upper end. -/
  high : Nat
  /-- Whether the ends round to the number too. -/
  closed : Bool

/-- The interval of the reals that round to a finite number. -/
def interval (x : Binary64) : Interval where
  low :=
    4 * x.units - (if x.significand = leadingBit ∧ 0 < x.scale then 1 else 2) * Nat.pow 2 x.scale
  mid := 4 * x.units
  high := 4 * x.units + 2 * Nat.pow 2 x.scale
  closed := x.significand % 2 == 0

/-- Quarters of the least positive number in one. -/
def quartersPerOne : Nat := 4 * unitsPerOne

/-- The decimal exponent of the first digit of `mid`. -/
def leadingExponent (i : Interval) : Int :=
  if quartersPerOne ≤ i.mid then (decimalLength (i.mid / quartersPerOne) : Int) - 1
  else -(decimalLength ((quartersPerOne - 1) / i.mid) : Int)

/-- The point of the grid `10 ^ exponent` nearest to the number, if one of its
two neighbours there lies in the interval.  Of two at the same distance the even
one is taken. -/
def onGrid? (i : Interval) (exponent : Int) : Option Decimal :=
  let step := quartersPerOne * Nat.pow 10 exponent.toNat
  let factor := Nat.pow 10 (-exponent).toNat
  let within (point : Nat) : Bool :=
    let p := point * step
    if i.closed then i.low * factor ≤ p && p ≤ i.high * factor
    else i.low * factor < p && p < i.high * factor
  let below := i.mid * factor / step
  let rest := i.mid * factor % step
  let preferBelow := 2 * rest < step || (2 * rest == step && below % 2 == 0)
  match within below, within (below + 1) with
  | true, true => some ⟨if preferBelow then below else below + 1, exponent⟩
  | true, false => some ⟨below, exponent⟩
  | false, true => some ⟨below + 1, exponent⟩
  | false, false => none

/-- The fewest digits that read back as the magnitude of a finite number. -/
def shortest (x : Binary64) : Decimal :=
  if x.isZero then ⟨0, 0⟩
  else
    let i := x.interval
    let first := leadingExponent i
    let found := (List.range 17).findSome? fun (extra : Nat) => onGrid? i (first - extra)
    (found.getD ⟨0, 0⟩).stripZeros 17

/-- A finite number as text, with a sign when it is negative, also on zero. -/
def text (x : Binary64) : String :=
  (if x.isNegative then "-" else "") ++ x.shortest.text

end Binary64

end ODataApi
