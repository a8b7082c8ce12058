/-!
# Binary floating point numbers and their decimal texts

Numbers with 53 binary digits, in exact arithmetic on natural numbers: rounding a decimal number to
the nearest of them, a tie going to the even mantissa, and finding the shortest decimal number that
rounds back.

Main definitions:

- Definition {lit}`Binary64.ofDecimal`: the nearest number to a decimal one.
- Definitions {lit}`Binary64.mul` and {lit}`Binary64.div`: product and quotient, rounded once.
- Definition {lit}`Binary64.shortest`: the decimal number of fewest digits that rounds back.
- Definition {lit}`Binary64.text`: its positional text.
- Definition {lit}`Binary64.toWord`: the nearest natural number of 64 bits.
-/

namespace Switchboard

/-- A binary floating point number.  A finite one is its mantissa times a power of two. -/
inductive Binary64 where
  | finite (negative : Bool) (mantissa : Nat) (exponent : Int)
  | infinite (negative : Bool)
  | notANumber
deriving DecidableEq

/-- The nearest natural number to a fraction, a half going to the even neighbour. -/
def roundDiv (num den : Nat) : Nat :=
  let quotient := num / den
  let twice := 2 * (num % den)
  if twice < den ∨ (twice = den ∧ quotient % 2 = 0) then quotient else quotient + 1

namespace Binary64

/-! ## From decimal numbers -/

/-- The smallest exponent of a finite number. -/
def minExponent : Int :=
  -1074

/-- The largest exponent of a finite number. -/
def maxExponent : Int :=
  971

/-- A fraction divided by a power of two, as a fraction. -/
def scale (num den : Nat) (exponent : Int) : Nat × Nat :=
  if 0 ≤ exponent then (num, den * Nat.pow 2 exponent.toNat)
  else (num * Nat.pow 2 (-exponent).toNat, den)

/-- The exponent at which a fraction has a mantissa of 53 binary digits, or the smallest one. -/
def exponentOf (num den : Nat) : Int :=
  let estimate := (num.log2 : Int) - den.log2 - 52
  let scaled := scale num den estimate
  max minExponent (if scaled.1 / scaled.2 < Nat.pow 2 52 then estimate - 1 else estimate)

/-- The number with a mantissa that rounding may have made too long by one digit. -/
def normalize (negative : Bool) (mantissa : Nat) (exponent : Int) : Binary64 :=
  if mantissa = Nat.pow 2 53 then
    if exponent + 1 ≤ maxExponent then finite negative (Nat.pow 2 52) (exponent + 1)
    else infinite negative
  else if exponent ≤ maxExponent then finite negative mantissa exponent
  else infinite negative

/-- The nearest number to a fraction. -/
def ofFraction (negative : Bool) (num den : Nat) : Binary64 :=
  if num = 0 then finite negative 0 minExponent
  else
    let exponent := exponentOf num den
    let scaled := scale num den exponent
    normalize negative (roundDiv scaled.1 scaled.2) exponent

/-- The nearest number to a decimal one, given by its digits and a power of ten. -/
def ofDecimal (negative : Bool) (digits : Nat) (power : Int) : Binary64 :=
  let size := (Nat.toDigits 10 digits).length
  if digits = 0 then finite negative 0 minExponent
  else if power + size > 400 then infinite negative
  else if power + size < -400 then finite negative 0 minExponent
  else if 0 ≤ power then ofFraction negative (digits * Nat.pow 10 power.toNat) 1
  else ofFraction negative digits (Nat.pow 10 (-power).toNat)

/-! ## Multiplication and division -/

/-- The nearest number to a fraction times a power of two. -/
def ofScaled (negative : Bool) (num den : Nat) (exponent : Int) : Binary64 :=
  ofFraction negative (num * Nat.pow 2 exponent.toNat) (den * Nat.pow 2 (-exponent).toNat)

/-- The product of two numbers, rounded to the nearest. -/
def mul : Binary64 → Binary64 → Binary64
  | finite s m e, finite t n f => ofScaled (s != t) (m * n) 1 (e + f)
  | finite s m _, infinite t => if m = 0 then notANumber else infinite (s != t)
  | infinite s, finite t n _ => if n = 0 then notANumber else infinite (s != t)
  | infinite s, infinite t => infinite (s != t)
  | _, notANumber => notANumber
  | notANumber, _ => notANumber

/-- The quotient of two numbers, rounded to the nearest. -/
def div : Binary64 → Binary64 → Binary64
  | finite s m e, finite t n f =>
    if 0 < n then ofScaled (s != t) m n (e - f)
    else if 0 < m then infinite (s != t)
    else notANumber
  | finite s _ _, infinite t => finite (s != t) 0 minExponent
  | infinite s, finite t _ _ => infinite (s != t)
  | infinite _, infinite _ => notANumber
  | _, notANumber => notANumber
  | notANumber, _ => notANumber

/-! ## To decimal numbers -/

/-- A finite number and the bounds of what rounds to it, as numerators over one denominator. -/
structure Interval where
  low : Nat
  value : Nat
  high : Nat
  denominator : Nat
  /-- Whether the bounds themselves round to the number. -/
  closed : Bool

/-- What rounds to a positive number: up to half of the way to its neighbours, of which the lower
one is nearer below a power of two. -/
def interval (mantissa : Nat) (exponent : Int) : Interval :=
  let low := if mantissa = Nat.pow 2 52 ∧ minExponent < exponent then 4 * mantissa - 1
    else 4 * mantissa - 2
  let up := Nat.pow 2 (exponent - 2).toNat
  let down := Nat.pow 2 (2 - exponent).toNat
  ⟨low * up, 4 * mantissa * up, (4 * mantissa + 2) * up, down, mantissa % 2 = 0⟩

/-- Whether a number of units rounds to the number of the interval. -/
def Interval.holds (i : Interval) (unitNum unitDen count : Nat) : Bool :=
  let point := count * unitNum * i.denominator
  if i.closed then i.low * unitDen ≤ point && point ≤ i.high * unitDen
  else i.low * unitDen < point && point < i.high * unitDen

/-- The nearer of the two points around the number, on the grid of a unit, that round to it; of two
that are equally near, the greater. -/
def Interval.nearest (i : Interval) (unitNum unitDen : Nat) : Option Nat :=
  let whole := i.value * unitDen
  let unit := unitNum * i.denominator
  let below := whole / unit
  let above := below + 1
  match i.holds unitNum unitDen below, i.holds unitNum unitDen above with
  | true, true => some (if 2 * (whole % unit) < unit then below else above)
  | true, false => some below
  | false, true => some above
  | false, false => none

/-- The power of ten as a fraction. -/
def tenPower (power : Int) : Nat × Nat :=
  (Nat.pow 10 power.toNat, Nat.pow 10 (-power).toNat)

/-- The digits and the power of ten on the coarsest decimal grid, from a power down, that has a
point which rounds to the number. -/
def searchGrid (i : Interval) : Nat → Int → Nat × Int
  | 0, power => (0, power)
  | grids + 1, power =>
    let unit := tenPower power
    match i.nearest unit.1 unit.2 with
    | some digits => (digits, power)
    | none => searchGrid i grids (power - 1)

/-- The decimal number of fewest digits that rounds to a positive number, the nearest of them. -/
def shortest (mantissa : Nat) (exponent : Int) : Nat × Int :=
  searchGrid (interval mantissa exponent) 700 310

/-- The positional text of digits times a power of ten. -/
def positional (digits : Nat) (power : Int) : List Char :=
  let cs := Nat.toDigits 10 digits
  if 0 ≤ power then cs ++ List.replicate power.toNat '0'
  else
    let places := (-power).toNat
    let padded := List.replicate (places + 1 - cs.length) '0' ++ cs
    padded.take (padded.length - places) ++ '.' :: padded.drop (padded.length - places)

/-- The text of a number: positional, with as few digits as tell it from all others. -/
def text : Binary64 → String
  | finite negative mantissa exponent =>
    let sign := if negative then "-" else ""
    if mantissa = 0 then sign ++ "0"
    else
      let found := shortest mantissa exponent
      sign ++ String.ofList (positional found.1 found.2)
  | infinite negative => if negative then "-inf" else "inf"
  | notANumber => "NaN"

/-- The text of a number with at least one decimal place, if it is finite. -/
def pointedText (x : Binary64) : String :=
  match x with
  | finite _ _ _ => if x.text.toList.contains '.' then x.text else x.text ++ ".0"
  | _ => x.text

/-! ## To natural numbers -/

/-- The nearest whole part of a positive number, a half going up. -/
def wholePart (mantissa : Nat) (exponent : Int) : Nat :=
  if 0 ≤ exponent then mantissa * Nat.pow 2 exponent.toNat
  else (2 * mantissa + Nat.pow 2 (-exponent).toNat) / Nat.pow 2 ((-exponent).toNat + 1)

/-- The nearest natural number of 64 bits: nothing below zero, and never beyond the greatest. -/
def toWord : Binary64 → UInt64
  | finite false mantissa exponent =>
    UInt64.ofNat (min (wholePart mantissa exponent) (UInt64.size - 1))
  | finite true _ _ => 0
  | infinite false => UInt64.ofNat (UInt64.size - 1)
  | infinite true => 0
  | notANumber => 0

end Binary64
end Switchboard
