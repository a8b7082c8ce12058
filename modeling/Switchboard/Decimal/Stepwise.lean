import Switchboard.Decimal.Binary64

/-!
# Decimal numbers read in steps

A quick way from a decimal number to a floating point number.  Digits are read into a natural
number as long as that stays within 64 bits; further digits before the point only count, and further
ones after it are passed over.  The number that was read is rounded, and then multiplied or divided
by a power of ten that is rounded too.  So the outcome may lie beside the nearest number, and it is
given up when a product is too large.

Main definitions:

- Definition {lit}`Binary64.gather`: the natural number and the power of ten that digits come to.
- Definition {lit}`Binary64.stepwise?`: the number that a decimal number is read as.
-/

namespace Switchboard
namespace Binary64

/-! ## Digits -/

/-- Read digits on from a natural number as long as it stays within 64 bits; gives back the digits
that are left. -/
def absorb (n : Nat) : List Char → Nat × List Char
  | [] => (n, [])
  | c :: rest =>
    let next := n * 10 + (c.toNat - '0'.toNat)
    if next < UInt64.size then absorb next rest else (n, c :: rest)

/-- The natural number that the digits before and after the point are read into, and the power of
ten that it is multiplied by. -/
def gather (whole fraction : List Char) : Nat × Int :=
  let (n, counted) := absorb 0 whole
  let (n, dropped) := absorb n fraction
  (n, counted.length + dropped.length - fraction.length)

/-- The digits before and after the point of a number with so many decimal places. -/
def splitDigits (digits places : Nat) : List Char × List Char :=
  let cs := Nat.toDigits 10 digits
  let padded := List.replicate (places - cs.length) '0' ++ cs
  padded.splitAt (padded.length - places)

/-! ## Powers of ten -/

/-- The nearest number to a power of ten. -/
def tenTo (power : Nat) : Binary64 :=
  ofDecimal false 1 power

/-- The greatest power of ten that is no infinite number, which is the greatest single step. -/
def maxStep : Nat :=
  308

/-- A number multiplied by a power of ten, or divided by one in at most two steps, after which
nothing is left of a number of 64 bits. -/
def shift (x : Binary64) (power : Int) : Binary64 :=
  if 0 ≤ power then x.mul (tenTo power.toNat)
  else
    let down := (-power).toNat
    if down ≤ maxStep then x.div (tenTo down)
    else (x.div (tenTo maxStep)).div (tenTo (min (down - maxStep) maxStep))

/-- The number that a decimal number is read as, unless it is too large: all its digits, how many
of them stand after the point, and the power of ten that its exponent writes. -/
def stepwise? (negative : Bool) (digits places : Nat) (power : Int) : Option Binary64 :=
  let parts := splitDigits digits places
  let (n, own) := gather parts.1 parts.2
  if n = 0 then some (finite negative 0 minExponent)
  else
    match shift (ofFraction negative n 1) (own + power) with
    | infinite _ => none
    | x => some x

end Binary64
end Switchboard
