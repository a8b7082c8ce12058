/-!
# Decimal digits

The natural numbers that runs of decimal digits write.  Leading zeros count for nothing.

Main results:

- Definition {lit}`digitsValue`: the value of a run of digits.
- Definition {lit}`digitsNumber?`: the same, for what may not be a run of digits.
- Theorem {lit}`digitsValue_zero_cons`: a leading zero counts for nothing.
-/

namespace Switchboard

/-- The value of a run of decimal digits. -/
def digitsValue (digits : List Char) : Nat :=
  digits.foldl (fun n c => n * 10 + (c.toNat - '0'.toNat)) 0

/-- The number that decimal digits write, if there is at least one and nothing else. -/
def digitsNumber? (cs : List Char) : Option Nat :=
  if cs ≠ [] ∧ cs.all Char.isDigit then some (digitsValue cs) else none

/-- A leading zero counts for nothing. -/
theorem digitsValue_zero_cons (digits : List Char) :
    digitsValue ('0' :: digits) = digitsValue digits := by
  simp [digitsValue]

end Switchboard
