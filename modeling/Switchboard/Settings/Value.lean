import Switchboard.Decimal.Binary64
import Switchboard.Decimal.Digits
import Switchboard.Dictionary
import Switchboard.Text.Lowercase

/-!
# Configuration values

The loosely typed values that settings are made from, and how they are taken for texts and for
natural numbers.  Texts from the environment are first guessed to be truth values, whole numbers or
floating point numbers, so what comes back as a text is not always what was given.

Main definitions:

- Definition {lit}`ConfigValue.ofGuess`: the value that a text is guessed to be.
- Definition {lit}`ConfigValue.text?`: a value taken for a text.
- Definition {lit}`ConfigValue.word?`: a value taken for a natural number of 64 bits.
-/

namespace Switchboard

/-- A loosely typed value. -/
inductive ConfigValue where
  | nothing
  | bool (value : Bool)
  | whole (value : Int)
  | real (value : Binary64)
  | text (value : String)
  | list (items : List ConfigValue)
  | table (entries : List (String × ConfigValue))

/-! ## Numbers in texts -/

/-- Split a sign off, when there is one. -/
def splitSign : List Char → Bool × List Char
  | '-' :: rest => (true, rest)
  | '+' :: rest => (false, rest)
  | cs => (false, cs)

/-- The whole number of 64 bits that decimal digits write under a sign. -/
def signedNumber? (negative : Bool) (digits : List Char) : Option Int :=
  (digitsNumber? digits).bind fun n =>
    let value : Int := if negative then -(n : Int) else n
    if Int64.minValue.toInt ≤ value ∧ value ≤ Int64.maxValue.toInt then some value else none

/-- The whole number of 64 bits that a text writes, with an optional sign. -/
def wholeNumber? (cs : List Char) : Option Int :=
  let (negative, digits) := splitSign cs
  signedNumber? negative digits

/-- The natural number of 64 bits that a text writes, with an optional plus. -/
def wordNumber? (cs : List Char) : Option UInt64 :=
  let digits := match cs with
    | '+' :: rest => rest
    | _ => cs
  (digitsNumber? digits).bind fun n => if n < UInt64.size then some (UInt64.ofNat n) else none

/-- The power of ten that an exponent writes. -/
def exponentNumber? (cs : List Char) : Option Int :=
  let (negative, digits) := splitSign cs
  (digitsNumber? digits).map fun n => if negative then -(n : Int) else n

/-- The floating point number that digits with an optional point and exponent write. -/
def decimalNumber? (negative : Bool) (cs : List Char) : Option Binary64 :=
  let before := cs.takeWhile Char.isDigit
  let rest := cs.dropWhile Char.isDigit
  let (after, rest) := match rest with
    | '.' :: rest => (rest.takeWhile Char.isDigit, rest.dropWhile Char.isDigit)
    | _ => ([], rest)
  (digitsNumber? (before ++ after)).bind fun digits =>
    let scaled (power : Int) := Binary64.ofDecimal negative digits (power - after.length)
    match rest with
    | [] => some (scaled 0)
    | mark :: rest =>
      if mark = 'e' ∨ mark = 'E' then (exponentNumber? rest).map scaled else none

/-- The floating point number that a text writes: a decimal number, or a word for infinity or for
no number, in letters of any case. -/
def realNumber? (cs : List Char) : Option Binary64 :=
  let (negative, rest) := splitSign cs
  let word := String.ofList (rest.map Char.toLower)
  if word = "inf" ∨ word = "infinity" then some (.infinite negative)
  else if word = "nan" then some .notANumber
  else decimalNumber? negative rest

namespace ConfigValue

/-- The value that a text is guessed to be: the first of a truth value in letters of any case, a
whole number, a floating point number, and itself. -/
def ofGuess (value : String) : ConfigValue :=
  let lowered := Text.lowercase value
  if lowered = "true" then bool true
  else if lowered = "false" then bool false
  else
    match wholeNumber? value.toList with
    | some n => whole n
    | none =>
      match realNumber? value.toList with
      | some x => real x
      | none => text value

/-! ## Taking values for others -/

/-- A value taken for a text: numbers and truth values are written out. -/
def text? : ConfigValue → Option String
  | bool value => some (if value then "true" else "false")
  | whole value => some (Int.repr value)
  | real value => some value.text
  | text value => some value
  | nothing => none
  | list _ => none
  | table _ => none

/-- The natural number that a text is taken for: words for a truth value count as one and zero. -/
def wordOfText? (value : String) : Option UInt64 :=
  let lowered := Text.lowercase value
  if lowered = "true" ∨ lowered = "on" ∨ lowered = "yes" then some 1
  else if lowered = "false" ∨ lowered = "off" ∨ lowered = "no" then some 0
  else wordNumber? value.toList

/-- A value taken for a natural number of 64 bits. -/
def word? : ConfigValue → Option UInt64
  | bool value => some (if value then 1 else 0)
  | whole value =>
    if 0 ≤ value ∧ value < UInt64.size then some (UInt64.ofNat value.toNat) else none
  | real value => some value.toWord
  | text value => wordOfText? value
  | nothing => none
  | list _ => none
  | table _ => none

/-- The value under a key of a table. -/
def get? (key : String) : ConfigValue → Option ConfigValue
  | table entries => Dictionary.search key entries
  | _ => none

end ConfigValue
end Switchboard
