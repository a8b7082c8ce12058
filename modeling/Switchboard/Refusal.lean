import Switchboard.Decimal.Digits

/-!
# Refusals

What a payload says when it refuses to be written.  Its words may end in a place, the line and the
column that it is about, which is written after them.  Lines are counted from one, so a place on
line zero is none, and it is dropped from the words all the same.

Main definitions:

- Definition {lit}`Refusal.ofText`: reads the words and the place at their end apart.
- Definition {lit}`Refusal.message`: puts them together again.
-/

namespace Switchboard

/-- A place in a text. -/
structure Place where
  line : Nat
  column : Nat
deriving DecidableEq

namespace Place

/-- What stands before the number of a line. -/
def lineMark : List Char :=
  " at line ".toList

/-- What stands before the number of a column. -/
def columnMark : List Char :=
  " column ".toList

/-- The written form of a place, as it follows the words. -/
def chars (p : Place) : List Char :=
  lineMark ++ Nat.toDigits 10 p.line ++ columnMark ++ Nat.toDigits 10 p.column

/-- Read a number of 64 bits behind a mark at the end of a text that is given in reverse; gives back
what stands before the mark. -/
def splitNumber? (mark reversed : List Char) : Option (Nat × List Char) := do
  let n ← digitsNumber? (reversed.takeWhile Char.isDigit).reverse
  let before := reversed.dropWhile Char.isDigit
  if n < UInt64.size ∧ mark.reverse.isPrefixOf before then return (n, before.drop mark.length)
  else none

/-- Read a place at the end of a text that is given in reverse. -/
def split? (reversed : List Char) : Option (Place × List Char) := do
  let (column, before) ← splitNumber? columnMark reversed
  let (line, before) ← splitNumber? lineMark before
  return (⟨line, column⟩, before)

end Place

/-- Why a payload is not written. -/
structure Refusal where
  words : String
  /-- What it is about, if that is said. -/
  place : Option Place
deriving DecidableEq

namespace Refusal

/-- The refusal that a text states. -/
def ofText (text : String) : Refusal :=
  match Place.split? text.toList.reverse with
  | none => ⟨text, none⟩
  | some (place, before) =>
    ⟨String.ofList before.reverse, if place.line = 0 then none else some place⟩

/-- The wording of a refusal. -/
def message (r : Refusal) : String :=
  match r.place with
  | none => r.words
  | some place => r.words ++ String.ofList place.chars

end Refusal
end Switchboard
