/-!
# Universally unique identifiers

Identifiers of 128 bits, their written form in five groups of hexadecimal digits, and the four
spellings that are read: the groups with hyphens, the same in braces or after {lit}`urn:uuid:`,
and the 32 digits alone.

Main definitions:

- Definition {lit}`Uuid.text`: the written form, in small letters with hyphens.
- Definition {lit}`Uuid.parse`: reads the four spellings, in letters of any case.
- Definition {lit}`Uuid.random`: the identifiers of the random version, by number.
-/

namespace Switchboard

/-- An identifier of 128 bits. -/
structure Uuid where
  value : Nat
  isLt : value < Nat.pow 2 128
deriving DecidableEq

namespace Uuid

/-- The identifier whose bits are all zero. -/
def nil : Uuid :=
  ⟨0, by decide⟩

instance : Inhabited Uuid := ⟨nil⟩

/-! ## Digits -/

/-- The lowest hexadecimal digits of a number, as many as asked for, the highest first. -/
def hexDigits : Nat → Nat → List Char
  | 0, _ => []
  | width + 1, n => hexDigits width (n / 16) ++ [Nat.digitChar (n % 16)]

/-- The value of a hexadecimal digit, in letters of either case. -/
def hexValue? (c : Char) : Option Nat :=
  if '0' ≤ c ∧ c ≤ '9' then some (c.toNat - '0'.toNat)
  else if 'a' ≤ c ∧ c ≤ 'f' then some (c.toNat - 'a'.toNat + 10)
  else if 'A' ≤ c ∧ c ≤ 'F' then some (c.toNat - 'A'.toNat + 10)
  else none

/-- The number written by hexadecimal digits, read on from an earlier part. -/
def readHex : Nat → List Char → Option Nat
  | n, [] => some n
  | n, c :: rest => (hexValue? c).bind fun digit => readHex (n * 16 + digit) rest

/-! ## Groups -/

/-- The lengths of the groups in the written form. -/
def groups : List Nat :=
  [8, 4, 4, 4, 12]

/-- Put hyphens between groups of the given lengths. -/
def hyphenate : List Nat → List Char → List Char
  | [], _ => []
  | [length], digits => digits.take length
  | length :: lengths, digits =>
    digits.take length ++ '-' :: hyphenate lengths (digits.drop length)

/-- Take the hyphens out from between groups of the given lengths. -/
def unhyphenate? : List Nat → List Char → Option (List Char)
  | [], digits => if digits = [] then some [] else none
  | [length], digits => if digits.length = length then some digits else none
  | length :: lengths, digits =>
    match digits.drop length with
    | '-' :: rest => (unhyphenate? lengths rest).map (digits.take length ++ ·)
    | _ => none

/-! ## Written forms -/

/-- The written form, in small letters with hyphens. -/
def text (id : Uuid) : String :=
  String.ofList (hyphenate groups (hexDigits 32 id.value))

/-- The identifier with these 32 digits. -/
def ofDigits? (digits : List Char) : Option Uuid :=
  if digits.length = 32 then
    (readHex 0 digits).bind fun n => if h : n < Nat.pow 2 128 then some ⟨n, h⟩ else none
  else none

/-- The identifier written in groups. -/
def ofGroups? (digits : List Char) : Option Uuid :=
  (unhyphenate? groups digits).bind ofDigits?

/-- The letters that introduce an identifier as a resource name; their case does not count. -/
def resourceName : List Char :=
  "urn:uuid:".toList

/-- The identifier that a text spells: in groups, in groups inside braces, in groups as a resource
name, or as bare digits. -/
def parse (text : String) : Option Uuid :=
  let cs := text.toList
  if cs.length = 32 then ofDigits? cs
  else if cs.length = 36 then ofGroups? cs
  else if cs.length = 38 then
    if cs.head? = some '\x7b' ∧ cs.getLast? = some '\x7d' then ofGroups? (cs.tail.dropLast)
    else none
  else if cs.length = 45 then
    if resourceName.isPrefixOf (cs.map Char.toLower) then ofGroups? (cs.drop resourceName.length)
    else none
  else none

/-! ## Random identifiers -/

/-- The identifier of the random version whose free bits write the number: 60 bits above the mark
of the variant and 62 below it. -/
def random (n : Nat) : Uuid :=
  let low := n % Nat.pow 2 62
  let high := n / Nat.pow 2 62 % Nat.pow 2 60
  let value :=
    high / Nat.pow 2 12 * Nat.pow 2 80 + 4 * Nat.pow 2 76 + high % Nat.pow 2 12 * Nat.pow 2 64 +
      2 * Nat.pow 2 62 + low
  ⟨value % Nat.pow 2 128, Nat.mod_lt _ (by decide)⟩

end Uuid
end Switchboard
