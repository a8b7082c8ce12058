import Switchboard.Json.Value

/-!
# Writing JSON

The compact form: no blanks, members in their order, and in texts only what must be escaped is
escaped, the short escapes coming first and control characters being written in four hexadecimal
digits.

Main results:

- Definition {lit}`Json.write`: the characters of a value.
- Definition {lit}`Json.compact`: the text of a value.
- Theorem {lit}`escape_of_plain`: a character that needs no escape stands for itself.
-/

namespace Switchboard
namespace Json

/-- Two hexadecimal digits. -/
def twoHexDigits (n : Nat) : List Char :=
  [Nat.digitChar (n / 16), Nat.digitChar (n % 16)]

/-- The characters that a character of a text is written with. -/
def escape (c : Char) : List Char :=
  if c = '"' then ['\\', '"']
  else if c = '\\' then ['\\', '\\']
  else if c = '\n' then ['\\', 'n']
  else if c = '\r' then ['\\', 'r']
  else if c = '\t' then ['\\', 't']
  else if c = '\x08' then ['\\', 'b']
  else if c = '\x0c' then ['\\', 'f']
  else if c.toNat < 32 then '\\' :: 'u' :: '0' :: '0' :: twoHexDigits c.toNat
  else [c]

/-- A character that needs no escape stands for itself. -/
theorem escape_of_plain {c : Char} (hquote : c ≠ '"') (hbackslash : c ≠ '\\')
    (hcontrol : 32 ≤ c.toNat) : escape c = [c] := by
  have hne : ∀ d : Char, d.toNat < 32 → c ≠ d := by
    rintro d hd rfl
    omega
  unfold escape
  rw [if_neg hquote, if_neg hbackslash, if_neg (hne _ (by decide)), if_neg (hne _ (by decide)),
    if_neg (hne _ (by decide)), if_neg (hne _ (by decide)), if_neg (hne _ (by decide)),
    if_neg (by omega)]

/-- The characters of a text, quoted. -/
def writeText (content : List Char) : List Char :=
  '"' :: content.flatMap escape ++ ['"']

/-- The characters of a natural number. -/
def writeNat (n : Nat) : List Char :=
  Nat.toDigits 10 n

/-- The characters of a sign. -/
def writeSign (negative : Bool) : List Char :=
  if negative then ['-'] else []

/-- The power of ten that all digits of a number are multiplied by. -/
def digitsPower (d : JsonDecimal) : Int :=
  d.power - d.places

/-- The characters of a number with an exponent, by its digits and their power of ten. -/
def writeDecimal (d : JsonDecimal) : List Char :=
  writeSign d.negative ++ writeNat d.digits ++ 'e' :: writeSign (digitsPower d < 0)
    ++ writeNat (digitsPower d).natAbs

/-- The characters of a text that may have half a surrogate pair, which is written as one that
stands alone. -/
def writeContent : Option String → List Char
  | some content => writeText content.toList
  | none => "\"\\ud800\"".toList

mutual

/-- The characters of a value. -/
def write : Json → List Char
  | null => ['n', 'u', 'l', 'l']
  | bool true => ['t', 'r', 'u', 'e']
  | bool false => ['f', 'a', 'l', 's', 'e']
  | integer negative magnitude => writeSign negative ++ writeNat magnitude
  | decimal value => writeDecimal value
  | text content => writeContent content
  | array items => '[' :: writeItems items ++ [']']
  | object members => '\x7b' :: writeMembers members ++ ['\x7d']

/-- The characters of the items of an array, with commas between them. -/
def writeItems : List Json → List Char
  | [] => []
  | [item] => write item
  | item :: rest => write item ++ ',' :: writeItems rest

/-- The characters of the members of an object, with commas between them. -/
def writeMembers : List (Option String × Json) → List Char
  | [] => []
  | [(key, value)] => writeContent key ++ ':' :: write value
  | (key, value) :: rest => writeContent key ++ ':' :: write value ++ ',' :: writeMembers rest

end

/-- The text of a value. -/
def compact (value : Json) : String :=
  String.ofList value.write

end Json
end Switchboard
