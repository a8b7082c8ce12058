/-!
# JSON values

The values that JSON texts stand for.  Numbers keep what their text tells: whether they are written
with a fraction or an exponent, and the sign of a zero.  A text with half a surrogate pair stands
for no sequence of characters, but is a value that may be passed over.
-/

namespace Switchboard

/-- The parts of a number that is written with a fraction or an exponent. -/
structure JsonDecimal where
  negative : Bool
  /-- All digits, before and after the point, read as a whole number. -/
  digits : Nat
  /-- How many of the digits stand after the point. -/
  places : Nat
  /-- The power of ten that the exponent writes. -/
  power : Int
deriving DecidableEq

/-- A JSON value.  Objects keep their members in the order of writing, with repetitions. -/
inductive Json where
  | null
  | bool (value : Bool)
  /-- A number without fraction and exponent. -/
  | integer (negative : Bool) (magnitude : Nat)
  /-- A number with a fraction or an exponent. -/
  | decimal (value : JsonDecimal)
  /-- A text, unless it has half a surrogate pair. -/
  | text (content : Option String)
  | array (items : List Json)
  | object (members : List (Option String × Json))

namespace Json

/-- The value of a text. -/
def str (content : String) : Json :=
  text (some content)

/-- The value of a natural number. -/
def nat (n : Nat) : Json :=
  integer false n

/-- The value of a whole number. -/
def int (n : Int) : Json :=
  integer (n < 0) n.natAbs

/-- The value of a list of texts. -/
def strs (contents : List String) : Json :=
  array (contents.map str)

/-- The object with the given members. -/
def record (members : List (String × Json)) : Json :=
  object (members.map fun member => (some member.1, member.2))

/-- The value of something that may be missing. -/
def optional {α : Type} (value : α → Json) : Option α → Json
  | some content => value content
  | none => null

/-- The value of a text that may be missing. -/
def optionalStr : Option String → Json :=
  optional str

end Json
end Switchboard
