import Switchboard.Json.Value
import Switchboard.Uuid

/-!
# Typed readings of JSON values

How plain types and records are read from JSON values.  Numbers must be whole, in range, and not a
negative zero.  A record is an object, whose unknown members are passed over and whose known ones
may be given once, or an array of its fields in their order.

Main definitions:

- Definitions {lit}`Json.natBelow?` and {lit}`Json.intWithin?`: whole numbers in a range.
- Definitions {lit}`Json.get` and {lit}`Json.textAt`: one member of an object.
- Definition {lit}`Json.fields?`: the fields of a record.
- Definition {lit}`Json.Fields.require` and its companions: one field of a record.
-/

namespace Switchboard
namespace Json

variable {α β : Type}

/-! ## Plain types -/

/-- A text. -/
def text? : Json → Option String
  | text content => content
  | _ => none

/-- A whole number with a sign; a negative zero is none. -/
def int? : Json → Option Int
  | integer false n => some n
  | integer true n => if n = 0 then none else some (-(n : Int))
  | _ => none

/-- A whole number in a range. -/
def intWithin? (low high : Int) (value : Json) : Option Int :=
  value.int?.bind fun n => if low ≤ n ∧ n ≤ high then some n else none

/-- A natural number below a bound. -/
def natBelow? (bound : Nat) : Json → Option Nat
  | integer false n => if n < bound then some n else none
  | _ => none

/-- A natural number of 64 bits. -/
def uint64? (value : Json) : Option UInt64 :=
  (value.natBelow? UInt64.size).map UInt64.ofNat

/-- A natural number of 32 bits. -/
def uint32? (value : Json) : Option UInt32 :=
  (value.natBelow? UInt32.size).map UInt32.ofNat

/-- A whole number of 64 bits. -/
def int64? (value : Json) : Option Int64 :=
  (value.intWithin? Int64.minValue.toInt Int64.maxValue.toInt).map Int64.ofInt

/-- A whole number of 32 bits. -/
def int32? (value : Json) : Option Int32 :=
  (value.intWithin? Int32.minValue.toInt Int32.maxValue.toInt).map Int32.ofInt

/-- A whole number of 8 bits. -/
def int8? (value : Json) : Option Int8 :=
  (value.intWithin? Int8.minValue.toInt Int8.maxValue.toInt).map Int8.ofInt

/-- An identifier in any of its spellings. -/
def uuid? (value : Json) : Option Uuid :=
  value.text?.bind Uuid.parse

/-- A value that may be null. -/
def nullable? (read : Json → Option α) : Json → Option (Option α)
  | null => some none
  | value => (read value).map some

/-- An array of values of one type. -/
def list? (read : Json → Option α) : Json → Option (List α)
  | array items => items.mapM read
  | _ => none

/-- An array of exactly two values. -/
def pair? (first : Json → Option α) (second : Json → Option β) : Json → Option (α × β)
  | array [a, b] => do return (← first a, ← second b)
  | _ => none

/-! ## Looking into values -/

/-- Whether a value is null. -/
def isNull : Json → Bool
  | null => true
  | _ => false

/-- Whether a value is true. -/
def isTrue : Json → Bool
  | bool value => value
  | _ => false

/-- Whether a value is a given text. -/
def isWord (word : String) (value : Json) : Bool :=
  value.text? = some word

/-- The items of an array, of which there are none in any other value. -/
def elements : Json → List Json
  | array items => items
  | _ => []

/-! ## Records -/

/-- The fields of a record that were found, in the order of the record. -/
structure Fields where
  /-- Whether the record was written as an array, in which a field that may be missing from an
  object still needs its place. -/
  positional : Bool
  values : List (Option Json)

/-- The value of a member, if the object has it exactly once; the outer option is for repetition. -/
def member? (name : String) (members : List (String × Json)) : Option (Option Json) :=
  match members.filter fun entry => entry.1 = name with
  | [] => some none
  | [entry] => some (some entry.2)
  | _ => none

/-- The members of an object whose names are all sequences of characters. -/
def namedMembers? (members : List (Option String × Json)) : Option (List (String × Json)) :=
  members.mapM fun entry => entry.1.map fun name => (name, entry.2)

/-- The fields of a record with the given names. -/
def fields? (names : List String) : Json → Option Fields
  | object members => do
    let named ← namedMembers? members
    let values ← names.mapM fun name => member? name named
    return ⟨false, values⟩
  | array items =>
    if items.length ≤ names.length then
      some ⟨true, items.map some ++ List.replicate (names.length - items.length) none⟩
    else none
  | _ => none

/-- The members of an object without regard to their order, when a later one of a name wins. -/
def members? : Json → Option (List (String × Json))
  | object members => namedMembers? members
  | _ => none

/-- The last member of a name, or null if there is none. -/
def get (value : Json) (name : String) : Json :=
  match (value.members?.getD []).reverse.find? fun entry => entry.1 = name with
  | some entry => entry.2
  | none => null

/-- The text of a member. -/
def textAt? (value : Json) (name : String) : Option String :=
  (value.get name).text?

/-- The text of a member, empty if there is none. -/
def textAt (value : Json) (name : String) : String :=
  (value.textAt? name).getD ""

/-- The value of a member that is an object. -/
def objectAt? (value : Json) (name : String) : Option Json :=
  match value.get name with
  | object members => some (object members)
  | _ => none

end Json

namespace Json.Fields

variable {α : Type}

/-- A field that was found at a place. -/
def found (fields : Fields) (place : Nat) : Option Json :=
  (fields.values[place]?).join

/-- A field that must be there. -/
def require (fields : Fields) (place : Nat) (read : Json → Option α) : Option α :=
  (fields.found place).bind read

/-- A field that stands for a value of its own when it is missing. -/
def orElse (fields : Fields) (place : Nat) (read : Json → Option α) (default : α) : Option α :=
  match fields.found place with
  | some value => read value
  | none => some default

/-- A field that may be null, and may be missing from an object. -/
def optional (fields : Fields) (place : Nat) (read : Json → Option α) : Option (Option α) :=
  match fields.found place with
  | some value => nullable? read value
  | none => if fields.positional then none else some none

end Json.Fields
end Switchboard
