import Switchboard.Decimal.Digits
import Switchboard.Json.Value

/-!
# Reading JSON

A strict reader: blanks only between tokens, no raw control characters in texts, no leading zeros,
and nothing after the value.  Half a surrogate pair is read, but as a text without content.

Each reader takes the characters that are left and gives back what it read with the rest.  Values
are read with a bound on their depth of nesting, for which the number of characters is enough.

Main definitions:

- Definition {lit}`Json.readValue`: reads one value from the front of the characters.
- Definition {lit}`Json.parse`: the value of a text, which must hold nothing else.
- Definition {lit}`Json.depth`: how deeply a value is nested.
-/

namespace Switchboard
namespace Json

/-! ## Blanks and words -/

/-- Whether a character may stand between tokens. -/
def isBlank (c : Char) : Bool :=
  c = ' ' || c = '\n' || c = '\t' || c = '\r'

/-- The characters after leading blanks. -/
def skipBlanks (cs : List Char) : List Char :=
  cs.dropWhile isBlank

/-- The characters after a word. -/
def dropWord? : List Char → List Char → Option (List Char)
  | [], cs => some cs
  | w :: word, c :: cs => if c = w then dropWord? word cs else none
  | _ :: _, [] => none

/-! ## Numbers -/

/-- Read a whole part: one zero, or digits that begin with another. -/
def readWhole (cs : List Char) : Option (List Char × List Char) :=
  match cs with
  | '0' :: rest => some (['0'], rest)
  | c :: _ =>
    if c.isDigit then some (cs.takeWhile Char.isDigit, cs.dropWhile Char.isDigit) else none
  | [] => none

/-- Read at least one digit. -/
def readDigits (cs : List Char) : Option (List Char × List Char) :=
  match cs.takeWhile Char.isDigit with
  | [] => none
  | digits => some (digits, cs.dropWhile Char.isDigit)

/-- Read a fraction, if one begins here. -/
def readFraction : List Char → Option (Option (List Char) × List Char)
  | '.' :: rest => (readDigits rest).map fun read => (some read.1, read.2)
  | cs => some (none, cs)

/-- Read a sign, if there is one; tells whether it is a minus. -/
def readSign : List Char → Bool × List Char
  | '-' :: rest => (true, rest)
  | '+' :: rest => (false, rest)
  | cs => (false, cs)

/-- Read the exponent after its mark. -/
def readPower (cs : List Char) : Option (Option Int × List Char) :=
  let (negative, rest) := readSign cs
  (readDigits rest).map fun read =>
    let magnitude := digitsValue read.1
    (some (if negative then -(magnitude : Int) else magnitude), read.2)

/-- Read an exponent, if one begins here. -/
def readExponent : List Char → Option (Option Int × List Char)
  | 'e' :: rest => readPower rest
  | 'E' :: rest => readPower rest
  | cs => some (none, cs)

/-- The value of the parts of a number. -/
def assemble (negative : Bool) (whole : List Char) (fraction : Option (List Char))
    (exponent : Option Int) : Json :=
  match fraction, exponent with
  | none, none => integer negative (digitsValue whole)
  | _, _ =>
    let places := fraction.getD []
    decimal ⟨negative, digitsValue (whole ++ places), places.length, exponent.getD 0⟩

/-- Read a number after its sign. -/
def readNumber (negative : Bool) (cs : List Char) : Option (Json × List Char) := do
  let (whole, rest) ← readWhole cs
  let (fraction, rest) ← readFraction rest
  let (exponent, rest) ← readExponent rest
  return (assemble negative whole fraction exponent, rest)

/-! ## Texts -/

/-- A unit of a text: a character, or half a surrogate pair. -/
inductive TextUnit where
  | char (c : Char)
  | high (half : Nat)
  | low (half : Nat)

/-- The value of a hexadecimal digit, in letters of either case. -/
def hexValue? (c : Char) : Option Nat :=
  if '0' ≤ c ∧ c ≤ '9' then some (c.toNat - '0'.toNat)
  else if 'a' ≤ c ∧ c ≤ 'f' then some (c.toNat - 'a'.toNat + 10)
  else if 'A' ≤ c ∧ c ≤ 'F' then some (c.toNat - 'A'.toNat + 10)
  else none

/-- The unit with a number of 16 bits. -/
def unitOf (n : Nat) : TextUnit :=
  if 0xD800 ≤ n ∧ n ≤ 0xDBFF then .high (n - 0xD800)
  else if 0xDC00 ≤ n ∧ n ≤ 0xDFFF then .low (n - 0xDC00)
  else .char (Char.ofNat n)

/-- The character of a short escape. -/
def shortEscape? (c : Char) : Option Char :=
  if c = '"' then some '"'
  else if c = '\\' then some '\\'
  else if c = '/' then some '/'
  else if c = 'b' then some '\x08'
  else if c = 'f' then some '\x0c'
  else if c = 'n' then some '\n'
  else if c = 'r' then some '\r'
  else if c = 't' then some '\t'
  else none

/-- The number of four hexadecimal digits. -/
def fourHex? (a b c d : Char) : Option Nat := do
  let a ← hexValue? a
  let b ← hexValue? b
  let c ← hexValue? c
  let d ← hexValue? d
  return ((a * 16 + b) * 16 + c) * 16 + d

/-- Read the units of a text up to its closing quote. -/
def readUnits : List Char → Option (List TextUnit × List Char)
  | [] => none
  | '"' :: rest => some ([], rest)
  | '\\' :: 'u' :: a :: b :: c :: d :: rest =>
    match fourHex? a b c d with
    | none => none
    | some n => (readUnits rest).map fun read => (unitOf n :: read.1, read.2)
  | '\\' :: c :: rest =>
    match shortEscape? c with
    | none => none
    | some e => (readUnits rest).map fun read => (.char e :: read.1, read.2)
  | c :: rest =>
    if c = '\\' ∨ c.toNat < 32 then none
    else (readUnits rest).map fun read => (.char c :: read.1, read.2)

/-- The characters that units stand for, unless half a surrogate pair stands alone. -/
def joinUnits : List TextUnit → Option (List Char)
  | [] => some []
  | .char c :: rest => (joinUnits rest).map (c :: ·)
  | .high h :: .low l :: rest =>
    (joinUnits rest).map (Char.ofNat (0x10000 + h * 0x400 + l) :: ·)
  | .high _ :: _ => none
  | .low _ :: _ => none

/-- Read a text after its opening quote. -/
def readText (cs : List Char) : Option (Option String × List Char) :=
  (readUnits cs).map fun read => ((joinUnits read.1).map String.ofList, read.2)

/-! ## Values -/

mutual

/-- Read one value from the front of the characters, within a bound on the nesting. -/
def readValue : Nat → List Char → Option (Json × List Char)
  | 0, _ => none
  | depth + 1, cs =>
    match cs with
    | 'n' :: rest => (dropWord? "ull".toList rest).map fun rest => (null, rest)
    | 't' :: rest => (dropWord? "rue".toList rest).map fun rest => (bool true, rest)
    | 'f' :: rest => (dropWord? "alse".toList rest).map fun rest => (bool false, rest)
    | '"' :: rest => (readText rest).map fun read => (text read.1, read.2)
    | '[' :: rest =>
      match skipBlanks rest with
      | ']' :: rest => some (array [], rest)
      | rest => (readItems depth rest).map fun read => (array read.1, read.2)
    | '\x7b' :: rest =>
      match skipBlanks rest with
      | '\x7d' :: rest => some (object [], rest)
      | rest => (readMembers depth rest).map fun read => (object read.1, read.2)
    | '-' :: rest => readNumber true rest
    | rest => readNumber false rest

/-- Read the items of an array up to its closing bracket. -/
def readItems : Nat → List Char → Option (List Json × List Char)
  | 0, _ => none
  | depth + 1, cs =>
    match readValue depth cs with
    | none => none
    | some (item, rest) =>
      match skipBlanks rest with
      | ']' :: rest => some ([item], rest)
      | ',' :: rest =>
        (readItems depth (skipBlanks rest)).map fun read => (item :: read.1, read.2)
      | _ => none

/-- Read the members of an object up to its closing brace. -/
def readMembers : Nat → List Char → Option (List (Option String × Json) × List Char)
  | 0, _ => none
  | depth + 1, cs =>
    match cs with
    | '"' :: rest =>
      match readText rest with
      | none => none
      | some (key, rest) =>
        match skipBlanks rest with
        | ':' :: rest =>
          match readValue depth (skipBlanks rest) with
          | none => none
          | some (value, rest) =>
            match skipBlanks rest with
            | '\x7d' :: rest => some ([(key, value)], rest)
            | ',' :: rest =>
              (readMembers depth (skipBlanks rest)).map fun read =>
                ((key, value) :: read.1, read.2)
            | _ => none
        | _ => none
    | _ => none

end

/-- The value that a list of characters stands for, blanks around it being passed over. -/
def parseChars (cs : List Char) : Option Json :=
  match readValue (2 * cs.length + 2) (skipBlanks cs) with
  | some (value, rest) => if skipBlanks rest = [] then some value else none
  | none => none

/-- The value that a text stands for, blanks around it being passed over. -/
def parse (text : String) : Option Json :=
  parseChars text.toList

mutual

/-- How deeply arrays and objects are nested in a value. -/
def depth : Json → Nat
  | array items => depthItems items + 1
  | object members => depthMembers members + 1
  | _ => 0

/-- The greatest depth among items. -/
def depthItems : List Json → Nat
  | [] => 0
  | item :: rest => max item.depth (depthItems rest)

/-- The greatest depth among members. -/
def depthMembers : List (Option String × Json) → Nat
  | [] => 0
  | (_, value) :: rest => max value.depth (depthMembers rest)

end

end Json
end Switchboard
