import Switchboard.Decimal.Stepwise
import Switchboard.Json.Reader
import Switchboard.Settings.Value

/-!
# Sources of settings

Where configuration values come from: environment variables, a JSON document, and single values
laid over either.  A key may be a path through tables, with points between its parts.  Keys do not
depend on the case of their letters.

Main definitions:

- Definition {lit}`ConfigPath.parse?`: the steps of a key that is a path.
- Definition {lit}`ConfigValue.write`: puts a value at a path.
- Definitions {lit}`Configuration.ofEnvironment` and {lit}`Configuration.ofDocument?`: the sources.
-/

namespace Switchboard

/-! ## Paths -/

/-- A step of a path: into a table, or into a list, which counts from its end below zero. -/
inductive PathStep where
  | key (name : String)
  | index (place : Int)
deriving DecidableEq

namespace ConfigPath

/-- Whether a character may stand in a name, as a plain blank may. -/
def isNameChar (c : Char) : Bool :=
  c.isAlphanum || c = '_' || c = '-' || c = ' '

/-- Whether a character may stand around the number of an index. -/
def isPadding (c : Char) : Bool :=
  c = ' ' || c = '\t'

/-- Read a name of at least one character. -/
def readName (cs : List Char) : Option (String × List Char) :=
  match cs.takeWhile isNameChar with
  | [] => none
  | name => some (String.ofList name, cs.dropWhile isNameChar)

/-- Split a minus off, when there is one. -/
def splitMinus : List Char → Bool × List Char
  | '-' :: rest => (true, rest)
  | cs => (false, cs)

/-- Read a number up to a closing bracket. -/
def readIndex (cs : List Char) : Option (Int × List Char) :=
  let (negative, cs) := splitMinus (cs.dropWhile isPadding)
  match (cs.dropWhile Char.isDigit).dropWhile isPadding with
  | ']' :: rest => (signedNumber? negative (cs.takeWhile Char.isDigit)).map fun n => (n, rest)
  | _ => none

/-- Read the steps after the first, each of which takes at least one character. -/
def readSteps : Nat → List Char → Option (List PathStep)
  | _, [] => some []
  | 0, _ => none
  | bound + 1, '.' :: rest => do
    let (name, rest) ← readName rest
    return .key name :: (← readSteps bound rest)
  | bound + 1, '[' :: rest => do
    let (place, rest) ← readIndex rest
    return .index place :: (← readSteps bound rest)
  | _, _ => none

/-- The steps of a key, if it is a path: a name, and then any number of names after points and of
numbers in brackets. -/
def parse? (key : String) : Option (List PathStep) := do
  let (name, rest) ← readName key.toList
  return .key name :: (← readSteps rest.length rest)

/-- The steps of a key in small letters, which as a whole is the only step if it is no path. -/
def ofKey (key : String) : List PathStep :=
  let lowered := Text.lowercase key
  (parse? lowered).getD [.key lowered]

end ConfigPath

/-! ## Writing at a path -/

namespace ConfigValue

/-- The entries of a value, of which there are none unless it is a table. -/
def entries : ConfigValue → List (String × ConfigValue)
  | table entries => entries
  | _ => []

/-- The items of a value, of which there are none unless it is a list. -/
def items : ConfigValue → List ConfigValue
  | list items => items
  | _ => []

/-- Put a value under a key, over an earlier one. -/
def put (key : String) (value : ConfigValue) :
    List (String × ConfigValue) → List (String × ConfigValue)
  | [] => [(key, value)]
  | (k, v) :: rest => if k = key then (key, value) :: rest else (k, v) :: put key value rest

/-- The entries of which, under each key, the last one counts. -/
def keepLast (entries : List (String × ConfigValue)) : List (String × ConfigValue) :=
  entries.foldl (fun kept entry => put entry.1 entry.2 kept) []

mutual

/-- Lay a value over another under a key: the entries of a table are laid over what is there, which
an empty table so leaves alone; everything else takes its place. -/
def merge (target : ConfigValue) (key : String) (value : ConfigValue) : ConfigValue :=
  let lowered := Text.lowercase key
  match value with
  | table incoming =>
    let below := (Dictionary.search lowered target.entries).getD (table [])
    table (put lowered (mergeAll below incoming) target.entries)
  | other => table (put lowered other target.entries)

/-- Lay all entries of a table over another. -/
def mergeAll (target : ConfigValue) : List (String × ConfigValue) → ConfigValue
  | [] => target
  | (key, value) :: rest => mergeAll (merge target key value) rest

end

/-- The place in a list that an index means, counted from the end below zero. -/
def placeOf (index : Int) (length : Nat) : Nat :=
  if 0 ≤ index then index.toNat else (length : Int) - index.natAbs |>.toNat

/-- Put a value at a place of a list, which grows as far as it must. -/
def putAt (place : Nat) (value : ConfigValue) (items : List ConfigValue) : List ConfigValue :=
  (items ++ List.replicate (place + 1 - items.length) nothing).set place value

/-- Put a value at the end of a path. -/
def write (target : ConfigValue) : List PathStep → ConfigValue → ConfigValue
  | [], value => value
  | [.key name], value => merge target name value
  | .key name :: path, value =>
    let lowered := Text.lowercase name
    let below := (Dictionary.search lowered target.entries).getD nothing
    table (put lowered (write below path value) target.entries)
  | .index index :: path, value =>
    let place := placeOf index target.items.length
    let below := (target.items[place]?).getD nothing
    list (putAt place (write below path value) target.items)

end ConfigValue

/-! ## Sources -/

/-- What a JSON number is taken for: a whole number of 64 bits, else a floating point number, as
which a negative zero counts too. -/
def ConfigValue.ofNumber? (negative : Bool) (magnitude : Nat) : Option ConfigValue :=
  let value : Int := if negative then -(magnitude : Int) else magnitude
  if ¬(negative ∧ magnitude = 0) ∧ Int64.minValue.toInt ≤ value ∧
      value ≤ Int64.maxValue.toInt then some (.whole value)
  else (Binary64.stepwise? negative magnitude 0 0).map .real

mutual

/-- The configuration value of a JSON value, unless a number is too large or a text is broken. -/
def ConfigValue.ofJson? : Json → Option ConfigValue
  | .null => some .nothing
  | .bool value => some (.bool value)
  | .integer negative magnitude => ConfigValue.ofNumber? negative magnitude
  | .decimal d => (Binary64.stepwise? d.negative d.digits d.places d.power).map .real
  | .text content => content.map .text
  | .array items => (ConfigValue.ofItems? items).map .list
  | .object members =>
    (ConfigValue.ofMembers? members).map fun entries => .table (ConfigValue.keepLast entries)

/-- The configuration values of the items of an array. -/
def ConfigValue.ofItems? : List Json → Option (List ConfigValue)
  | [] => some []
  | item :: rest => do return (← ConfigValue.ofJson? item) :: (← ConfigValue.ofItems? rest)

/-- The configuration values of the members of an object. -/
def ConfigValue.ofMembers? : List (Option String × Json) → Option (List (String × ConfigValue))
  | [] => some []
  | (key, value) :: rest => do
    let name ← key
    return (name, ← ConfigValue.ofJson? value) :: (← ConfigValue.ofMembers? rest)

end

namespace Configuration

/-- A configuration without values. -/
def empty : ConfigValue :=
  .table []

/-- Put values at paths, one after the other. -/
def writeAll (configuration : ConfigValue) (placed : List (List PathStep × ConfigValue)) :
    ConfigValue :=
  placed.foldl (fun c entry => c.write entry.1 entry.2) configuration

/-- The configuration of values under their keys. -/
def ofEntries (entries : List (String × ConfigValue)) : ConfigValue :=
  writeAll empty (entries.map fun entry => (ConfigPath.ofKey entry.1, entry.2))

/-- What the names of the variables begin with, in small letters. -/
def variableHead : List Char :=
  "cqrs__".toList

/-- Replace each double underscore by a point. -/
def pointed : List Char → List Char
  | '_' :: '_' :: rest => '.' :: pointed rest
  | c :: rest => c :: pointed rest
  | [] => []

/-- The key that the name of a variable stands for, if it is one of the switchboard's. -/
def variableKey? (name : String) : Option String :=
  let lowered := Text.lowerChars name.toList
  if variableHead.isPrefixOf lowered then
    some (String.ofList (pointed (lowered.drop variableHead.length)))
  else none

/-- The configuration in environment variables, whose values are guessed. -/
def ofEnvironment (environment : List (String × String)) : ConfigValue :=
  ofEntries <| environment.filterMap fun entry =>
    (variableKey? entry.1).map fun key => (key, ConfigValue.ofGuess entry.2)

/-- How deeply a document may be nested. -/
def maxDepth : Nat :=
  127

/-- The configuration in a document, which must be a JSON object. -/
def ofDocument? (document : String) : Option ConfigValue := do
  let value ← Json.parse document
  if value.depth ≤ maxDepth then
    match ← ConfigValue.ofJson? value with
    | .table entries => return ofEntries entries
    | _ => none
  else none

end Configuration
end Switchboard
