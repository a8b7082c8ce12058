import Switchboard.Text.CaseTable
import Switchboard.Text.Ranges

/-!
# Lowercase text

Lowering a text letter by letter, with the two places where the result is not one letter for one
letter: a capital I with a dot above becomes two characters, and a capital sigma takes its final
form where it ends a word.

Main results:

- Definition {lit}`lowercase`: the lowercase form of a text.
- Theorem {lit}`lowerPlain_of_ascii`: on ASCII only the capitals change, into their small
  letters.
-/

namespace Switchboard
namespace Text

/-- Whether a character has case and is not passed over. -/
def isCased (c : Char) : Bool :=
  inRanges casedRanges c.toNat

/-- Whether a character is passed over when the case of a neighbour is looked at. -/
def isCaseIgnorable (c : Char) : Bool :=
  inRanges ignorableRanges c.toNat

/-- The run that a code point belongs to, if it has a lowercase form of one character. -/
def caseRun? (point : Nat) : Option CaseRun :=
  lowercaseRuns.find? fun run =>
    run.first ≤ point && point ≤ run.last && (point - run.first) % run.stride = 0

/-- The lowercase form of a character that has one of a single character, else the character. -/
def lowerPlain (c : Char) : Char :=
  match caseRun? c.toNat with
  | some run => Char.ofNat (c.toNat + run.distance).toNat
  | none => c

/-- Whether the first character that is not passed over has case. -/
def meetsCased (neighbours : List Char) : Bool :=
  match neighbours.dropWhile isCaseIgnorable with
  | [] => false
  | c :: _ => isCased c

/-- The lowercase form of a capital sigma: final when a cased character comes before it and none
after it. -/
def lowerSigma (before after : List Char) : Char :=
  if meetsCased before && !meetsCased after then 'ς' else 'σ'

/-- Lower a text whose part already read is given in reverse. -/
def lowerAfter (before : List Char) : List Char → List Char
  | [] => []
  | c :: rest =>
    let lowered :=
      if c = 'Σ' then [lowerSigma before rest]
      else if c = 'İ' then ['i', Char.ofNat 0x307]
      else [lowerPlain c]
    lowered ++ lowerAfter (c :: before) rest

/-- The lowercase form of a list of characters. -/
def lowerChars (text : List Char) : List Char :=
  lowerAfter [] text

/-- The lowercase form of a text. -/
def lowercase (text : String) : String :=
  String.ofList (lowerChars text.toList)

/-- A Latin capital becomes its small letter, and every other ASCII character is left alone. -/
theorem lowerPlain_of_ascii {n : Nat} (h : n < 128) :
    lowerPlain (Char.ofNat n) = (Char.ofNat n).toLower := by
  revert n
  decide +kernel

end Text
end Switchboard
