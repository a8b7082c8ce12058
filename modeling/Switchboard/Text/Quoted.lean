import Switchboard.Text.HiddenTable
import Switchboard.Text.Ranges

/-!
# Quoted text

A text between double quotes in which everything that could not be told apart on sight is written
as an escape: short escapes for the common control characters, the number of any other character
that is not shown.

Main definitions:

- Definition {lit}`quotedChar`: how a character is shown.
- Definition {lit}`quoted`: the quoted form of a text.
-/

namespace Switchboard
namespace Text

/-- Whether a character is not shown as it is. -/
def isHidden (c : Char) : Bool :=
  inRanges hiddenRanges c.toNat

/-- The number of a character in hexadecimal digits, as an escape. -/
def numberEscape (c : Char) : List Char :=
  '\\' :: 'u' :: '\x7b' :: Nat.toDigits 16 c.toNat ++ ['\x7d']

/-- The characters by which a character is shown between double quotes. -/
def quotedChar (c : Char) : List Char :=
  if c = '\x00' then ['\\', '0']
  else if c = '\t' then ['\\', 't']
  else if c = '\r' then ['\\', 'r']
  else if c = '\n' then ['\\', 'n']
  else if c = '"' then ['\\', '"']
  else if c = '\\' then ['\\', '\\']
  else if isHidden c then numberEscape c
  else [c]

/-- The characters of a text between double quotes. -/
def quotedChars (text : List Char) : List Char :=
  '"' :: text.flatMap quotedChar ++ ['"']

/-- A text between double quotes. -/
def quoted (text : String) : String :=
  String.ofList (quotedChars text.toList)

end Text
end Switchboard
