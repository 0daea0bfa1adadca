import Amalgam.Text.Ranges.Alphanumeric
import Amalgam.Text.Ranges.Digit
import Amalgam.Text.Ranges.Printable
/-!
# Character classes

Which characters count as blank, as part of a word, as a digit and as printable. A word character is any letter or
numeric character of any script, or the underscore; combining marks and pictographs are none. A digit need not be a
decimal digit: only decimal digits have a value in a numeral.
-/

namespace Amalgam.Text

/-- Membership in a list of closed ranges. -/
def inRanges (ranges : List (Nat × Nat)) (n : Nat) : Bool :=
  ranges.any fun r => r.1 ≤ n && n ≤ r.2

/-- White space, the four information separators included. -/
def isBlank (c : Char) : Bool :=
  inRanges [(9, 13), (28, 32), (133, 133), (160, 160), (5760, 5760), (8192, 8202), (8232, 8233), (8239, 8239),
    (8287, 8287), (12288, 12288)] c.toNat

/-- A character that identifiers are made of. -/
def isWord (c : Char) : Bool :=
  if c.toNat < 128 then c.isAlphanum || c == '_' else inRanges Ranges.alphanumeric c.toNat

/-- A character with a digit value, superscripts and circled digits included. -/
def isDigit (c : Char) : Bool :=
  if c.toNat < 128 then c.isDigit else inRanges Ranges.digit c.toNat

/-- The value of a decimal digit of any script. -/
def decimalValue? (c : Char) : Option Nat :=
  if c.toNat < 128 then
    if c.isDigit then some (c.toNat - '0'.toNat) else none
  else
    (Ranges.decimal.find? fun r => r.1 ≤ c.toNat && c.toNat ≤ r.2).map fun r => (c.toNat - r.1) % 10

/-- A character that is shown as it is when a text is quoted. -/
def isPrintable (c : Char) : Bool :=
  if c.toNat < 128 then 32 ≤ c.toNat && c.toNat < 127 else inRanges Ranges.printable c.toNat

theorem isWord_underscore : isWord '_' = true := by decide

theorem isWord_of_isAlphanum {c : Char} (h : c.isAlphanum = true) (hc : c.toNat < 128) : isWord c = true := by
  simp [isWord, hc, h]

end Amalgam.Text
