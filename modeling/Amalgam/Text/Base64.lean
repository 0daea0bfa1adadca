/-!
# Base sixty-four

Bytes written in groups of four digits of six bits each. Characters outside the alphabet are passed over. Padding that
completes a group ends the text, whatever follows it; any other padding is passed over too. A text that stops inside a
group stands for no bytes.
-/

namespace Amalgam.Text.Base64

def digit? (c : Char) : Option Nat :=
  if 'A' ≤ c && c ≤ 'Z' then some (c.toNat - 'A'.toNat)
  else if 'a' ≤ c && c ≤ 'z' then some (c.toNat - 'a'.toNat + 26)
  else if c.isDigit then some (c.toNat - '0'.toNat + 52)
  else if c = '+' then some 62
  else if c = '/' then some 63
  else none

/-- Decodes the rest of a text after `filled` digits of a group, whose last bits are `left`, and after `pads` marks of
padding in a row. -/
def decodeFrom (filled left pads : Nat) : List Char → Option (List UInt8)
  | [] => if filled = 0 then some [] else none
  | c :: rest =>
    if c = '=' then
      if filled < 2 then decodeFrom filled left pads rest
      else if 4 ≤ filled + pads + 1 then some []
      else decodeFrom filled left (pads + 1) rest
    else
      match digit? c with
      | none => decodeFrom filled left pads rest
      | some d =>
        if filled = 0 then decodeFrom 1 d 0 rest
        else if filled = 1 then (decodeFrom 2 (d % 16) 0 rest).map ((left * 4 + d / 16).toUInt8 :: ·)
        else if filled = 2 then (decodeFrom 3 (d % 4) 0 rest).map ((left * 16 + d / 4).toUInt8 :: ·)
        else (decodeFrom 0 0 0 rest).map ((left * 64 + d).toUInt8 :: ·)

def decode? (cs : List Char) : Option (List UInt8) :=
  decodeFrom 0 0 0 cs

example : decode? "QUI=QUI=".toList = some [65, 66] := by decide
example : decode? "QQ=Q".toList = none := by decide

end Amalgam.Text.Base64
