import Amalgam.Number.Decimal
import Amalgam.Text.Escape
import Amalgam.Text.Quoted
/-!
# Faults inside strings and numbers

A string is read with its escapes only when it has been recognized as one. A string of bytes holds ASCII only; strings side
by side are one string, and bytes and text do not go together.
-/

namespace Amalgam.Console.Literal

open Amalgam.Text

/-- A string as it is written: the letters before it, and what stands between its quotes. -/
structure Written where
  letters : List Char
  body : List Char
deriving DecidableEq, Repr

namespace Written

def ofText (text : List Char) : Written :=
  let letters := text.takeWhile fun c => c != '\'' && c != '"'
  let quoted := text.drop letters.length
  let size := if 6 ≤ quoted.length && quoted.take 3 = List.replicate 3 (quoted.headD ' ') then 3 else 1
  ⟨letters.map Char.toLower, (quoted.drop size).take (quoted.length - 2 * size)⟩

def isBytes (w : Written) : Bool :=
  w.letters.contains 'b'

def isComputed (w : Written) : Bool :=
  w.letters.contains 'f'

/-- The first fault among the escapes of a body: where it is, its letter, how many characters after the backslash it takes,
and the reason. The first `taken` characters have been accounted for. -/
def escapeFault? (counts : Char → Bool) : (place taken : Nat) → List Char → Option (Nat × Nat × String)
  | _, _, [] => none
  | place, taken + 1, _ :: rest => escapeFault? counts (place + 1) taken rest
  | place, 0, c :: rest =>
    if c = '\\' then
      match Escape.read rest with
      | .fault size reason =>
        if (rest.head?.map counts).getD true then some (place, size, reason)
        else escapeFault? counts (place + 1) 1 rest
      | .chars _ size => escapeFault? counts (place + 1) size rest
    else escapeFault? counts (place + 1) 0 rest

/-- A body in ASCII, where every other character is an escape of ten characters. -/
def inAscii : List Char → List Char
  | [] => []
  | '\\' :: c :: rest =>
    if c.toNat < 128 then '\\' :: c :: inAscii rest else "\\u005c".toList ++ '\\' :: 'U' :: hex 8 c.toNat ++ inAscii rest
  | c :: rest => if c.toNat < 128 then c :: inAscii rest else '\\' :: 'U' :: hex 8 c.toNat ++ inAscii rest

end Written

/-- The first fault among the escapes of a text. -/
def textFault? (body : List Char) : Option String :=
  (Written.escapeFault? (fun _ => true) 0 0 (Written.inAscii body)).map fun (place, size, reason) =>
    "(unicode error) 'unicodeescape' codec can't decode bytes in position " ++ numeral place ++ "-" ++
      numeral (place + size) ++ ": " ++ reason

def Written.fault? (w : Written) : Option String :=
  if w.isBytes then
    if w.body.any fun c => 128 ≤ c.toNat then some "bytes can only contain ASCII literal characters"
    else if w.letters.contains 'r' then none
    else
      (escapeFault? (· = 'x') 0 0 w.body).map fun (place, _) =>
        "(value error) invalid \\x escape at position " ++ numeral place
  else if w.letters.contains 'r' || w.isComputed then none
  else textFault? w.body

/-- A whole decimal number may not have too many digits. -/
def numberFault? (text : List Char) : Option String :=
  let digits := text.filter (· != '_')
  if digits.all Char.isDigit && Number.digitLimit < digits.length then
    some (Number.digitLimitMessage digits.length ++
      " - Consider hexadecimal for huge integer literals to avoid decimal conversion limits.")
  else none

end Amalgam.Console.Literal
