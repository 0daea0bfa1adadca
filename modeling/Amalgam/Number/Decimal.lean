import Amalgam.Text.Slice
/-!
# Decimal numerals

The written form of a number with an optional sign, point and exponent, and the value it denotes as a significand times
a power of ten. Reading is exact: no digit is dropped here.
-/

namespace Amalgam.Number

open Amalgam.Text

/-- `significand × 10 ^ exponent`, with a sign of its own so that minus zero exists. -/
structure Decimal where
  negative : Bool
  significand : Nat
  exponent : Int
deriving DecidableEq, Repr

/-- The longest run of digits that is read as a whole number. -/
def digitLimit : Nat := 4300

def digitLimitMessage (count : Nat) : String :=
  "Exceeds the limit (4300 digits) for integer string conversion: value has " ++ numeral count ++
    " digits; use sys.set_int_max_str_digits() to increase the limit"

def digitsValue (digits : List Char) : Nat :=
  digits.foldl (fun n c => n * 10 + (c.toNat - '0'.toNat)) 0

/-- Blanks that may surround a numeral: all but the information separators. -/
def isMargin (c : Char) : Bool :=
  isBlank c && !(28 ≤ c.toNat && c.toNat ≤ 31)

/-- Decimal digits of any script become the digits 0 to 9. -/
def plainDigit (c : Char) : Char :=
  match decimalValue? c with
  | some v => Char.ofNat ('0'.toNat + v)
  | none => c

def takeSign : List Char → Bool × List Char
  | '-' :: rest => (true, rest)
  | '+' :: rest => (false, rest)
  | rest => (false, rest)

/-- An exponent: a mark, an optional sign and digits to the end; nothing at all denotes zero. -/
def exponent? : List Char → Option Int
  | [] => some 0
  | mark :: rest =>
    let (negative, digits) := takeSign rest
    if (mark = 'e' || mark = 'E') && !digits.isEmpty && digits.all Char.isDigit then
      let n : Int := digitsValue digits
      some (if negative then -n else n)
    else none

/-- Reads `12`, `12.`, `.5`, `1.5e-3` and the like, after an optional sign. -/
def Decimal.ofChars? (cs : List Char) : Option Decimal :=
  let (negative, body) := takeSign cs
  let whole := body.takeWhile Char.isDigit
  let afterWhole := body.dropWhile Char.isDigit
  let (fraction, tail) := match afterWhole with
    | '.' :: rest => (rest.takeWhile Char.isDigit, rest.dropWhile Char.isDigit)
    | rest => ([], rest)
  if whole.isEmpty && fraction.isEmpty then none
  else (exponent? tail).map fun e => ⟨negative, digitsValue (whole ++ fraction), e - fraction.length⟩

/-- Underscores may stand between two digits, and are dropped; anywhere else they spoil the numeral. -/
def dropUnderscores? : (before : Char) → List Char → Option (List Char)
  | before, [] => if before = '_' then none else some []
  | before, c :: rest =>
    if c = '_' then
      if before.isDigit then dropUnderscores? c rest else none
    else if before = '_' && !c.isDigit then none
    else (dropUnderscores? c rest).map (c :: ·)

end Amalgam.Number
