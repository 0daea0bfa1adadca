import Amalgam.Text.Base64
/-!
# UTF-7

Text in seven bits. Most of ASCII stands for itself; everything else is written in base sixty-four as UTF-16, between a plus
sign and a minus sign, or another character that cannot belong to it. A plus sign is written with a minus sign after it.
-/

namespace Amalgam.Text.Utf7

/-- The sixteen bits of a row of digits, and what is left: the number of bits and their value. -/
def unitsOf : (bits value : Nat) → List Nat → List Nat × Nat × Nat
  | bits, value, [] => ([], bits, value)
  | bits, value, d :: rest =>
    let bits := bits + 6
    let value := value * 64 + d
    if bits < 16 then unitsOf bits value rest
    else
      let left := Nat.pow 2 (bits - 16)
      let (units, more) := unitsOf (bits - 16) (value % left) rest
      (value / left :: units, more)

/-- The characters of UTF-16 units; half of a pair alone is none. -/
def charsOf : List Nat → List Char
  | [] => []
  | high :: low :: rest =>
    if 0xD800 ≤ high && high < 0xDC00 && 0xDC00 ≤ low && low < 0xE000 then
      Char.ofNat (0x10000 + (high - 0xD800) * 1024 + (low - 0xDC00)) :: charsOf rest
    else (if 0xD800 ≤ high && high < 0xE000 then '\ufffd' else Char.ofNat high) :: charsOf (low :: rest)
  | [unit] => [if 0xD800 ≤ unit && unit < 0xE000 then '\ufffd' else Char.ofNat unit]

def digit? (b : UInt8) : Option Nat :=
  if b < 128 then Base64.digit? (Char.ofNat b.toNat) else none

/-- What follows a plus sign: characters and the number of bytes they take, or the bytes of a fault and a reason. -/
def shifted (rest : List UInt8) : Except (Nat × String) (List Char × Nat) :=
  match rest with
  | [] => .ok ([], 0)
  | b :: _ =>
    if b = 45 then .ok (['+'], 1)
    else
      let digits := rest.takeWhile fun b => (digit? b).isSome
      let (units, bits, value) := unitsOf 0 0 (digits.filterMap digit?)
      if digits.isEmpty then .error (1, "ill-formed sequence")
      else
        match rest.drop digits.length with
        | [] =>
          let isHalf := (units.getLast?.map fun u => decide (0xD800 ≤ u) && decide (u < 0xDC00)).getD false
          if isHalf || 6 ≤ bits || value != 0 then .error (digits.length, "unterminated shift sequence")
          else .ok (charsOf units, digits.length)
        | next :: _ =>
          if 6 ≤ bits then .error (digits.length + 1, "partial character in shift sequence")
          else if value != 0 then .error (digits.length + 1, "non-zero padding bits in shift sequence")
          else .ok (charsOf units, digits.length + if next = 45 then 1 else 0)

/-- A unit that stands for itself. -/
def isDirect (unit : Nat) : Bool :=
  [9, 10, 13].contains unit || (32 ≤ unit && unit < 126 && unit != '+'.toNat && unit != '\\'.toNat)

def digitByte (d : Nat) : UInt8 :=
  if d < 26 then (d + 65).toUInt8 else if d < 52 then (d + 71).toUInt8 else if d < 62 then (d - 4).toUInt8
  else if d = 62 then 43 else 47

/-- The digits of units, after bits that are left over from the unit before them. -/
def digitsOf : (bits value : Nat) → List Nat → List UInt8
  | bits, value, [] => if bits = 0 then [] else [digitByte (value * Nat.pow 2 (6 - bits))]
  | bits, value, unit :: rest =>
    let value := value * 65536 + unit
    let bits := bits + 16
    let count := bits / 6
    let left := Nat.pow 2 (bits % 6)
    (List.range count).map (fun i => digitByte (value / left / Nat.pow 64 (count - 1 - i) % 64)) ++
      digitsOf (bits % 6) (value % left) rest

/-- The bytes of UTF-16 units, after some that are still to be written in base sixty-four, the last first. -/
def bytesOf : (pending : List Nat) → List Nat → List UInt8
  | pending, [] => if pending.isEmpty then [] else 43 :: digitsOf 0 0 pending.reverse ++ [45]
  | pending, unit :: rest =>
    if isDirect unit then
      let b := unit.toUInt8
      let before := if pending.isEmpty then [] else
        43 :: digitsOf 0 0 pending.reverse ++ if (digit? b).isSome || b = 45 then [45] else []
      before ++ b :: bytesOf [] rest
    else if pending.isEmpty && unit = '+'.toNat then 43 :: 45 :: bytesOf [] rest
    else bytesOf (unit :: pending) rest

end Amalgam.Text.Utf7
