import Amalgam.Number.Decimal
/-!
# Binary floating point

Numbers of 53 significant bits, as exact integers scaled by a power of two. A quotient is rounded to the nearest such
number, a tie to the even neighbour. The text of a number has the fewest digits that read back as the same number, and
of those the ones nearest to it; it is positional from 0.0001 up to 16 digits before the point and has an exponent
outside that range.
-/

namespace Amalgam.Number

open Amalgam.Text

/-- A floating-point number; the value of a finite one is `± significand × 2 ^ exponent`. -/
inductive Binary64
  | nan
  | infinite (negative : Bool)
  | finite (negative : Bool) (significand : Nat) (exponent : Int)
deriving DecidableEq, Repr

namespace Binary64

/-- The exponent of the smallest number, and the largest exponent. -/
def leastExponent : Int := -1074

def greatestExponent : Int := 971

/-- `n / d` to the nearest natural number, a tie to the even one. -/
def divNearest (n d : Nat) : Nat :=
  let q := n / d
  let r := n % d
  if 2 * r < d then q else if d < 2 * r then q + 1 else if q % 2 = 0 then q else q + 1

/-- `num / den / 2 ^ e` as a quotient of natural numbers. -/
def scaled (num den : Nat) (e : Int) : Nat × Nat :=
  (num * Nat.pow 2 (-e).toNat, den * Nat.pow 2 e.toNat)

/-- The exponent at which `num / den` has 53 bits, or the least one. -/
def exponentFor (num den : Nat) : Int :=
  let guess := max leastExponent ((num.log2 : Int) - den.log2 - 52)
  let (n, d) := scaled num den guess
  if n / d < Nat.pow 2 52 then max leastExponent (guess - 1) else guess

def ofRatio (negative : Bool) (num den : Nat) : Binary64 :=
  let e := exponentFor num den
  let (n, d) := scaled num den e
  let m := divNearest n d
  -- Rounding up may give one bit too many.
  let (m, e) := if m = Nat.pow 2 53 then (Nat.pow 2 52, e + 1) else (m, e)
  if greatestExponent < e then infinite negative else finite negative m e

def zero (negative : Bool) : Binary64 :=
  finite negative 0 leastExponent

/-- The number nearest to a decimal; exponents far outside the range decide at once. -/
def ofDecimal (d : Decimal) : Binary64 :=
  if d.significand = 0 then zero d.negative
  else
    let magnitude := ((Nat.toDigits 10 d.significand).length : Int) + d.exponent
    if 400 < magnitude then infinite d.negative
    else if magnitude < -400 then zero d.negative
    else ofRatio d.negative (d.significand * Nat.pow 10 d.exponent.toNat) (Nat.pow 10 (-d.exponent).toNat)

def ratio (significand : Nat) (exponent : Int) : Nat × Nat :=
  (significand * Nat.pow 2 exponent.toNat, Nat.pow 2 (-exponent).toNat)

/-! ### Arithmetic -/

def negate : Binary64 → Binary64
  | nan => nan
  | infinite negative => infinite !negative
  | finite negative significand exponent => finite (!negative) significand exponent

/-- The number nearest to a product; infinity times zero is no number. -/
def mul : Binary64 → Binary64 → Binary64
  | finite a m e, finite b n f =>
    if m = 0 || n = 0 then zero (a != b)
    else
      let (p, q) := ratio m e
      let (r, s) := ratio n f
      ofRatio (a != b) (p * r) (q * s)
  | nan, _ => nan
  | _, nan => nan
  | infinite a, finite b n _ => if n = 0 then nan else infinite (a != b)
  | finite a m _, infinite b => if m = 0 then nan else infinite (a != b)
  | infinite a, infinite b => infinite (a != b)

/-- The number nearest to a sum; opposite infinities have none, and a sum of zero is positive unless both parts are
negative zeros. -/
def add : Binary64 → Binary64 → Binary64
  | finite a m e, finite b n f =>
    let (p, q) := ratio m e
    let (r, s) := ratio n f
    let x : Int := if a then -(p * s : Nat) else (p * s : Nat)
    let y : Int := if b then -(r * q : Nat) else (r * q : Nat)
    let sum := x + y
    if sum = 0 then zero (a && b) else ofRatio (sum < 0) sum.natAbs (q * s)
  | nan, _ => nan
  | _, nan => nan
  | infinite a, infinite b => if a = b then infinite a else nan
  | infinite a, finite .. => infinite a
  | finite .., infinite b => infinite b

def ofNat? (n : Nat) : Option Binary64 :=
  if n = 0 then some (zero false)
  else
    match ofRatio false n 1 with
    | infinite _ => none
    | x => some x

/-! ### Text -/

/-- The position of the decimal point: the value lies below `10 ^ p` and not below `10 ^ (p - 1)`. -/
def pointOf (num den : Nat) : Int :=
  if den ≤ num then (Nat.toDigits 10 (num / den)).length
  else 1 - ((Nat.toDigits 10 ((den - 1) / num)).length : Int)

/-- The better of the two neighbours of the value among decimals of `n` digits, if either reads back. -/
def readsBackWith (significand : Nat) (exponent : Int) (n : Nat) : Option Decimal :=
  let (num, den) := ratio significand exponent
  let unit := pointOf num den - n
  let (num, den) := (num * Nat.pow 10 (-unit).toNat, den * Nat.pow 10 unit.toNat)
  let below := num / den
  let nearest := divNearest num den
  -- Below a power of two the numbers lie closer, so the farther neighbour may be the one that reads back.
  let other := if nearest = below then below + 1 else below
  let good (s : Nat) : Bool := ofDecimal ⟨false, s, unit⟩ == finite false significand exponent
  if good nearest then some ⟨false, nearest, unit⟩
  else if good other then some ⟨false, other, unit⟩
  else none

def exactDecimal (significand : Nat) (exponent : Int) : Decimal :=
  ⟨false, significand * Nat.pow 2 exponent.toNat * Nat.pow 5 (-exponent).toNat, -((-exponent).toNat : Int)⟩

def shortest (significand : Nat) (exponent : Int) : Decimal :=
  ((List.range 17).findSome? fun n => readsBackWith significand exponent (n + 1)).getD (exactDecimal significand exponent)

/-- Digits without zeros at the end, and the position of the point among them. -/
def digitsAndPoint (d : Decimal) : List Char × Int :=
  let digits := Nat.toDigits 10 d.significand
  ((digits.reverse.dropWhile (· = '0')).reverse, digits.length + d.exponent)

def exponentText (e : Int) : List Char :=
  (if e < 0 then '-' else '+') :: padStart 2 '0' (Nat.toDigits 10 e.natAbs)

/-- The text of a positive number from its digits and the position of its point. -/
def layout (digits : List Char) (point : Int) : List Char :=
  if point < -3 || 16 < point then
    let tail := digits.drop 1
    digits.take 1 ++ (if tail.isEmpty then [] else '.' :: tail) ++ 'e' :: exponentText (point - 1)
  else if point ≤ 0 then '0' :: '.' :: (List.replicate (-point).toNat '0' ++ digits)
  else if (digits.length : Int) ≤ point then
    digits ++ List.replicate (point.toNat - digits.length) '0' ++ ['.', '0']
  else digits.take point.toNat ++ '.' :: digits.drop point.toNat

def chars : Binary64 → List Char
  | nan => ['n', 'a', 'n']
  | infinite negative => (if negative then ['-'] else []) ++ ['i', 'n', 'f']
  | finite negative significand exponent =>
    let body :=
      if significand = 0 then ['0', '.', '0']
      else
        let (digits, point) := digitsAndPoint (shortest significand exponent)
        layout digits point
    (if negative then ['-'] else []) ++ body

def text (x : Binary64) : String :=
  String.ofList x.chars

/-! ### Reading -/

def ofWord? (cs : List Char) : Option Binary64 :=
  let (negative, word) := takeSign cs
  let word := String.ofList (word.map Char.toLower)
  if word = "inf" || word = "infinity" then some (infinite negative)
  else if word = "nan" then some nan
  else none

/-- Reads a numeral as it may be typed: blanks around it, underscores between digits, digits of any script, and the
words for infinity and for no number. -/
def ofText? (s : String) : Option Binary64 :=
  let body := ((s.toList.dropWhile isMargin).reverse.dropWhile isMargin).reverse.map plainDigit
  match dropUnderscores? ' ' body with
  | none => none
  | some cs =>
    match Decimal.ofChars? cs with
    | some d => some (ofDecimal d)
    | none => if body.contains '_' then none else ofWord? cs

/-! ### Comparison -/

def isZero : Binary64 → Bool
  | finite _ 0 _ => true
  | _ => false

/-- At most zero; what is not a number is neither below nor above it. -/
def nonPositive : Binary64 → Bool
  | nan => false
  | infinite negative => negative
  | finite negative significand _ => negative || significand = 0

def toInt? : Binary64 → Option Int
  | finite negative significand exponent =>
    let (num, den) := ratio significand exponent
    if num % den = 0 then some (if negative then -(num / den : Nat) else (num / den : Nat)) else none
  | _ => none

/-- Equality of values: both zeros are equal, and what is not a number equals nothing. -/
def same : Binary64 → Binary64 → Bool
  | nan, _ => false
  | _, nan => false
  | x, y => x = y || (x.isZero && y.isZero)

def below : Binary64 → Binary64 → Bool
  | nan, _ => false
  | _, nan => false
  | infinite a, infinite b => a && !b
  | infinite a, finite .. => a
  | finite .., infinite b => !b
  | finite a m e, finite b n f =>
    let (p, q) := ratio m e
    let (r, s) := ratio n f
    let x : Int := if a then -(p * s : Nat) else (p * s : Nat)
    let y : Int := if b then -(r * q : Nat) else (r * q : Nat)
    x < y

end Binary64

end Amalgam.Number
