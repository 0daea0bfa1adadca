import Amalgam.Number.Decimal
import Amalgam.Number.Digit
import Amalgam.Text.Quoted
/-!
# Whole numerals

A whole number as it may be typed in some base: blanks around it, a sign, the mark of the base, and digits of any script.
A numeral in base ten has a limited number of digits.
-/

namespace Amalgam.Number

open Amalgam.Text

/-- Why a text is no whole number. -/
inductive IntegerFault
  | notNumeral (base : Nat) (text : String)
  | tooManyDigits (count : Nat)
deriving DecidableEq, Repr

def IntegerFault.message : IntegerFault → String
  | notNumeral base text =>
    "invalid literal for int() with base " ++ numeral base ++ ": " ++ String.ofList ((quoted text).toList.take 200)
  | tooManyDigits count => digitLimitMessage count

def baseMark? (base : Nat) : Option Char :=
  [(2, 'b'), (8, 'o'), (16, 'x')].lookup base

def dropBaseMark (base : Nat) : List Char → List Char
  | '0' :: mark :: rest => if baseMark? base = some mark.toLower then rest else '0' :: mark :: rest
  | cs => cs

def readInteger (base : Nat) (cs : List Char) : Except IntegerFault Int :=
  let (negative, body) := takeSign ((cs.dropWhile isMargin).map plainDigit)
  let body := dropBaseMark base body
  let digits := body.takeWhile fun c => (digitIn? base c).isSome
  let after := body.drop digits.length
  if base = 10 && digitLimit < digits.length then .error (.tooManyDigits digits.length)
  else if digits.isEmpty || !after.all isMargin then .error (.notNumeral base (String.ofList cs))
  else
    let n := digits.foldl (fun n c => n * base + (digitIn? base c).getD 0) 0
    .ok (if negative then -(n : Int) else n)

example : (readInteger 8 "0o17".toList).toOption = some 15 := by decide
example : (readInteger 10 " -5 ".toList).toOption = some (-5) := by decide
example : (readInteger 2 "12".toList).toOption = none := by decide

end Amalgam.Number
