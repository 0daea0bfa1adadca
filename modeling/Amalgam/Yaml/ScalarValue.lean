import Amalgam.Text.Base64
import Amalgam.Text.LetterCase
import Amalgam.Value
import Amalgam.Yaml.Resolve
import Amalgam.Yaml.Token
/-!
# Values of scalars

What the text of a scalar stands for, by its tag. A text of the right form may still denote nothing, such as the thirtieth
of February, and a text that was given its tag need not even have the form.
-/

namespace Amalgam.Yaml

open Amalgam.Number Amalgam.Text

/-- A whole number in some base, with a sign that was read before it. -/
def signedIn (base : Nat) (negative : Bool) (cs : List Char) : Except Fault Value := do
  let n ← (readInteger base cs).mapError .integer
  return .int (if negative then -n else n)

/-- The value of places in base sixty, the first the highest. -/
def sixtieths (places : List Int) : Int :=
  places.foldl (fun n p => n * 60 + p) 0

def integer (text : List Char) : Except Fault Value := do
  let cs := text.filter (· != '_')
  let negative := cs.head? = some '-'
  match unsigned cs with
  | [] => throw .emptyNumeral
  | ['0'] => return .int 0
  | '0' :: 'b' :: rest => signedIn 2 negative rest
  | '0' :: 'x' :: rest => signedIn 16 negative rest
  | '0' :: rest => signedIn 8 negative ('0' :: rest)
  | body =>
    if body.contains ':' then
      let n := sixtieths (← (pieces ':' body).mapM fun p => (readInteger 10 p).mapError .integer)
      return .int (if negative then -n else n)
    else signedIn 10 negative body

def readReal (cs : List Char) : Except Fault Binary64 :=
  match Binary64.ofText? (String.ofList cs) with
  | some x => .ok x
  | none => .error (.notReal (String.ofList cs))

/-- Places in base sixty, the first the lowest, added up to a sum, where `unit` is the value of the next place. -/
def addPlaces (sum : Binary64) (unit : Nat) : List Binary64 → Except Fault Binary64
  | [] => .ok sum
  | place :: rest =>
    match Binary64.ofNat? unit with
    | some u => addPlaces (sum.add (place.mul u)) (unit * 60) rest
    | none => .error .hugePlace

def magnitude (body : List Char) : Except Fault Binary64 := do
  if body = ".inf".toList then return .infinite false
  else if body = ".nan".toList then return .nan
  else if body.contains ':' then addPlaces (.zero false) 1 (← (pieces ':' body).mapM readReal).reverse
  else readReal body

/-- The text of a floating-point number in plain form: without underscores and in lower case. -/
def realText (text : List Char) : List Char :=
  lowered (text.filter (· != '_'))

def real (text : List Char) : Except Fault Value := do
  let cs := realText text
  if cs.isEmpty then throw .emptyNumeral
  let x ← magnitude (unsigned cs)
  return .float (if cs.head? = some '-' then x.negate else x)

def isNoNumber (text : List Char) : Bool :=
  unsigned (realText text) = ".nan".toList

def truth (text : String) : Except Fault Value :=
  match truthWords.lookup (lowercased text) with
  | some b => .ok (.bool b)
  | none => .error (.notTruth (lowercased text))

/-- A date, or a date and time of day. -/
def timestamp (text : List Char) : Except Fault Value :=
  match Timestamp.ofChars? (withoutFinalBreak text) with
  | none => .error .notTimestamp
  | some (.day d) => (d.check.map Value.date).mapError .calendar
  | some (.time m) => (m.check.map Value.moment).mapError .calendar

/-- Bytes written in base sixty-four. -/
def binary (text : List Char) : Except Fault Value :=
  if !text.all (fun c => c.toNat < 128) then .error .malformed
  else
    match Base64.decode? text with
    | some bytes => .ok (.bytes bytes)
    | none => .error .malformed

/-- The value of a text under a tag for scalars; nothing when the tag is none. -/
def scalarValue? (tag : String) : Option (String → Except Fault Value) :=
  [(standard "str", fun s => .ok (.text s)), (standard "null", fun _ => .ok .null), (standard "bool", truth),
    (standard "int", fun s => integer s.toList), (standard "float", fun s => real s.toList),
    (standard "timestamp", fun s => timestamp s.toList), (standard "binary", fun s => binary s.toList)].lookup tag

end Amalgam.Yaml
