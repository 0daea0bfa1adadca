import Amalgam.Calendar
import Amalgam.Number.Binary64
import Amalgam.Text.Quoted
/-!
# Configuration values

What a configuration file can hold: nothing, truth values, numbers, texts, lists, mappings in the order of their
keys, and a few kinds that only some files can express, such as dates. A mapping binds each key once: binding it again
keeps its place and replaces its value. Keys are compared by value, so `1`, `1.0` and `true` are one key. A value that is
inside of itself is cut where it comes round again.
-/

namespace Amalgam

open Amalgam.Number Amalgam.Text

/-- A configuration value. -/
inductive Value
  | null
  | bool (b : Bool)
  | int (n : Int)
  | float (x : Binary64)
  | text (s : String)
  | list (items : List Value)
  | map (fields : List (Value × Value))
  | tuple (items : List Value)
  | set (items : List Value)
  | bytes (bs : List UInt8)
  | date (d : Date)
  | moment (m : Moment)
  /-- A list or mapping that this place is already inside of. -/
  | enclosing (mapping : Bool)
deriving Repr, Inhabited

/-- A mapping as a list of bindings in order. -/
abbrev Fields := List (Value × Value)

namespace Value

/-! ### Kinds -/

/-- The name of a value's kind. -/
def kindName : Value → String
  | null => "NoneType"
  | bool _ => "bool"
  | int _ => "int"
  | float _ => "float"
  | text _ => "str"
  | list _ => "list"
  | map _ => "dict"
  | tuple _ => "tuple"
  | set _ => "set"
  | bytes _ => "bytes"
  | date _ => "date"
  | moment _ => "datetime"
  | enclosing mapping => if mapping then "dict" else "list"

/-- The name of a value's kind with the family it belongs to. -/
def fullKindName : Value → String
  | date _ => "datetime.date"
  | moment _ => "datetime.datetime"
  | v => v.kindName

def canBeKey : Value → Bool
  | list _ => false
  | map _ => false
  | set _ => false
  | enclosing _ => false
  | _ => true

/-- Whether a value counts as given: not nothing, not false, not zero and not empty. -/
def isGiven : Value → Bool
  | null => false
  | bool b => b
  | int n => n != 0
  | float x => !x.isZero
  | text s => !s.isEmpty
  | list items => !items.isEmpty
  | map fields => !fields.isEmpty
  | tuple items => !items.isEmpty
  | set items => !items.isEmpty
  | bytes bs => !bs.isEmpty
  | date _ => true
  | moment _ => true
  | enclosing _ => true

/-! ### Nesting -/

mutual

/-- How deep a value nests; nothing when it is inside of itself. -/
def depth? : Value → Option Nat
  | list items => (deepest? items).map (· + 1)
  | tuple items => (deepest? items).map (· + 1)
  | map fields => (deepestField? fields).map (· + 1)
  | enclosing _ => none
  | _ => some 0

def deepest? : List Value → Option Nat
  | [] => some 0
  | v :: rest => do return max (← v.depth?) (← deepest? rest)

def deepestField? : List (Value × Value) → Option Nat
  | [] => some 0
  | (k, v) :: rest => do return max (max (← k.depth?) (← v.depth?)) (← deepestField? rest)

end

/-- The deepest nesting that can be copied. Copying calls itself twice for each level, and the calls of one stack are
limited, to a thousand by default; the constant is what the callers of a copy leave of that. -/
def copyDepth : Nat := 485

/-- Whether a value can be copied: it is not inside of itself and not nested too deeply. -/
def canBeCopied (v : Value) : Bool :=
  v.depth?.any (· ≤ copyDepth)

/-! ### Text -/

def byteLiteral (quote : Char) (b : UInt8) : List Char :=
  let c := Char.ofNat b.toNat
  if 127 ≤ b then '\\' :: 'x' :: hex 2 b.toNat else quotedChar quote c

def bytesLiteral (bs : List UInt8) : String :=
  let quote := quoteFor (bs.map fun b => Char.ofNat b.toNat)
  String.ofList ('b' :: quote :: bs.flatMap (byteLiteral quote) ++ [quote])

mutual

/-- A value as it is written inside a list or mapping: texts are quoted. -/
def literal : Value → String
  | null => "None"
  | bool b => if b then "True" else "False"
  | int n => numeral n
  | float x => x.text
  | text s => quoted s
  | list items => "[" ++ joined ", " (literals items) ++ "]"
  | map fields => "\x7b" ++ joined ", " (fieldLiterals fields) ++ "\x7d"
  | tuple items => "(" ++ joined ", " (literals items) ++ (if items.length = 1 then ",)" else ")")
  | set items => if items.isEmpty then "set()" else "\x7b" ++ joined ", " (literals items) ++ "\x7d"
  | bytes bs => bytesLiteral bs
  | date d => d.literal
  | moment m => m.literal
  | enclosing mapping => if mapping then "\x7b...\x7d" else "[...]"

def literals : List Value → List String
  | [] => []
  | v :: rest => v.literal :: literals rest

def fieldLiterals : List (Value × Value) → List String
  | [] => []
  | (k, v) :: rest => (k.literal ++ ": " ++ v.literal) :: fieldLiterals rest

end

/-- A value as it is shown on its own: a text stands for itself, and a date reads like one. -/
def shown : Value → String
  | text s => s
  | date d => d.shown
  | moment m => m.shown
  | v => v.literal

/-! ### Keys -/

/-- The numeric values that keys are compared by. -/
inductive Quantity
  | whole (n : Int)
  | real (x : Binary64)

def quantity? : Value → Option Quantity
  | bool b => some (.whole (if b then 1 else 0))
  | int n => some (.whole n)
  | float x => some (.real x)
  | _ => none

def Quantity.same : Quantity → Quantity → Bool
  | .whole m, .whole n => m = n
  | .real x, .real y => x.same y
  | .whole n, .real x => x.toInt? = some n
  | .real x, .whole n => x.toInt? = some n

/-- Whether two keys are one key. -/
def sameKey : Value → Value → Bool
  | text a, text b => a = b
  | null, null => true
  | bytes a, bytes b => a = b
  | date a, date b => a = b
  | moment a, moment b => a.same b
  | a, b =>
    match a.quantity?, b.quantity? with
    | some x, some y => x.same y
    | _, _ => false

end Value

namespace Fields

def find? (fields : Fields) (key : Value) : Option Value :=
  (List.find? (fun f => f.1.sameKey key) fields).map Prod.snd

def get? (fields : Fields) (name : String) : Option Value :=
  find? fields (.text name)

/-- Binds a key: in its place when it is bound already, else at the end. -/
def put : Fields → Value → Value → Fields
  | [], key, value => [(key, value)]
  | (k, v) :: rest, key, value =>
    if k.sameKey key then (k, value) :: rest else (k, v) :: put rest key value

end Fields

end Amalgam
