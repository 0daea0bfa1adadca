import Amalgam.Console.Literal.Reader
import Amalgam.Number.Binary64
import Amalgam.Text.Slice
/-!
# Literals

The arguments of an action in markup are literals: numbers with a sign, complex numbers, strings, constants, tuples, sets
and mappings of literals. A text that is no expression has a fault of form. An expression that is no literal, or that puts
into a set what a set cannot hold, has a fault of value.
-/

namespace Amalgam.Console.Literal

open Amalgam.Text

/-- Why a text is no literal. -/
inductive Fault
  | form (reason : String)
  | value (reason : String)
deriving DecidableEq, Repr

/-- What matters about the value of a literal: whether it is a number, of which kind, and whether a set can hold it. -/
inductive Worth
  | whole (n : Nat)
  | real
  | imaginary
  | plain
  | unhashable (type : String)
deriving DecidableEq, Repr

/-- Another expression. Its description would follow, which says where it is kept and is never the same twice. -/
def malformed : Fault := .value "malformed node or string"

def numberWorth (text : List Char) : Worth :=
  let digits := text.filter (· != '_')
  let based (base : Nat) : Worth := .whole (Escape.code base (digits.drop 2))
  match (digits.drop 1).head?.map Char.toLower with
  | some 'x' => based 16
  | some 'o' => based 8
  | some 'b' => based 2
  | _ =>
    if digits.all Char.isDigit then .whole (Number.digitsValue digits)
    else if (digits.getLast?.map Char.toLower) = some 'j' then .imaginary
    else .real

def unsignedWorth : Tree → Except Fault Worth
  | .number text => .ok (numberWorth text)
  | _ => .error malformed

def signedWorth : Tree → Except Fault Worth
  | .node .positive [t] => unsignedWorth t
  | .node .negative [t] => unsignedWorth t
  | t => unsignedWorth t

/-- A complex number in two parts: a real number, and an imaginary one added to it or taken from it. -/
def complexWorth (left right : Tree) : Except Fault Worth := do
  match ← signedWorth left, ← unsignedWorth right with
  | .whole n, .imaginary =>
    if (Number.Binary64.ofNat? n).isNone then .error (.value "int too large to convert to float") else return .imaginary
  | .real, .imaginary => return .imaginary
  | _, _ => .error malformed

/-- Puts a value into a set. -/
def hashed (w : Worth) : Except Fault Unit :=
  match w with
  | .unhashable type => .error (.value ("unhashable type: '" ++ type ++ "'"))
  | _ => .ok ()

mutual

def worth : Tree → Except Fault Worth
  | .strings texts =>
    if texts.any fun t => (Written.ofText t).isComputed then .error malformed else .ok .plain
  | .node (.constant _) _ => .ok .plain
  | .node .tuple parts => do
    let ws ← worths false parts
    return (ws.find? fun w => (hashed w).toOption.isNone).getD .plain
  | .node .set parts => do
    let _ ← worths true parts
    return .unhashable "set"
  | .node .call [.name "set"] => .ok (.unhashable "set")
  | .node .dict parts => do
    pairsWorth parts
    return .unhashable "dict"
  | .node .sum [left, right] => complexWorth left right
  | .node .difference [left, right] => complexWorth left right
  | t => signedWorth t

/-- The parts of a tuple, or of a set that takes them in one by one. -/
def worths (hashing : Bool) : List Tree → Except Fault (List Worth)
  | [] => .ok []
  | t :: rest => do
    let w ← worth t
    if hashing then hashed w
    return w :: (← worths hashing rest)

/-- The pairs of a mapping, taken in one by one. -/
def pairsWorth : List Tree → Except Fault Unit
  | [] => .ok ()
  | .node .pair [key, value] :: rest => do
    let w ← worth key
    let _ ← worth value
    hashed w
    pairsWorth rest
  | _ :: _ => .error (.value "malformed node or string: None")

end

def fault? (cs : List Char) : Option Fault :=
  if cs.contains (Char.ofNat 0) then some (.form "source code string cannot contain null bytes")
  else
    match expression (universalNewlines cs) with
    | .error reason => some (.form reason)
    | .ok tree =>
      match worth tree with
      | .error fault => some fault
      | .ok _ => none

end Amalgam.Console.Literal
