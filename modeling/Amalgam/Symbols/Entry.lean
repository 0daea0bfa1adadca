import Amalgam.Number.Integer
/-!
# Symbol entries

One declaration: where it stands, its kind and display name, and the name it is to get. A location is written
`file:line`; the last colon divides it when digits follow, and otherwise all of it is the file. A digit that is no
decimal digit, such as a superscript, makes a location that looks numbered but has no number.
-/

namespace Amalgam.Symbols

open Amalgam.Number Amalgam.Text

/-- A file and, when the text gives one, a line in it. -/
structure Location where
  file : String
  line : Option Nat
deriving DecidableEq, Repr

def Location.parse (s : String) : Except IntegerFault Location :=
  let cs := trim s.toList
  match splitLast ':' cs with
  | some (head, tail) =>
    if !head.isEmpty && !tail.isEmpty && tail.all isDigit then
      (readInteger 10 tail).map fun n => ⟨String.ofList head, some n.toNat⟩
    else .ok ⟨String.ofList cs, none⟩
  | none => .ok ⟨String.ofList cs, none⟩

/-- One row of the symbols table. -/
structure Entry where
  filenameLine : String
  kindDisplayName : String
  newDisplayName : Option String := some ""
deriving DecidableEq, Repr

namespace Entry

def newName (e : Entry) : String :=
  trimmed (e.newDisplayName.getD "")

def hasRename (e : Entry) : Bool :=
  e.newName != ""

def cells (e : Entry) : List String :=
  [e.filenameLine, e.kindDisplayName, e.newDisplayName.getD ""]

def location (e : Entry) : Except IntegerFault Location :=
  Location.parse e.filenameLine

end Entry

end Amalgam.Symbols
