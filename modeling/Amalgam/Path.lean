import Amalgam.Text.Quoted
/-!
# Paths

A path is a root and the names below it. Reading a path drops empty names and single points but keeps double points, so
`a//b/./c` and `a/b/c` are one path while `a/../b` is not `b`. A name is replaced as a whole, and a replacement is
checked only to be one name, not to be written in its shortest form.
-/

namespace Amalgam

open Amalgam.Text

/-- A path in its shortest written form. -/
structure Path where
  /-- Empty for a path that starts at the working directory. -/
  root : String
  parts : List String
deriving DecidableEq, Repr, Inhabited

/-- Why a name could not be replaced. -/
inductive NameFault
  | emptyName (path : Path)
  | invalidName (name : String)
deriving DecidableEq, Repr

namespace Path

/-- The root that a written path starts with: two slashes, and only two, are a root of their own. -/
def rootOf (cs : List Char) : String :=
  match (cs.takeWhile (· = '/')).length with
  | 0 => ""
  | 2 => "//"
  | _ => "/"

def partsOf (cs : List Char) : List String :=
  ((pieces '/' cs).map String.ofList).filter fun p => p != "" && p != "."

def ofText (s : String) : Path :=
  ⟨rootOf s.toList, partsOf s.toList⟩

def text (p : Path) : String :=
  if p.root = "" ∧ p.parts = [] then "." else p.root ++ joined "/" p.parts

/-- The last name, empty for a root or the working directory. -/
def name (p : Path) : String :=
  p.parts.getLast?.getD ""

/-- The name up to its last point and the rest from that point on; a point at either end does not count. -/
def splitName (p : Path) : String × String :=
  match splitLast '.' p.name.toList with
  | some (head, tail) =>
    if head.isEmpty || tail.isEmpty then (p.name, "") else (String.ofList head, String.ofList ('.' :: tail))
  | none => (p.name, "")

def stem (p : Path) : String := p.splitName.1

def suffix (p : Path) : String := p.splitName.2

def withName (p : Path) (name : String) : Except NameFault Path :=
  if p.name = "" then .error (.emptyName p)
  else if name.toList.getLast? = some '/' ∨ rootOf name.toList ≠ "" ∨ (partsOf name.toList).length ≠ 1 then
    .error (.invalidName name)
  else .ok { p with parts := p.parts.dropLast ++ [name] }

/-- A path as it is shown in messages about paths. -/
def shown (p : Path) : String :=
  "PosixPath(" ++ quoted p.text ++ ")"

end Path

def NameFault.message : NameFault → String
  | .emptyName path => path.shown ++ " has an empty name"
  | .invalidName name => "Invalid name " ++ quoted name

example : (Path.ofText "a//b/./c").text = "a/b/c" := by decide
example : (Path.ofText "").text = "." := by decide
example : ((Path.ofText "x/a.tar.c").stem, (Path.ofText "x/a.tar.c").suffix) = ("a.tar", ".c") := by decide

end Amalgam
