import Amalgam.Text.Ranges.CellWidth
import Amalgam.Text.Slice
/-!
# Cells

A terminal shows text in cells. A character takes none, one or two of them, and a few characters shown as one form a
cluster: marks go with the character before them, a joiner takes in the character after it, and a variation selector
widens the character before it. Cutting text to a width never divides a cluster; one that would stick out is replaced by
a blank.
-/

namespace Amalgam.Console

open Amalgam.Text

def cellWidth (c : Char) : Nat :=
  if 32 ≤ c.toNat && c.toNat < 127 then 1
  else if inRanges Ranges.zeroWidth c.toNat then 0
  else if inRanges Ranges.doubleWidth c.toNat then 2
  else 1

/-- Characters shown as one, and the cells they take. -/
structure Cluster where
  chars : List Char
  cells : Nat
deriving DecidableEq, Repr

namespace Cluster

def joiner : Char := Char.ofNat 0x200D
def selector : Char := Char.ofNat 0xFE0F

/-- Clusters gathered so far, the last one first. -/
structure Gathered where
  done : List Cluster := []
  /-- The character that a variation selector would widen. -/
  widenable : Option Char := none
  /-- Whether the next character joins the last cluster whatever it is. -/
  joins : Bool := false

/-- Adds a character to the last cluster, which grows by some cells; without a cluster it starts one. -/
def Gathered.attach (g : Gathered) (c : Char) (cells : Nat) : List Cluster :=
  match g.done with
  | [] => [⟨[c], 0⟩]
  | last :: rest => ⟨last.chars ++ [c], last.cells + cells⟩ :: rest

def Gathered.add (g : Gathered) (c : Char) : Gathered :=
  if g.joins then { g with done := g.attach c 0, joins := false }
  else if c = joiner then { g with done := g.attach c 0, joins := !g.done.isEmpty }
  else if c = selector then
    match g.widenable with
    | some base =>
      if inRanges Ranges.widened base.toNat then { g with done := g.attach c 1, widenable := none }
      else { g with done := g.attach c 0 }
    | none => { g with done := g.attach c 0 }
  else if cellWidth c = 0 then { g with done := g.attach c 0 }
  else { g with done := ⟨[c], cellWidth c⟩ :: g.done, widenable := some c }

end Cluster

def clusters (cs : List Char) : List Cluster :=
  (cs.foldl Cluster.Gathered.add {}).done.reverse

/-- The cells of a text from a place on, given the character that a variation selector would widen. Here a joiner hides
the character after it even where it has nothing to join that to. -/
def cellsFrom (widenable : Option Char) : List Char → Nat
  | [] => 0
  | c :: rest =>
    if c = Cluster.joiner then
      match rest with
      | [] => 0
      | _ :: after => cellsFrom widenable after
    else if c = Cluster.selector then
      if widenable.any fun base => inRanges Ranges.widened base.toNat then 1 + cellsFrom none rest
      else cellsFrom widenable rest
    else if cellWidth c = 0 then cellsFrom widenable rest
    else cellWidth c + cellsFrom (some c) rest

def cells (cs : List Char) : Nat :=
  cellsFrom none cs

def blanks (n : Nat) : List Char :=
  List.replicate n ' '

/-- As many clusters as fit; the room before one that sticks out stays blank. -/
def cut (room : Nat) : List Cluster → List Char
  | [] => []
  | c :: rest =>
    if c.cells ≤ room then if room = c.cells then c.chars else c.chars ++ cut (room - c.cells) rest
    else if room = 0 then [] else [' ']

/-- A text cut or filled to an exact number of cells. -/
def fit (width : Nat) (cs : List Char) : List Char :=
  if cells cs ≤ width then cs ++ blanks (width - cells cs)
  else if width = 0 then [] else cut width (clusters cs)

/-- Divides clusters into lines of at most `width` cells, after a line that has taken `used` of them. -/
def chopFrom (width : Nat) : (used : Nat) → (line : List Char) → List Cluster → List (List Char)
  | used, line, [] => if used = 0 then [] else [line]
  | used, line, c :: rest =>
    if width < used + c.cells then line :: chopFrom width c.cells c.chars rest
    else chopFrom width (used + c.cells) (line ++ c.chars) rest

def chop (width : Nat) (cs : List Char) : List (List Char) :=
  chopFrom width 0 [] (clusters cs)

end Amalgam.Console
