import Amalgam.Number.Total
/-!
# Charts of characters

The standards of East Asia print their characters as charts. A chart has rows of cells, and the place of a cell is
counted through from the first row on. An encoding reaches the cells by two bytes: a grid says which bytes lead to which
place, so that one chart serves several encodings.
-/

namespace Amalgam.Text

/-- The characters of a chart by place. -/
abbrev Repertoire := Array (Option Char)

namespace Repertoire

/-- The chart with rows of `width` cells that holds some stretches of characters, in order. Each stretch comes with the
row and the cell of its first character, counted from one. -/
def ofRows (width : Nat) (stretches : List (Nat × Nat × String)) : Repertoire :=
  stretches.foldl (fun chart (row, cell, chars) =>
    let free := (row - 1) * width + (cell - 1) - chart.size
    chart ++ Array.replicate free none ++ chars.toList.map some) #[]

/-- The characters of a range that some charts do not have, in order. -/
def beyond (first count : Nat) (charts : List Repertoire) : Repertoire :=
  let taken := charts.foldl (fun marks chart => chart.foldl (fun marks c? =>
    match c? with
    | some c => if first ≤ c.toNat then marks.setIfInBounds (c.toNat - first) true else marks
    | none => marks) marks) (Array.replicate count false)
  ((Array.range count).filter fun i => !taken.getD i false).map fun i => some (Char.ofNat (first + i))

def char? (t : Repertoire) (place : Nat) : Option Char :=
  t.getD place none

def place? (t : Repertoire) (c : Char) : Option Nat :=
  t.findIdx? (· = some c)

/-- The places of a character, in order. -/
def places (t : Repertoire) (c : Char) : List Nat :=
  (List.range t.size).filter fun place => t.char? place = some c

end Repertoire

/-! ### Grids -/

/-- How many bytes lie in some ranges. -/
def rangesSize (ranges : List (UInt8 × UInt8)) : Nat :=
  Number.total (ranges.map fun (low, high) => high.toNat - low.toNat + 1)

/-- The rank of a byte among those of some ranges. -/
def rank? (b : UInt8) : List (UInt8 × UInt8) → Option Nat
  | [] => none
  | (low, high) :: rest =>
    if low ≤ b && b ≤ high then some (b.toNat - low.toNat)
    else (rank? b rest).map (· + (high.toNat - low.toNat + 1))

/-- The byte of a rank. -/
def byteOfRank : List (UInt8 × UInt8) → Nat → UInt8
  | [], _ => 0
  | (low, high) :: rest, n =>
    let size := high.toNat - low.toNat + 1
    if n < size then low + n.toUInt8 else byteOfRank rest (n - size)

/-- A block of codes: the ranges of their first and of their second bytes. -/
structure Block where
  first : List (UInt8 × UInt8)
  second : List (UInt8 × UInt8)

namespace Block

def size (k : Block) : Nat :=
  rangesSize k.first * rangesSize k.second

def place? (k : Block) (a b : UInt8) : Option Nat := do
  return (← rank? a k.first) * rangesSize k.second + (← rank? b k.second)

def code (k : Block) (place : Nat) : UInt8 × UInt8 :=
  (byteOfRank k.first (place / rangesSize k.second), byteOfRank k.second (place % rangesSize k.second))

end Block

/-- The codes of the places of a chart, block by block. -/
abbrev Grid := List Block

namespace Grid

def place? : Grid → UInt8 → UInt8 → Option Nat
  | [], _, _ => none
  | k :: rest, a, b =>
    match k.place? a b with
    | some place => some place
    | none => (place? rest a b).map (· + k.size)

/-- The code of a place, if the grid has that many. -/
def code? : Grid → Nat → Option (UInt8 × UInt8)
  | [], _ => none
  | k :: rest, place => if place < k.size then some (k.code place) else code? rest (place - k.size)

end Grid

/-- Bytes of seven bits that show. -/
def sevenBits : Grid := [⟨[(0x21, 0x7E)], [(0x21, 0x7E)]⟩]

/-- The same with the high bit set. -/
def highBits : Grid := [⟨[(0xA1, 0xFE)], [(0xA1, 0xFE)]⟩]

/-! ### Codings -/

/-- Characters of two bytes: the character of a code, and the codes of a character, the one that is written first. -/
structure Coding where
  char? : UInt8 → UInt8 → Option Char
  codes : Char → List (UInt8 × UInt8)

namespace Coding

/-- A chart reached through a grid; of several places the first is written. -/
def ofChart (g : Grid) (t : Repertoire) : Coding where
  char? a b := (g.place? a b).bind t.char?
  codes c := (t.places c).filterMap g.code?

/-- The same codes, but of several the last is written. -/
def lastFirst (x : Coding) : Coding :=
  { x with codes := fun c => (x.codes c).reverse }

/-- The codes of one coding and those of another that the first leaves free. -/
def orElse (upper lower : Coding) : Coding where
  char? a b := (upper.char? a b).or (lower.char? a b)
  codes c := upper.codes c ++ (lower.codes c).filter fun (a, b) => (upper.char? a b).isNone

/-- A vendor's version of a coding. The vendor's codes are read in its way, but a character keeps the code it had, if
nothing better is left even one that is read as another character now. -/
def patched (vendor original : Coding) : Coding where
  char? a b := (vendor.char? a b).or (original.char? a b)
  codes c :=
    (original.codes c).filter (fun (a, b) => (vendor.char? a b).isNone) ++ vendor.codes c ++ original.codes c

def code? (x : Coding) (c : Char) : Option (List UInt8) :=
  (x.codes c).head?.map fun (a, b) => [a, b]

end Coding

end Amalgam.Text
