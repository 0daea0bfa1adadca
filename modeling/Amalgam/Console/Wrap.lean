import Amalgam.Console.StyledText
/-!
# Wrapping

Text is laid out in lines of a given width. A line breaks between words; a word longer than a line is folded over several,
or cut short with an ellipsis. Tabs become blanks.
-/

namespace Amalgam.Console

open Amalgam.Text

/-- Where a line stands in its width. -/
inductive Alignment
  | natural
  | left
  | centre
deriving DecidableEq, Repr

/-- What becomes of a word that is longer than a line. -/
inductive Overflow
  | fold
  | ellipsis
deriving DecidableEq, Repr

/-! ### Tabs -/

/-- Parts up to a tab each, the tab a blank by now. Each is filled up to the next stop. -/
def fillToStops (stop : Nat) : (position : Nat) → List StyledText → StyledText
  | _, [] => {}
  | _, [last] => last
  | position, part :: rest =>
    let reached := position + cells part.chars
    let filled := if reached % stop = 0 then 0 else stop - reached % stop
    (part.extendRight filled).append (fillToStops stop (reached + filled) rest)

/-- Tabs lead to the next multiple of eight cells. -/
def expandTabs (line : StyledText) : StyledText :=
  let parts := line.cutAt ((line.placesOf '\t').map (· + 1))
  fillToStops 8 0 (parts.map fun p => { p with chars := p.chars.map fun c => if c = '\t' then ' ' else c })

/-! ### Breaking -/

/-- Words gathered so far with the blanks around them: the first takes those before it, each takes those after it. The word
in progress and the words before it are held back to front. -/
structure Gathering where
  done : List (List Char) := []
  word : List Char := []
  hasInk : Bool := false
  ended : Bool := false

def Gathering.add (g : Gathering) (c : Char) : Gathering :=
  if isBlank c then { g with word := c :: g.word, ended := g.hasInk }
  else if g.ended then { done := g.word.reverse :: g.done, word := [c], hasInk := true, ended := false }
  else { g with word := c :: g.word, hasInk := true }

/-- The words of a line; a line of blanks has none. -/
def spacedWords (cs : List Char) : List (List Char) :=
  let g := cs.foldl Gathering.add {}
  if g.hasInk then (g.word.reverse :: g.done).reverse else []

/-- The places where the pieces of a folded word begin, and the cells of the last piece. -/
def foldBreaks : (start used : Nat) → List (List Char) → List Nat × Nat
  | _, used, [] => ([], used)
  | start, _, [last] => (if start = 0 then [] else [start], cells last)
  | start, used, piece :: rest =>
    let (breaks, used) := foldBreaks (start + piece.length) used rest
    (if start = 0 then breaks else start :: breaks, used)

/-- The places where a line has to break, given its words and how many cells the words before them take. -/
def breaksFrom (width : Nat) (overflow : Overflow) : (start used : Nat) → List (List Char) → List Nat
  | _, _, [] => []
  | start, used, word :: rest =>
    let next := start + word.length
    let ink := cells (trimEnd word)
    if ink + used ≤ width then breaksFrom width overflow next (used + cells word) rest
    else if width < ink then
      match overflow with
      | .fold =>
        let (breaks, used) := foldBreaks start used (chop width word)
        breaks ++ breaksFrom width overflow next used rest
      | .ellipsis =>
        (if start = 0 then [] else [start]) ++ breaksFrom width overflow next (cells word) rest
    else if used = 0 || start = 0 then breaksFrom width overflow next used rest
    else start :: breaksFrom width overflow next (cells word) rest

/-! ### Aligning -/

/-- Drops blanks at the end as long as the line has too many characters. -/
def dropExcessBlanks (width : Nat) (line : StyledText) : StyledText :=
  let cs := line.chars
  let trailing := cs.length - (trimEnd cs).length
  line.withChars (cs.take (cs.length - min trailing (cs.length - width)))

def truncate (width : Nat) (overflow : Overflow) (line : StyledText) : StyledText :=
  if cells line.chars ≤ width then line
  else
    match overflow with
    | .fold => line.withChars (fit width line.chars)
    | .ellipsis => line.withChars (fit (width - 1) line.chars ++ ['…'])

/-- A line put where it belongs in its width. -/
def align (width : Nat) (alignment : Alignment) (overflow : Overflow) (line : StyledText) : StyledText :=
  match alignment with
  | .natural => truncate width overflow line
  | .left =>
    let line := truncate width overflow line
    line.padRight (width - cells line.chars)
  | .centre =>
    let line := truncate width overflow (line.withChars (trimEnd line.chars))
    let shifted := line.padLeft ((width - cells line.chars) / 2)
    shifted.padRight (width - cells shifted.chars)

def wrapLine (width : Nat) (alignment : Alignment) (overflow : Overflow) (line : StyledText) : List StyledText :=
  let line := expandTabs line
  let pieces := line.cutAt (breaksFrom width overflow 0 0 (spacedWords line.chars))
  pieces.map fun p => align width alignment overflow (dropExcessBlanks width p)

def wrap (width : Nat) (alignment : Alignment) (overflow : Overflow) (text : StyledText) : List StyledText :=
  text.lines.flatMap (wrapLine width alignment overflow)

end Amalgam.Console
