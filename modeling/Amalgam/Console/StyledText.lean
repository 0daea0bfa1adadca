import Amalgam.Console.Cells
import Amalgam.Number.Total
/-!
# Styled text

Text with the stretches that styles cover. Laying text out cuts it, fills it and puts blanks around it, and the stretches
follow: cutting a text clips them, and blanks put around it stay outside. On its way to the terminal a line falls into
segments at the ends of its stretches. A line of segments is measured segment by segment, so that a joiner at the end of
one does not reach into the next.
-/

namespace Amalgam.Console

open Amalgam.Text

/-! ### Lines of segments -/

/-- A line as the terminal gets it. -/
abbrev Line := List (List Char)

namespace Line

def width (line : Line) : Nat :=
  Number.total (line.map cells)

/-- As many segments as fit into some room; the last of them is cut or filled to its end. -/
def crop : (room : Nat) → Line → Line
  | _, [] => []
  | room, segment :: rest =>
    if cells segment < room then segment :: crop (room - cells segment) rest else [Console.fit room segment]

def within (room : Nat) (line : Line) : Line :=
  if room < line.width then line.crop room else line

def fit (room : Nat) (line : Line) : Line :=
  if line.width < room then line ++ [blanks (room - line.width)] else line.within room

end Line

/-! ### Stretches -/

/-- A stretch of a text and the words of its style. -/
structure Span where
  start : Nat
  stop : Nat
  style : String
deriving DecidableEq, Repr

namespace Span

/-- A stretch in a text that has been moved to the right. -/
def shift (n : Nat) (s : Span) : Span :=
  { s with start := s.start + n, stop := s.stop + n }

/-- What is left of a stretch between two places, counted from the first of them. -/
def clip? (start stop : Nat) (s : Span) : Option Span :=
  if max start s.start < min stop s.stop then some ⟨s.start - start, min stop s.stop - start, s.style⟩ else none

end Span

/-- Text and the stretches in it. -/
structure StyledText where
  chars : List Char := []
  spans : List Span := []
deriving DecidableEq, Repr

/-- Bell, backspace, vertical tab, form feed and carriage return. -/
def isCursorControl (c : Char) : Bool :=
  [7, 8, 11, 12, 13].contains c.toNat

namespace StyledText

/-- Text without styles, and without controls that move the cursor. -/
def ofText (text : String) : StyledText :=
  ⟨text.toList.filter fun c => !isCursorControl c, []⟩

def append (t u : StyledText) : StyledText :=
  ⟨t.chars ++ u.chars, t.spans ++ u.spans.map (Span.shift t.chars.length)⟩

def slice (t : StyledText) (start stop : Nat) : StyledText :=
  ⟨(t.chars.take stop).drop start, t.spans.filterMap (Span.clip? start stop)⟩

/-- The pieces of a text between places in it. A text that is not divided keeps its empty stretches. -/
def cutAt (t : StyledText) (places : List Nat) : List StyledText :=
  if places.isEmpty then [t]
  else ((0 :: places).zip (places ++ [t.chars.length])).map fun (start, stop) => t.slice start stop

def placesOf (t : StyledText) (c : Char) : List Nat :=
  (t.chars.zipIdx.filter fun p => p.1 = c).map Prod.snd

def lines (t : StyledText) : List StyledText :=
  match t.placesOf '\n' with
  | [] => [t]
  | places =>
    ((0 :: places.map (· + 1)).zip (places ++ [t.chars.length])).map fun (start, stop) => t.slice start stop

/-- Other characters in place of those of a text. What a stretch loses at the end of a shorter text is dropped. -/
def withChars (t : StyledText) (cs : List Char) : StyledText :=
  let kept := t.spans.filter fun s => s.start < cs.length
  ⟨cs, if cs.length < t.chars.length then kept.map fun s => { s with stop := min s.stop cs.length } else t.spans⟩

def padRight (t : StyledText) (n : Nat) : StyledText :=
  { t with chars := t.chars ++ blanks n }

def padLeft (t : StyledText) (n : Nat) : StyledText :=
  ⟨blanks n ++ t.chars, t.spans.map (Span.shift n)⟩

/-- Blanks on the right under the styles that reach the end. -/
def extendRight (t : StyledText) (n : Nat) : StyledText :=
  ⟨t.chars ++ blanks n,
    t.spans.map fun s => if t.chars.length ≤ s.stop then { s with stop := s.stop + n } else s⟩

/-- The segments of a text: it is divided wherever a stretch begins or ends. -/
def segments (t : StyledText) : Line :=
  let places := t.spans.flatMap fun s => [s.start, s.stop]
  t.chars.zipIdx.foldr (fun (c, place) line =>
    match line with
    | [] => [[c]]
    | segment :: rest => if places.contains (place + 1) then [c] :: line else (c :: segment) :: rest) []

end StyledText

end Amalgam.Console
