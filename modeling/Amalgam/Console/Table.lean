import Amalgam.Console.Markup
import Amalgam.Console.Wrap
/-!
# Tables and panels

A table has a title, a header and rows of cells, all of them markup. A column is as wide as its widest line and a blank on
either side; when the columns do not fit, the widest ones shrink first and their cells are wrapped. A panel is a frame
over the whole width around some lines.
-/

namespace Amalgam.Console

open Amalgam.Text Amalgam.Number

/-! ### Frames -/

/-- A horizontal line of a frame. -/
structure Rule where
  left : Char
  line : Char
  cross : Char
  right : Char
deriving DecidableEq, Repr

/-- The lines of a frame: horizontal ones above, below the header and below, vertical ones beside header and rows. -/
structure Frame where
  top : Rule
  header : Char
  divider : Rule
  body : Char
  bottom : Rule
deriving DecidableEq, Repr

namespace Frame

/-- Heavy lines around the header. -/
def heavyHead : Frame where
  top := ⟨'┏', '━', '┳', '┓'⟩
  header := '┃'
  divider := ⟨'┡', '━', '╇', '┩'⟩
  body := '│'
  bottom := ⟨'└', '─', '┴', '┘'⟩

def ascii : Frame where
  top := ⟨'+', '-', '-', '+'⟩
  header := '|'
  divider := ⟨'|', '-', '+', '|'⟩
  body := '|'
  bottom := ⟨'+', '-', '-', '+'⟩

def rounded : Frame where
  top := ⟨'╭', '─', '┬', '╮'⟩
  header := '│'
  divider := ⟨'├', '─', '┼', '┤'⟩
  body := '│'
  bottom := ⟨'╰', '─', '┴', '╯'⟩

end Frame

/-- A horizontal line over columns. -/
def Rule.over (r : Rule) (widths : List Nat) : List Char :=
  r.left :: [r.cross].intercalate (widths.map fun w => List.replicate w r.line) ++ [r.right]

/-! ### Column widths -/

/-- A quotient rounded to the nearest number; a tie goes to the even one. -/
def roundedQuotient (a b : Nat) : Nat :=
  let q := a / b
  if 2 * (a % b) < b then q else if b < 2 * (a % b) then q + 1 else if q % 2 = 0 then q else q + 1

/-- Takes an excess from the columns that are marked, in equal shares and at most `limit` from each. -/
def takeShares (limit : Nat) : (excess : Nat) → List (Nat × Bool) → List Nat
  | _, [] => []
  | excess, (width, marked) :: rest =>
    if marked then
      let share := min limit (roundedQuotient excess (1 + (rest.filter Prod.snd).length))
      (width - share) :: takeShares limit (excess - share) rest
    else width :: takeShares limit excess rest

def takeEvenly : (excess : Nat) → List Nat → List Nat
  | _, [] => []
  | excess, width :: rest =>
    if width = 0 then width :: takeEvenly excess rest
    else
      let share := min width (roundedQuotient excess (1 + (rest.filter (· != 0)).length))
      (width - share) :: takeEvenly (excess - share) rest

/-- Shrinks the widest columns towards the second widest, round after round, until they fit or all are equal. Each round
takes away at least one cell, so there are at most as many rounds as cells. -/
def collapse (room : Nat) : (rounds : Nat) → List Nat → List Nat
  | 0, widths => widths
  | rounds + 1, widths =>
    let excess := total widths - room
    if excess = 0 then widths
    else
      let widest := widths.foldl max 0
      let second := (widths.filter (· != widest)).foldl max 0
      if widest = second then widths
      else collapse room rounds (takeShares (min excess (widest - second)) excess (widths.map fun w => (w, w == widest)))

/-- Characters that end a line when a text is measured. -/
def endsLine (c : Char) : Bool :=
  inRanges [(10, 13), (28, 30), (133, 133), (8232, 8233)] c.toNat

/-- The cells of the widest line of a text. -/
def measure (text : StyledText) : Nat :=
  let cs := text.chars.map fun c => if endsLine c then '\n' else c
  ((pieces '\n' cs).map cells).foldl max 0

/-- The width of a column within a limit: its widest line and two blanks. -/
def columnWidth (limit : Nat) (column : List StyledText) : Nat :=
  min limit ((column.map measure).foldl max 0 + 2)

def columnWidths (room : Nat) (columns : List (List StyledText)) : List Nat :=
  let natural := columns.map fun c => max 1 (columnWidth room c)
  if total natural ≤ room then natural
  else
    let collapsed := collapse room (total natural) natural
    let reduced := if total collapsed ≤ room then collapsed else takeEvenly (total collapsed - room) collapsed
    (reduced.zip columns).map fun (w, c) => columnWidth w c

/-! ### Tables -/

/-- A table of markup. A row may have fewer cells than there are columns, or more. -/
structure Table where
  title : String
  header : List String
  rows : List (List String)
deriving DecidableEq, Repr

namespace Table

def columnCount (t : Table) : Nat :=
  (t.rows.map List.length).foldl max t.header.length

/-- The columns, each with its header on top; missing cells are empty. -/
def columns (t : Table) : List (List String) :=
  (List.range t.columnCount).map fun i => (t.header :: t.rows).map fun row => row.getD i ""

def cellLines (width : Nat) (cell : StyledText) : Except MarkupFault (List Line) :=
  if width < 3 then .ok []
  else do
    let lines ← segmented (wrap (width - 2) .left .ellipsis cell)
    return lines.map fun line => Line.fit width ([' '] :: line.fit (width - 2) ++ [[' ']])

def fillHeight (height width : Nat) (below : Bool) (lines : List Line) : List Line :=
  let missing := List.replicate (height - lines.length) [blanks width]
  if below then lines ++ missing else missing ++ lines

def rowLines (side : Char) (widths : List Nat) (isHeader : Bool) (row : List StyledText) :
    Except MarkupFault (List Line) := do
  let cells ← (widths.zip row).mapM fun (w, c) => return (w, ← cellLines w c)
  let height := max 1 ((cells.map fun c => c.2.length).foldl max 0)
  let filled := cells.map fun (w, ls) => fillHeight height w (!isHeader) ls
  return (List.range height).map fun i => [side] :: (filled.flatMap fun ls => ls.getD i [] ++ [[side]])

def transposed (height : Nat) (columns : List (List StyledText)) : List (List StyledText) :=
  (List.range height).map fun i => columns.map fun c => c.getD i {}

/-- The lines of a table on a terminal of a width. Cells are read before the title, column by column. -/
def lines (width : Nat) (frame : Frame) (t : Table) : Except MarkupFault (List Line) := do
  let columns ← t.columns.mapM fun c => c.mapM Markup.shown
  if columns.isEmpty then return [[]]
  let edges := columns.length + 1
  let widths := columnWidths (width - edges) columns
  let title ← Markup.shown t.title
  let caption ← if t.title = "" then pure [] else segmented (wrap (total widths + edges) .centre .fold title)
  match transposed (t.rows.length + 1) columns with
  | [] => return caption
  | header :: rows =>
    let headerLines ← rowLines frame.header widths true header
    let bodyLines ← rows.mapM (rowLines frame.body widths false)
    return caption ++ [[frame.top.over widths]] ++ headerLines ++ [[frame.divider.over widths]] ++ bodyLines.flatten ++
      [[frame.bottom.over widths]]

end Table

/-! ### Panels -/

def panelLines (width : Nat) (frame : Frame) (text : StyledText) : Except MarkupFault (List Line) := do
  let inner := width - 6
  let body := (← segmented (wrap inner .natural .fold text)).map fun line =>
    [frame.body] :: Line.fit (width - 2) (blanks 2 :: line.fit inner ++ [blanks 2]) ++ [[frame.body]]
  return [[frame.top.over [width - 2]]] ++ body ++ [[frame.bottom.over [width - 2]]]

end Amalgam.Console
