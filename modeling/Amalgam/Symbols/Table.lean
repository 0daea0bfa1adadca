import Amalgam.Symbols.Csv
import Amalgam.Symbols.Entry
/-!
# Symbols table

A header row and one row per entry. The header names the columns in any order, with blanks around the names ignored
and one older name understood; a row may be short, and a row of blanks is no entry. Written tables have all three
columns in a fixed order.
-/

namespace Amalgam.Symbols

open Amalgam.Text

/-- The columns of a table in the order in which they are written. -/
def columns : List String := ["filename_line", "kind_display_name", "new_display_name"]

def requiredColumns : List String := columns.take 2

/-- Why a text is no symbols table. -/
inductive TableFault
  | noHeader
  | missingColumns (names : List String)
  | malformedHeader (fault : Csv.Fault)
  | malformedRow (line : Nat) (fault : Csv.Fault)
deriving DecidableEq, Repr

def columnName (cell : String) : String :=
  let name := trimmed cell
  if name = "display_name" then "kind_display_name" else name

def header (row : List String) : Except TableFault (List String) :=
  if row.isEmpty then .error .noHeader
  else
    let names := row.map columnName
    match requiredColumns.filter fun c => !names.contains c with
    | [] => .ok names
    | missing => .error (.missingColumns missing)

/-- The cell in a column, empty when the row ends before it; of two columns of one name the last counts. -/
def cell (names row : List String) (column : String) : String :=
  ((names.zip row).reverse.lookup column).getD ""

def rowEntry (names row : List String) : Option Entry :=
  if row.all isBlankText then none
  else
    some ⟨cell names row "filename_line", cell names row "kind_display_name", some (cell names row "new_display_name")⟩

/-- Reads the text of a table. -/
def parse (text : String) : Except TableFault (List Entry) :=
  let scan := Csv.read text
  match scan.records, scan.fault with
  | [], none => .error .noHeader
  | [], some (_, fault) => .error (.malformedHeader fault)
  | first :: rows, fault => do
    let names ← header first
    -- What is wrong with the header is told before a fault further down.
    match fault with
    | some (line, f) => throw (.malformedRow line f)
    | none => return rows.filterMap (rowEntry names)

def format (entries : List Entry) : String :=
  String.ofList (Csv.row columns ++ entries.flatMap fun e => Csv.row e.cells)

/-! ### Grouping -/

/-- Adds an entry to the group of a file, a new group at the end if there is none. -/
def addToGroup (file : String) (e : Entry) : List (String × List Entry) → List (String × List Entry)
  | [] => [(file, [e])]
  | (f, es) :: rest => if f = file then (f, es ++ [e]) :: rest else (f, es) :: addToGroup file e rest

/-- Entries by file, files in the order in which they are first seen. -/
def groupByFile (entries : List Entry) : Except Number.IntegerFault (List (String × List Entry)) :=
  entries.foldlM (fun groups e => do
    let location ← e.location
    return addToGroup location.file e groups) []

/-- Whole groups in which some entry has a new name. -/
def withRenames (groups : List (String × List Entry)) : List (String × List Entry) :=
  groups.filter fun g => g.2.any Entry.hasRename

def TableFault.message : TableFault → String
  | .noHeader => "Symbols table is empty or has no header row"
  | .missingColumns names => "Symbols table is missing column(s): " ++ joined ", " names
  | .malformedHeader fault => "Malformed symbols table: " ++ fault.message
  | .malformedRow line fault => "Malformed symbols table at line " ++ numeral line ++ ": " ++ fault.message

end Amalgam.Symbols
