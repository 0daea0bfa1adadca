import Amalgam.Text.Slice
/-!
# Comma-separated records

Reading goes character by character through six phases. A field may be quoted, and inside quotes a comma, a line end
and a doubled quote stand for themselves; a quote anywhere else is an ordinary character. Input arrives in lines that
end at a line feed, and a record ends with the first line that leaves no quote open. Writing quotes every cell.
-/

namespace Amalgam.Symbols.Csv

open Amalgam.Text

/-- What makes a line unreadable. -/
inductive Fault
  | lineEndInField
  | fieldTooLong
deriving DecidableEq, Repr

/-- Where in a record the reader is. -/
inductive Phase
  | startRecord
  | startField
  | inField
  | inQuotes
  | quoteInQuotes
  | afterLineEnd
deriving DecidableEq, Repr

/-- The record read so far: the open field and the finished fields, both last first. -/
structure State where
  phase : Phase
  field : List Char
  size : Nat
  fields : List String
deriving DecidableEq, Repr

def fieldLimit : Nat := 131072

def State.start : State := ⟨.startRecord, [], 0, []⟩

def State.add (s : State) (phase : Phase) (c : Char) : Except Fault State :=
  if fieldLimit ≤ s.size then .error .fieldTooLong
  else .ok { s with phase := phase, field := c :: s.field, size := s.size + 1 }

def State.close (s : State) (phase : Phase) : State :=
  ⟨phase, [], 0, String.ofList s.field.reverse :: s.fields⟩

def State.record (s : State) : List String :=
  s.fields.reverse

def isLineEnd (c : Char) : Bool :=
  c = '\n' || c = '\r'

def stepField (s : State) (c : Char) : Except Fault State :=
  if isLineEnd c then .ok (s.close .afterLineEnd)
  else if c = '"' then .ok { s with phase := .inQuotes }
  else if c = ',' then .ok (s.close .startField)
  else s.add .inField c

def step (s : State) (c : Char) : Except Fault State :=
  match s.phase with
  | .startRecord => if isLineEnd c then .ok { s with phase := .afterLineEnd } else stepField s c
  | .startField => stepField s c
  | .inField =>
    if isLineEnd c then .ok (s.close .afterLineEnd)
    else if c = ',' then .ok (s.close .startField)
    else s.add .inField c
  | .inQuotes => if c = '"' then .ok { s with phase := .quoteInQuotes } else s.add .inQuotes c
  | .quoteInQuotes =>
    if c = '"' then s.add .inQuotes c
    else if c = ',' then .ok (s.close .startField)
    else if isLineEnd c then .ok (s.close .afterLineEnd)
    -- Text behind a closing quote goes on as if the field had no quotes.
    else s.add .inField c
  | .afterLineEnd => if isLineEnd c then .ok s else .error .lineEndInField

/-- The end of a line: it ends the record unless a quote is open. -/
def endLine (s : State) : State :=
  match s.phase with
  | .startRecord => s
  | .startField => s.close .startRecord
  | .inField => s.close .startRecord
  | .inQuotes => s
  | .quoteInQuotes => s.close .startRecord
  | .afterLineEnd => { s with phase := .startRecord }

/-- Records, up to the fault that ended the reading and the number of its line. -/
structure Scan where
  records : List (List String)
  fault : Option (Nat × Fault)
deriving DecidableEq, Repr

/-- Reads on from a state in which `count` lines have been read. -/
def readLines : (count : Nat) → State → List (List Char) → Scan
  | _, s, [] =>
    -- Only an open quote carries a record over the end of a line; at the end of the text it counts as closed.
    if s.size ≠ 0 ∨ s.phase = .inQuotes then ⟨[(s.close .startRecord).record], none⟩ else ⟨[], none⟩
  | count, s, line :: rest =>
    match line.foldlM step s with
    | .error fault => ⟨[], some (count + 1, fault)⟩
    | .ok s =>
      let s := endLine s
      if s.phase = .startRecord then
        let scan := readLines (count + 1) .start rest
        { scan with records := s.record :: scan.records }
      else readLines (count + 1) s rest

def read (text : String) : Scan :=
  readLines 0 .start (lines text.toList)

/-- A cell between quotes, with quotes inside it doubled. -/
def quotedCell (cell : String) : List Char :=
  '"' :: substitute '"' ['"', '"'] cell.toList ++ ['"']

def row (cells : List String) : List Char :=
  List.intercalate [','] (cells.map quotedCell) ++ ['\n']

def Fault.message : Fault → String
  | .lineEndInField =>
    "new-line character seen in unquoted field - do you need to open the file in universal-newline mode?"
  | .fieldTooLong => "field larger than field limit (131072)"

example : (read "a,\"b,\"\"c\"\n\nd").records = [["a", "b,\"c"], [], ["d"]] := by decide

end Amalgam.Symbols.Csv
