import Amalgam.World
/-!
# Symbols files

A table is read as strict text with line ends of any kind and without byte order marks at its start. It is written
with a line end of the caller's choice, also inside cells.
-/

namespace Amalgam.Symbols

open Amalgam.Text

def tableLogger : String := "bundlecxx.symbols.table"

def readTable (path : String) (encoding : Value) : Action (List Entry) := do
  let file := (Path.ofText path).text
  let glyphs ← match ← Action.attempt (Action.readText file encoding false) with
    | .ok glyphs => pure glyphs
    | .error (.file fault) => throw (if fault.isSystem then .tableUnreadable file fault else .file fault)
    | .error failure => throw failure
  let text := universalNewlines (glyphs.filterMap Glyph.char?)
  let entries ← Action.ofExcept .table (parse (String.ofList (text.dropWhile (· = '\ufeff'))))
  Action.log .debug tableLogger ("Read " ++ numeral entries.length ++ " symbol entries from " ++ file)
  return entries

def writeTable (path : String) (entries : List Entry) (encoding : Value) (newline : String) : Action Unit :=
  Action.writeText (Path.ofText path).text encoding (substitute (.char '\n') (glyphs newline) (glyphs (format entries)))

/-- Where the table of a source file is by default: named after it, in the working directory. -/
def defaultPath (source : Path) (suffix : Value) : Except Failure Path :=
  match suffix with
  | .text s => .ok (Path.ofText (source.stem ++ s))
  | v => .error (.misuse (.notJoinable v.fullKindName))

end Amalgam.Symbols
