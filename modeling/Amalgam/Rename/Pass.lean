import Amalgam.Number.Total
import Amalgam.Rename.Word
import Amalgam.Symbols.Name
import Amalgam.World
/-!
# Renaming in text

The entries of a table are applied one after the other, each to the text that the one before left behind. An entry
without a new name is passed over; one whose display name holds no identifier is reported as skipped.
-/

namespace Amalgam.Rename

open Amalgam.Text Amalgam.Symbols

/-- What happened to one file. -/
structure Report where
  filePath : String := ""
  /-- How often each name was replaced, names in the order of their first use. -/
  replacements : List (String × Nat) := []
  skipped : List String := []
  written : Bool := false
deriving DecidableEq, Repr

/-- The sum of all replacements. -/
def Report.total (r : Report) : Nat :=
  Number.total (r.replacements.map Prod.snd)

def addCount (name : String) (n : Nat) : List (String × Nat) → List (String × Nat)
  | [] => [(name, n)]
  | (k, m) :: rest => if k = name then (k, m + n) :: rest else (k, m) :: addCount name n rest

/-- A text on its way through the entries. -/
structure Pass where
  text : List Glyph
  report : Report
  records : List Record := []

def logger : String := "bundlecxx.refactoring.renamer"

/-- What is logged of an entry whose display name holds no identifier. -/
def skipRecord (e : Entry) : Record :=
  ⟨.warning, logger, "Skipping " ++ e.filenameLine ++ ": no identifier in " ++ quoted e.kindDisplayName⟩

def renameRecord (name new : String) (count : Nat) : Record :=
  ⟨.debug, logger, "Renamed " ++ name ++ " -> " ++ new ++ " (" ++ numeral count ++ " occurrences)"⟩

def Pass.apply (p : Pass) (e : Entry) : Pass :=
  if !e.hasRename then p
  else
    match bareName e.kindDisplayName with
    | none =>
      { p with
        report := { p.report with skipped := p.report.skipped ++ [e.kindDisplayName] }
        records := p.records ++ [skipRecord e] }
    | some name =>
      let (text, count) := replaceWord (glyphs name) (glyphs e.newName) p.text
      { text := text
        report := { p.report with replacements := addCount name count p.report.replacements }
        records := p.records ++ [renameRecord name e.newName count] }

/-- Applies all entries to a text. -/
def renameText (text : List Glyph) (entries : List Entry) (report : Report) : Pass :=
  entries.foldl Pass.apply { text := text, report := report }

/-- A text on its way through the entries when no report is kept. -/
structure Draft where
  text : List Glyph
  records : List Record := []

def Draft.apply (d : Draft) (e : Entry) : Draft :=
  if !e.hasRename then d
  else
    match bareName e.kindDisplayName with
    | none => { d with records := d.records ++ [skipRecord e] }
    | some name =>
      let (text, count) := replaceWord (glyphs name) (glyphs e.newName) d.text
      { text := text, records := d.records ++ [renameRecord name e.newName count] }

/-- Applies all entries to a text of which no report is asked for. -/
def renameUnreported (text : List Glyph) (entries : List Entry) : Draft :=
  entries.foldl Draft.apply { text := text }

/-- Line ends of two characters become line feeds. -/
def normalizeNewlines (text : List Glyph) : List Glyph :=
  dropBefore (.char '\r') (.char '\n') text

end Amalgam.Rename
