import Amalgam.Config.Settings
import Amalgam.Rename.Pass
/-!
# Renaming in a file

A file is read with undecodable bytes kept, its line ends are made plain, the entries are applied, and it is written
with the configured line end. A file for which no entry has a new name is not touched.
-/

namespace Amalgam.Rename

open Amalgam.Text Amalgam.Symbols Amalgam.Config

def withLineEnd (eol : String) (text : List Glyph) : List Glyph :=
  substitute (.char '\n') (glyphs eol) text

def renameFile (settings : RenameSettings) (path : String) (entries : List Entry) : Action Report := do
  let file := (Path.ofText path).text
  let report : Report := { filePath := file }
  if !entries.any Entry.hasRename then return report
  let text ← Action.readText file settings.encoding true
  let pass := renameText (normalizeNewlines text) entries report
  pass.records.forM fun r => Action.record (.logged r)
  -- An unknown line ending is found out here, when the renames are logged and nothing is written yet.
  let eol ← Action.ofExcept .misuse settings.newline
  Action.writeText file settings.encoding (withLineEnd eol pass.text)
  return { pass.report with written := true }

end Amalgam.Rename
