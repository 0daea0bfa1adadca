import Amalgam.Backup
import Amalgam.Bundle.Result
import Amalgam.Config.Settings
import Amalgam.Merger
import Amalgam.Rename.File
import Amalgam.Symbols.File
import Amalgam.Symbols.Source
/-!
# Bundling

The two workflows. Listing writes a table of the declarations in a source file. Bundling reads an edited table, backs
up the files it renames in, renames, merges, and restores the files. Everything is checked before the first file is
touched. Causes that concern the work or the file system end up in the result; any other cause passes through.
-/

namespace Amalgam

open Amalgam.Text Amalgam.Symbols Amalgam.Config

/-- The settings and collaborators of the workflows. -/
structure Bundler where
  settings : Settings
  source : Source
  merger : Merger

def sourceOf (tools : ToolSettings) : Source :=
  match tools.symbolSource with
  | .known .executable => .ofExecutable tools.listSymbolsPath .null
  | _ => .ofLibrary tools.libclangPath

def mergerOf (s : Settings) : Merger :=
  .ofTool s.tools.amalgamateCommand s.bundle.mergeTimeout

/-- Where a bundle goes by default: beside the source, under a name that says so. -/
def defaultOutputPath (source : Path) : Except Failure Path :=
  (source.withName (source.stem ++ "_bundled" ++ source.suffix)).mapError .name

/-- The commands that need collaborators. -/
inductive Command
  | listSymbols
  | bundle
deriving DecidableEq, Repr

/-- Work on a result: what has been filled into it stays when the work fails. -/
abbrev Work := ExceptT Failure (StateT BundleResult (StateM World))

instance : MonadLift Action Work where
  monadLift a := ExceptT.mk (StateT.lift (ExceptT.run a))

def Work.note (change : BundleResult → BundleResult) : Work Unit :=
  ExceptT.lift (modify change)

/-- Runs work from a result on: the result it leaves, and how it ended. -/
def Work.runFrom {α : Type} (work : Work α) (result : BundleResult) : Action (Except Failure α × BundleResult) :=
  ExceptT.lift (StateT.run (ExceptT.run work) result)

namespace Bundler

def logger : String := "bundlecxx.api"

def missingTools (b : Bundler) : Command → Action (List Value)
  | .listSymbols => do
    match b.source.isAvailable with
    | none => return []
    | some available => if ← available then return [] else return [b.source.name]
  | .bundle => do if ← b.merger.isAvailable then return [] else return [b.merger.name]

def requireTools (b : Bundler) (command : Command) : Action Unit := do
  match ← b.missingTools command with
  | [] => return
  | tool :: _ => throw (.toolNotFound tool.shown)

def requireSource (source : Option String) : Action Path := do
  match source.filter (· != "") with
  | none => throw .sourceRequired
  | some s =>
    let path := Path.ofText s
    requireFile path
    return path

/-! ### Listing -/

def listInto (b : Bundler) (source : Option String) (table : Option String) (args : List String) :
    Action ListingResult := do
  let path ← requireSource source
  b.requireTools .listSymbols
  let csv ← match table.filter (· != "") with
    | some t => pure (Path.ofText t)
    | none => Action.ofExcept id (defaultPath path b.settings.bundle.symbolsSuffix)
  Action.log .info logger ("Reading symbols from " ++ path.text ++ " ...")
  let symbols ← b.source.list path args
  -- An unknown line ending is found out only after the source has been asked.
  let newline ← Action.ofExcept .misuse b.settings.rename.newline
  writeTable csv.text symbols b.settings.rename.encoding newline
  Action.log .info logger ("Symbols written to " ++ csv.text)
  let groups ← Action.ofExcept .number (groupByFile symbols)
  return {
    success := true
    symbolsPath := some csv.text
    symbols := symbols
    metadata := [(.text "source", .text path.text), (.text "files", .list (groups.map fun g => .text g.1))] }

def listSymbols (b : Bundler) (source : Option String) (table : Option String) (args : List String) :
    Action ListingResult := do
  match ← Action.attempt (b.listInto source table args) with
  | .ok result => return result
  | .error failure =>
    if failure.isReported then
      Action.log .error logger ("list-symbols failed: " ++ failure.message)
      return { success := false, errors := [failure.message] }
    else throw failure

/-! ### Bundling -/

/-- A rename plan: the files with a new name for some entry, each with all its entries. -/
abbrev Plan := List (String × List Entry)

def plan (b : Bundler) (table : String) : Action Plan := do
  let symbols ← readTable table b.settings.rename.encoding
  Action.log .info logger ("Grouping " ++ numeral symbols.length ++ " symbols by file ...")
  return withRenames (← Action.ofExcept .number (groupByFile symbols))

/-- The table that is given, or the default one if it is there. -/
def findTable (b : Bundler) (source : Path) (table : Option String) : Action (Option Path) := do
  match table.filter (· != "") with
  | some t => return some (Path.ofText t)
  | none => do
    let path ← Action.ofExcept id (defaultPath source b.settings.bundle.symbolsSuffix)
    if ← Action.leadsSomewhere path then return some path else return none

/-- The planned renames as a mapping from files to symbols and their new names. -/
def plannedValue (p : Plan) : Value :=
  .map (p.map fun (file, entries) =>
    (.text file, .list ((entries.filter Entry.hasRename).map fun e =>
      .map [(.text "symbol", .text e.kindDisplayName), (.text "new_name", .text e.newName)])))

def restoresOnFailure (b : Bundler) : Bool :=
  match b.settings.bundle.restorePolicy with
  | .known .always => true
  | _ => false

def renameOne (b : Bundler) (file : String) (entries : List Entry) : Work Unit := do
  Action.log .info logger ("Renaming symbols in file " ++ file ++ " ...")
  let report ← Rename.renameFile b.settings.rename file entries
  Work.note fun r => { r with
    renames := r.renames ++ [(file, report.replacements)]
    warnings := r.warnings ++ report.skipped.map fun s => file ++ ": no identifier in " ++ quoted s }

def renameAndMerge (b : Bundler) (p : Plan) (source output : Path) (args : List String) : Work Unit := do
  p.forM fun (file, entries) => b.renameOne file entries
  b.merger.merge source output args

/-- Whether bundling reports a cause in its result. -/
def isReported (failure : Failure) : Bool :=
  failure.isReported || failure.family = .decoding

def runSession (b : Bundler) (p : Plan) (source output : Path) (args : List String) : Work Unit := do
  let names := p.map Prod.fst
  Action.log .info logger ("Backing up " ++ numeral names.length ++ " original files ...")
  try
    Backup.session b.settings.rename.backupSuffix (names.map Path.ofText) b.restoresOnFailure fun _ =>
      b.renameAndMerge p source output args
  catch failure =>
    -- The files are as the body left them; a result that is returned has to say so.
    if isReported failure && !b.restoresOnFailure then
      Work.note fun r => { r with
        warnings := r.warnings ++ ["Modified files left in place with backups: " ++ joined ", " names] }
    throw failure
  Work.note fun r => { r with restoredFiles := names }

def bundlePlain (b : Bundler) (source output : Path) (args : List String) (dryRun : Bool) : Work Unit := do
  if dryRun then
    Work.note fun r => { r with warnings := r.warnings ++ ["No symbols table found; nothing to rename"] }
  else
    b.merger.merge source output args
    Action.log .info logger ("Bundled source written to " ++ output.text)

def bundleByTable (b : Bundler) (table : Path) (source output : Path) (args : List String) (dryRun : Bool) :
    Work Unit := do
  Action.log .info logger ("Reading symbols from " ++ table.text ++ " ...")
  let p ← b.plan table.text
  Work.note fun r => { r with metadata := Fields.put r.metadata (.text "symbols_path") (.text table.text) }
  let missing ← (p.map Prod.fst).filterM fun name => do return !(← Action.isFile (Path.ofText name))
  if !missing.isEmpty then throw (.filesNotFound table.text missing)
  if dryRun then
    Work.note fun r => { r with metadata := Fields.put r.metadata (.text "planned") (plannedValue p) }
  else
    b.runSession p source output args
    Action.log .info logger ("Bundled source written to " ++ output.text)

def bundleWork (b : Bundler) (source table output : Option String) (args : List String) (dryRun : Bool) :
    Work Unit := do
  let path ← requireSource source
  let out ← match output.filter (· != "") with
    | some o => pure (Path.ofText o)
    | none => Action.ofExcept id (defaultOutputPath path)
  Work.note fun r => { r with outputPath := some out.text }
  -- A dry run calls no merger, so none has to be there.
  if !dryRun then b.requireTools .bundle
  match ← b.findTable path table with
  | none => b.bundlePlain path out args dryRun
  | some csv => b.bundleByTable csv path out args dryRun

def bundle (b : Bundler) (source table output : Option String) (args : List String) (dryRun : Bool) :
    Action BundleResult := do
  let (ended, result) ← (b.bundleWork source table output args dryRun).runFrom { success := false, dryRun := dryRun }
  match ended with
  | .ok () => return { result with success := true }
  | .error failure =>
    if isReported failure then
      Action.log .error logger ("bundle failed: " ++ failure.message)
      return { result with errors := result.errors ++ [failure.message] }
    else throw failure

end Bundler

end Amalgam
