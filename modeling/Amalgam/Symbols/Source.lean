import Amalgam.Tool
/-!
# Symbol sources

A symbol source lists the top-level declarations of a source file. One kind asks the host's parser library, which is
opened at the first use and stays open; the other runs an executable that prints a table. Declarations in system
headers, without a file or without a name are left out.
-/

namespace Amalgam.Symbols

open Amalgam.Text

/-- A collaborator that lists declarations. -/
structure Source where
  /-- What is reported missing when it is not available. -/
  name : Value
  /-- A source without this question always counts as available. -/
  isAvailable : Option (Action Bool)
  list : (source : Path) → (args : List String) → Action (List Entry)

def listingLogger : String := "bundlecxx.symbols.listing"

def requireFile (path : Path) : Action Unit := do
  if !(← Action.isFile path) then throw (.sourceNotFound path.text)

/-! ### Parser library -/

/-- Opens the parser library unless it is open. -/
def openIndex (libraryPath : Value) : Action Unit := do
  let w ← get
  if w.indexOpen then return
  if libraryPath.isGiven && !w.host.library.loaded then
    Action.record (.requested (.setLibrary libraryPath))
  Action.record (.requested .createIndex)
  match w.host.library.loadError with
  | some reason => throw (.parserUnavailable reason)
  | none => modify fun w => { w with indexOpen := true }

def libraryAvailable (libraryPath : Value) : Action Bool := do
  match ← Action.attempt (openIndex libraryPath) with
  | .ok () => return true
  | .error failure =>
    if failure.family = .listing then
      Action.log .debug listingLogger ("libclang unavailable: " ++ failure.message)
      return false
    else throw failure

/-- The entry of a declaration, unless it is left out. -/
def entryOf? (c : Cursor) : Option Entry :=
  match c.file with
  | none => none
  | some file =>
    if c.inSystemHeader || c.displayName = "" then none
    else
      some { filenameLine := file ++ ":" ++ numeral c.line, kindDisplayName := c.kind ++ ":" ++ c.displayName }

def libraryList (libraryPath : Value) (source : Path) (args : List String) : Action (List Entry) := do
  requireFile source
  openIndex libraryPath
  Action.record (.requested (.parse source.text args))
  let library := (← get).host.library
  match library.parseError with
  | some reason => throw (.unitUnreadable source.text reason)
  | none =>
    let entries := library.cursors.filterMap entryOf?
    Action.log .debug listingLogger
      ("libclang listed " ++ numeral entries.length ++ " declarations in " ++ source.text)
    return entries

def Source.ofLibrary (libraryPath : Value) : Source where
  name := .text "libclang"
  isAvailable := some (libraryAvailable libraryPath)
  list := libraryList libraryPath

/-! ### Executable -/

def executableList (executable timeout : Value) (source : Path) (args : List String) : Action (List Entry) := do
  requireFile source
  match ← Tool.find executable with
  | none => throw (.toolNotFound executable.shown)
  | some exe =>
    match ← Action.attempt (Tool.run (exe :: source.text :: args) timeout) with
    | .error failure =>
      throw (if failure.family.isSystem || failure.family = .timeout then
        .listerFailed executable.shown failure.message else failure)
    | .ok (status, stdout, stderr) =>
      if status != 0 then
        let complaint := trimmed stderr
        throw (.listerFailed executable.shown
          (if complaint = "" then "exit status " ++ numeral status else complaint))
      Action.ofExcept .table (parse (String.ofList (dropBefore '\r' '\n' stdout.toList)))

def Source.ofExecutable (executable timeout : Value) : Source where
  name := executable
  isAvailable := some (return (← Tool.find executable).isSome)
  list := executableList executable timeout

end Amalgam.Symbols
