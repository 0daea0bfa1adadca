import Amalgam.CommandLine.Run
/-!
# The program

The outer layer. It reads the files that a command line can name into a world, runs the command line there, writes back
the files that changed, and prints. Programs of the host are not run from here: a tool that is asked for is missing.
-/

namespace Amalgam.Main

open Amalgam.Text Amalgam.Symbols

def variableNames : List String :=
  ["HOME", "PATH", "BUNDLECXX_LIST_SYMBOLS_PATH", "BUNDLECXX_AMALGAMATE_COMMAND", "BUNDLECXX_LIBCLANG_PATH",
    "BUNDLECXX_SYMBOL_SOURCE", "BUNDLECXX_BACKUP_SUFFIX", "BUNDLECXX_ENCODING", "BUNDLECXX_LINE_ENDING",
    "BUNDLECXX_RESTORE_POLICY", "BUNDLECXX_MERGE_TIMEOUT"]

/-- Paths that arguments can mean: themselves, what they attach to an option, and the table that belongs to a source. -/
def pathsOf (argument : String) : List String :=
  let attached := (splitFirst '=' argument.toList).map fun parts => String.ofList parts.2
  let table := match defaultPath (Path.ofText argument) (.text "_symbols.csv") with
    | .ok p => [p.text]
    | .error _ => []
  [argument] ++ attached.toList ++ table

/-- The files that the table in some bytes names. -/
def namesIn (bytes : List UInt8) : List String :=
  match Codec.utf8.decode false bytes with
  | .error _ => []
  | .ok glyphs =>
    match Symbols.parse (glyphText glyphs) with
    | .error _ => []
    | .ok entries => entries.filterMap fun e => e.location.toOption.map Location.file

/-- The working directory as it is before any file is read. -/
def emptyFiles : FileSystem :=
  { nodes := [(["work"], .directory)], here := ["work"] }

def routeOf (path : String) : Route :=
  let p := Path.ofText path
  if p.root = "" then emptyFiles.here ++ p.parts else p.parts

def pathOf (route : Route) : String :=
  if emptyFiles.here.isPrefixOf route then joined "/" (route.drop emptyFiles.here.length) else "/" ++ joined "/" route

def worldOf (files : FileSystem) (environment : List (String × String)) : World where
  files := files
  environment := environment
  home := (environment.lookup "HOME").getD "~"
  host := {
    run := fun _ argv _ fs => (fs, .failed (.file (.missing (argv.headD ""))))
    library := { loaded := false, loadError := some "not linked into this program", parseError := none, cursors := [] } }
  journal := []
  runs := 0
  indexOpen := false

def readBytes (path : String) : IO (Option (List UInt8)) := do
  try return some (← IO.FS.readBinFile path).toList
  catch _ => return none

def isDirectory (path : String) : IO Bool := do
  try
    let _ ← IO.FS.Handle.mk (path ++ "/.") .read
    return true
  catch _ => return false

/-- Reads what stands at some paths into a file system, with the directories that they stand in. -/
def readInto (fs : FileSystem) (paths : List String) : IO (FileSystem × List (List UInt8)) := do
  let mut files := fs
  let mut contents := []
  for path in paths do
    let route := routeOf path
    if ← isDirectory (pathOf route.dropLast) then files := files.makeDirectories route.dropLast
    if ← isDirectory (pathOf route) then files := files.makeDirectories route
    if let some bytes ← readBytes path then
      files := (files.makeDirectories route.dropLast).put route (.file bytes false)
      contents := bytes :: contents
  return (files, contents)

/-- Writes the files that changed, and removes those that are gone. -/
def writeBack (before after : FileSystem) : IO Unit := do
  for (route, node) in after.nodes do
    if let .file bytes _ := node then
      if before.node? route != some node then IO.FS.writeBinFile (pathOf route) (ByteArray.mk bytes.toArray)
  for (route, node) in before.nodes do
    if let .file .. := node then
      if (after.node? route).isNone then IO.FS.removeFile (pathOf route)

def runProgram (arguments : List String) : IO UInt32 := do
  let environment ← variableNames.filterMapM fun name => do return (← IO.getEnv name).map fun value => (name, value)
  let home := (environment.lookup "HOME").getD "~"
  let named := ((arguments.flatMap pathsOf ++ Config.defaultPaths home).filter (· != "")).eraseDups
  let (first, contents) ← readInto emptyFiles named
  let (files, _) ← readInto first (contents.flatMap namesIn).eraseDups
  let (ending, after) := CommandLine.run {} arguments (worldOf files environment)
  writeBack files after.files
  IO.print ending.stdout
  IO.eprint ending.stderr
  return ending.status.toUInt32

end Amalgam.Main

/-- Reads the arguments, runs, and exits with the status of the run. -/
def main (arguments : List String) : IO UInt32 :=
  Amalgam.Main.runProgram arguments
