import Amalgam.Bundle.Bundler
import Amalgam.CommandLine.Invocation
import Amalgam.Config.Load
import Amalgam.Config.Save
import Amalgam.Console.Printer
import Amalgam.Report
/-!
# Running a command line

Runs what a command line asks for and gives the exit status with the text for both outputs. With machine-readable output
the standard output gets JSON and nothing else: everything that is meant for people goes to the error output, which also
gets the log.

Both outputs take every text: an encoding of theirs that lacks a character is not part of this. Likewise the arguments
are texts, and so are paths and the environment, so none of them holds bytes that stand for no character.
-/

namespace Amalgam.CommandLine

open Amalgam.Text Amalgam.Console

/-- What the program needs to know besides its arguments: how collaborators are put together, and the time for the log. -/
structure Setup where
  bundler : Config.Settings → Bundler := fun s => ⟨s, sourceOf s.tools, mergerOf s⟩
  stamp : String := "1970-01-01 00:00:00"

def programVersion : String := "0.1.0"

/-! ### Output -/

def logLine (stamp : String) (r : Record) : String :=
  stamp ++ " - " ++ r.logger ++ " - " ++ r.level.name ++ " - " ++ r.message ++ "\n"

def printedPart : Event → String
  | .printed text => text
  | _ => ""

/-- What an event adds to the error output. -/
def complainedPart (stamp : String) (verbose : Bool) : Event → String
  | .complained text => text
  -- Debug records are shown on request only.
  | .logged r => if r.level = .debug && !verbose then "" else logLine stamp r
  | _ => ""

/-- Text for people: on the standard output, unless that is kept for JSON. -/
def tell (i : Invocation) (text : String) : Action Unit :=
  Action.record (if i.machineReadable then .complained text else .printed text)

/-- JSON is always for the standard output. -/
def tellJson (v : Value) : Action Unit := do
  let text ← Action.ofExcept (fun what => .misuse (.unwritable what)) (Json.write .readable v)
  Action.record (.printed (text ++ "\n"))

def complain (text : String) : Action Unit :=
  Action.record (.complained text)

def Invocation.styled (i : Invocation) : Bool :=
  !i.plain && !i.machineReadable

/-- Output of the console, which fails on bad markup. -/
def tellConsole (i : Invocation) (text : Bool → Except MarkupFault String) : Action Unit := do
  tell i (← Action.ofExcept .markup (text i.styled))

def tellMessage (i : Invocation) (kind : Kind) (message : String) : Action Unit :=
  tellConsole i fun styled => printMessage styled kind message

def tellTable (i : Invocation) (t : Table) : Action Unit :=
  tellConsole i fun styled => printTable styled t

/-! ### Tools -/

def previewRows : Nat := 20

def runListSymbols (i : Invocation) (b : Bundler) (o : ToolOptions) : Action Nat := do
  let result ← b.listSymbols o.source o.table o.toolArguments
  if i.machineReadable then
    let v ← Action.ofExcept .number (Report.listingValue result)
    Action.record (.printed (Report.json .standard v ++ "\n"))
    return if result.success then 0 else 1
  else if !result.success then
    result.errors.forM (tellMessage i .error)
    return 1
  else
    let source := o.source.getD ""
    let path := (Report.optionalText result.symbolsPath).shown
    tellTable i
      ⟨"Symbols in " ++ source, ["filename_line", "kind_display_name"],
        (result.symbols.take previewRows).map fun e => [e.filenameLine, e.kindDisplayName]⟩
    if result.symbols.length > previewRows then
      tellMessage i .info ("... and " ++ numeral (result.symbols.length - previewRows) ++ " more")
    tellMessage i .success (← Action.ofExcept .number (Report.listingText result))
    tellMessage i .info ("Edit the new_display_name column of " ++ path ++ ", then run bundle " ++ source ++ " -c " ++ path)
    return 0

def runBundle (i : Invocation) (b : Bundler) (o : ToolOptions) : Action Nat := do
  let result ← b.bundle o.source o.table o.output o.toolArguments o.dryRun
  if i.machineReadable then
    Action.record (.printed (Report.json .standard (Report.bundleValue result) ++ "\n"))
    return if result.success then 0 else 1
  else if !result.success then
    result.errors.forM (tellMessage i .error)
    result.warnings.forM (tellMessage i .warning)
    return 1
  else
    if !result.renames.isEmpty then
      tellTable i
        ⟨"Renamed symbols", ["File", "Symbol", "Replacements"],
          result.renames.flatMap fun (file, counts) => counts.map fun (name, n) => [file, name, numeral n]⟩
    result.warnings.forM (tellMessage i .warning)
    tellMessage i .success (Report.bundleText result false)
    return 0

def runStatus (i : Invocation) (b : Bundler) (asJson : Bool) : Action Nat := do
  let forListing ← b.missingTools .listSymbols
  let forBundling ← b.missingTools .bundle
  let source ← Action.ofExcept .misuse (b.settings.tools.symbolSource.value Config.SymbolSourceKind.name)
  let settings ← Action.ofExcept id b.settings.toValue
  let missing := forListing ++ forBundling
  if i.machineReadable || asJson then
    tellJson (.map
      [(.text "symbol_source", source),
       (.text "tools", .map
        [(.text "list-symbols", .bool forListing.isEmpty), (.text "bundle", .bool forBundling.isEmpty)]),
       (.text "missing", .list missing), (.text "configuration", settings)])
  else
    let ready (lacking : List Value) := if lacking.isEmpty then "yes" else "no"
    tellTable i
      ⟨"bundle-cxx Tool Status", ["Command", "Ready"],
        [["list-symbols", ready forListing], ["bundle", ready forBundling]]⟩
    missing.forM fun tool => tellMessage i .warning (Failure.toolNotFound tool.shown).message
  return 0

/-! ### Configuration -/

def runShowConfig (i : Invocation) : Action Nat := do
  let settings ← Config.load i.config true true
  tellConsole i fun styled => printHeader styled "Current bundle-cxx Configuration" i.config
  tell i ((← Action.ofExcept .misuse settings.summary) ++ "\n")
  return 0

/-- Runs an action whose configuration faults are told with an introduction; any other failure passes. -/
def reportingFaults {α : Type} (introduction : String) (action : Action α) (next : α → Action Nat) : Action Nat := do
  match ← Action.attempt action with
  | .ok a => next a
  | .error failure =>
    if failure.family = .configuration then
      complain ("Error: " ++ introduction ++ ": " ++ failure.message ++ "\n")
      return 1
    else throw failure

def runInitConfig (i : Invocation) (o : InitOptions) : Action Nat :=
  reportingFaults "Failed to create configuration" (Config.save {} o.path o.format) fun _ => do
    tellMessage i .success ("Default configuration file created at " ++ o.path)
    tell i "Edit the file to customize your bundle-cxx settings.\n"
    return 0

def runValidateConfig (i : Invocation) (file : String) : Action Nat :=
  reportingFaults "Configuration file is invalid" (Config.load (some file) false true) fun settings => do
    tellMessage i .success ("Configuration file " ++ file ++ " is valid")
    if i.verbose then
      let v ← Action.ofExcept id settings.toValue
      let text ← Action.ofExcept (fun what => Failure.misuse (.unwritable what)) (Json.write .standard v)
      tell i (text ++ "\n")
    return 0

/-! ### Runs -/

def Task.lacksSource : Task → Bool
  | .listSymbols o | .bundle o => (o.source.getD "").isEmpty
  | _ => false

def loadBundler (setup : Setup) (i : Invocation) : Action Bundler :=
  return setup.bundler (← Config.load i.config true true)

def runTask (setup : Setup) (i : Invocation) : Action Nat := do
  if i.task.lacksSource then
    complain ("Error: " ++ Failure.sourceRequired.message ++ "\n")
    return 1
  else
    match i.task with
    | .listSymbols o => runListSymbols i (← loadBundler setup i) o
    | .bundle o => runBundle i (← loadBundler setup i) o
    | .status asJson => runStatus i (← loadBundler setup i) asJson
    | .showConfig => runShowConfig i
    | .initConfig o => runInitConfig i o
    | .validateConfig file => runValidateConfig i file

def tellFailure (i : Invocation) (failure : Failure) : Action Unit := do
  if failure.family = .interrupt then
    if i.machineReadable then
      tellJson (.map [(.text "success", .bool false), (.text "error", .text "cancelled_by_user")])
    complain "\nOperation cancelled by user\n"
  else
    if i.machineReadable then
      tellJson (.map [(.text "success", .bool false), (.text "error", .text failure.message),
        (.text "command", .text i.task.command)])
    complain ("Error: " ++ failure.message ++ "\n")
    if i.verbose then complain "Traceback (most recent call last):\n"

def perform (setup : Setup) (i : Invocation) : Action Nat := do
  match ← Action.attempt (runTask setup i) with
  | .ok status => return status
  | .error failure => do
    tellFailure i failure
    return 1

/-- How a run of the program ended. -/
structure Ending where
  status : Nat
  stdout : String
  stderr : String
deriving DecidableEq, Repr

/-- The ending when arguments are not read to the end. -/
def Stop.ending : Stop → Ending
  | .help text => ⟨0, text, ""⟩
  | .version => ⟨0, globalGrammar.program ++ " " ++ programVersion ++ "\n", ""⟩
  | .refused usage program complaint => ⟨2, "", usage ++ program ++ ": error: " ++ complaint.message ++ "\n"⟩

def runInvocation (setup : Setup) (i : Invocation) (w : World) : Ending × World :=
  let (ended, after) := (perform setup i).runIn w
  let events := after.journal.drop w.journal.length
  let status := match ended with
    | .ok status => status
    | .error _ => 1
  (⟨status, String.join (events.map printedPart), String.join (events.map (complainedPart setup.stamp i.verbose))⟩, after)

def run (setup : Setup) (arguments : List String) (w : World) : Ending × World :=
  match Invocation.ofArguments arguments with
  | .ok i => runInvocation setup i w
  | .error stop => (stop.ending, w)

end Amalgam.CommandLine
