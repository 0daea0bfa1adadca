import Amalgam.Config.Environment
import Amalgam.Config.Merge
import Amalgam.Config.Validate
import Amalgam.Json.Reader
import Amalgam.Yaml.Load
/-!
# Loading a configuration

A file, given or found in one of the usual places, and over it the environment. What they bind is merged, checked and
then filled into the defaults; keys that name no setting are ignored.
-/

namespace Amalgam.Config

open Amalgam.Text

/-! ### Finding a file -/

def defaultPaths (home : String) : List String :=
  ["bundlecxx.json", "bundlecxx.yaml", "bundlecxx.yml", ".bundlecxx.json", ".bundlecxx.yaml", ".bundlecxx.yml",
    home ++ "/.bundlecxx.json", home ++ "/.bundlecxx.yaml"]

/-- The first of some paths that leads anywhere; without paths, of the default ones. -/
def findFile (paths : List String) : Action (Option String) := do
  let w ← get
  let candidates := if paths.isEmpty then defaultPaths w.home else paths
  return candidates.find? w.files.leadsSomewhere

/-! ### Reading a file -/

def isYamlName (path : String) : Bool :=
  ".yaml".toList.isSuffixOf path.toList || ".yml".toList.isSuffixOf path.toList

/-- A file that stops in the middle of a character: read piece by piece, the last piece starts there. -/
def atPieceStart : ReadFault → ReadFault
  | .undecodable fault =>
    .undecodable (if fault.reason = "unexpected end of data" then { fault with start := 0 } else fault)
  | fault => fault

def jsonFailure (text : String) : Json.Fault → Failure
  | .malformed problem rest => .configuration (.malformed (problem.message ++ ": " ++ Json.place text rest))
  | .tooManyDigits count => .number (.tooManyDigits count)
  | .tooDeep => .tooDeep

def yamlFailure : Yaml.Fault → Failure
  | .malformed => .configuration (.malformed "<yaml>")
  | .integer fault => .number fault
  | .emptyNumeral => .emptyNumeral
  | .notReal text => .scalar ("could not convert string to float: " ++ quoted text)
  | .hugePlace => .tooLarge "int" "float"
  | .notTruth word => .misuse (.unknownKey (quoted word))
  | .notTimestamp => .misuse (.noMember "NoneType" "groupdict")
  | .notText kind => .misuse (.notText kind)
  | .calendar fault => .scalar fault.message
  | .characterCode => .scalar "chr() arg not in range(0x110000)"
  | .hugeCharacterCode => .tooLarge "Python int" "C int"
  | .tooDeep => .tooDeep

/-- The value of a configuration file's text; an empty YAML document is an empty mapping. -/
def parseFile (path : String) (text : List Char) : Except Failure Value :=
  if isYamlName path then do
    let v ← (Yaml.load text).mapError yamlFailure
    return if v.isGiven then v else .map []
  else (Json.parse (String.ofList text)).mapError (jsonFailure (String.ofList text))

def fileFields (path : String) : Action Fields := do
  let fs ← Action.files
  if !fs.leadsSomewhere path then throw (.configuration (.fileNotFound path))
  let bytes ← Action.ofExcept (fun fault => .configuration (.unreadable fault)) (fs.read path)
  let adjust := if isYamlName path then atPieceStart else id
  let glyphs ← Action.ofExcept (fun fault => .unreadable (adjust fault)) (Codec.utf8.decode false bytes)
  let text := universalNewlines (glyphs.filterMap Glyph.char?)
  match ← Action.ofExcept id (parseFile path text) with
  | .map fields => return fields
  | _ => throw (.configuration .notMapping)

/-! ### Filling settings -/

/-- The bindings of a section; a missing section has none. -/
def sectionFields (data : Fields) (name : String) : Except Failure Fields :=
  match Fields.get? data name with
  | none => .ok []
  | some (.map fields) => .ok fields
  | some v => .error (.misuse (.noMember v.fullKindName "items"))

/-- The name of a setting; only a text can be one. -/
def settingName (key : Value) : Except Failure String :=
  match key with
  | .text s => .ok s
  | v => .error (.misuse (.notSettingName v.fullKindName))

/-- A member of an enumeration by name; a value that is no text is kept. -/
def choice {α : Type} (ofName? : String → Option α) (enumeration : String) : Value → Except Failure (Choice α)
  | .text s =>
    match ofName? s with
    | some a => .ok (.known a)
    | none => .error (.notMember (quoted s) enumeration)
  | v => .ok (.other v)

/-- Names that every section knows besides its settings, by what binding them does. -/
inductive Reserved
  /-- All that the section holds is replaced by the bindings of a mapping. -/
  | contents (fields : Fields)
  /-- The list of the section's settings is replaced. -/
  | roster (v : Value)

/-- What a binding does to a section when its name is reserved; `kind` is the section's own name in messages. -/
def reserved? (kind name : String) (v : Value) : Except Misuse (Option Reserved) :=
  match name with
  | "__dict__" =>
    match v with
    | .map fields => .ok (some (.contents fields))
    | v => .error (.notContents v.fullKindName)
  | "__dataclass_fields__" => .ok (some (.roster v))
  | "__class__" => .error (.notClass v.fullKindName)
  | "__weakref__" => .error (.fixedMember kind name)
  | _ => .ok none

/-- The name of what replaces the list of a section's settings, among the bindings that replace its contents. -/
def rosterName : String := "__dataclass_fields__"

/-- A setting among bindings that replace the contents of a section. -/
def heldOr (fields : Fields) (name : String) (default : Value) : Value :=
  (fields.get? name).getD default

/-- An enumerated setting among such bindings is not looked up in its enumeration. -/
def choiceOr {α : Type} (fields : Fields) (name : String) (default : Choice α) : Choice α :=
  ((fields.get? name).map Choice.other).getD default

def ToolSettings.ofContents (fields : Fields) : ToolSettings where
  listSymbolsPath := heldOr fields "list_symbols_path" (.text "list-symbols")
  amalgamateCommand := heldOr fields "amalgamate_command" (.text "amalgamate")
  libclangPath := heldOr fields "libclang_path" .null
  symbolSource := choiceOr fields "symbol_source" (.known .libclang)
  roster := fields.get? rosterName

def RenameSettings.ofContents (fields : Fields) : RenameSettings where
  backupSuffix := heldOr fields "backup_suffix" (.text ".bak")
  encoding := heldOr fields "encoding" (.text "utf-8")
  lineEnding := heldOr fields "line_ending" (.text "native")
  roster := fields.get? rosterName

def BundleSettings.ofContents (fields : Fields) : BundleSettings where
  restorePolicy := choiceOr fields "restore_policy" (.known .always)
  mergeTimeout := heldOr fields "merge_timeout" .null
  symbolsSuffix := heldOr fields "symbols_suffix" (.text "_symbols.csv")
  roster := fields.get? rosterName

def fillTools (s : ToolSettings) (binding : Value × Value) : Except Failure ToolSettings := do
  let name ← settingName binding.1
  match ← (reserved? "ToolsConfig" name binding.2).mapError .misuse with
  | some (.contents fields) => return .ofContents fields
  | some (.roster v) => return { s with roster := some v }
  | none =>
    match name with
    | "list_symbols_path" => return { s with listSymbolsPath := binding.2 }
    | "amalgamate_command" => return { s with amalgamateCommand := binding.2 }
    | "libclang_path" => return { s with libclangPath := binding.2 }
    | "symbol_source" =>
      return { s with symbolSource := ← choice SymbolSourceKind.ofName? "SymbolSourceKind" binding.2 }
    | _ => return s

def fillRename (s : RenameSettings) (binding : Value × Value) : Except Failure RenameSettings := do
  let name ← settingName binding.1
  match ← (reserved? "RenameConfig" name binding.2).mapError .misuse with
  | some (.contents fields) => return .ofContents fields
  | some (.roster v) => return { s with roster := some v }
  | none =>
    match name with
    | "backup_suffix" => return { s with backupSuffix := binding.2 }
    | "encoding" => return { s with encoding := binding.2 }
    | "line_ending" => return { s with lineEnding := binding.2 }
    -- The line end follows from the line ending and cannot be set, but looking at it needs one that is known.
    | "newline" => do
      let _ ← s.newline.mapError Failure.misuse
      return s
    | _ => return s

def fillBundle (s : BundleSettings) (binding : Value × Value) : Except Failure BundleSettings := do
  let name ← settingName binding.1
  match ← (reserved? "BundleSettings" name binding.2).mapError .misuse with
  | some (.contents fields) => return .ofContents fields
  | some (.roster v) => return { s with roster := some v }
  | none =>
    match name with
    | "restore_policy" => return { s with restorePolicy := ← choice RestorePolicy.ofName? "RestorePolicy" binding.2 }
    | "merge_timeout" => return { s with mergeTimeout := binding.2 }
    | "symbols_suffix" => return { s with symbolsSuffix := binding.2 }
    | _ => return s

def fill (data : Fields) : Except Failure Settings := do
  let tools ← (← sectionFields data "tools").foldlM fillTools {}
  let rename ← (← sectionFields data "rename").foldlM fillRename {}
  let bundle ← (← sectionFields data "bundle").foldlM fillBundle {}
  return ⟨tools, rename, bundle⟩

/-- What the configuration file says: the one that is given, else the first that is found. -/
def fileData (path : Option String) : Action Fields := do
  match path.filter (· != "") with
  | some p => fileFields p
  | none =>
    match ← findFile [] with
    | some p => do
      let data ← fileFields p
      Action.log .info environmentLogger ("Loaded configuration from: " ++ p)
      return data
    | none => return []

def load (path : Option String) (useEnvironment checked : Bool) : Action Settings := do
  let fromFile ← fileData path
  -- The later layer wins, so the environment has the last word.
  let layers ← if useEnvironment then do pure [fromFile, ← fromEnvironment] else pure [fromFile]
  let data := merge layers
  if checked then Action.ofExcept id (validate (.map data))
  Action.ofExcept id (fill data)

end Amalgam.Config
