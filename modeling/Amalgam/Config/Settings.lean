import Amalgam.Failure
/-!
# Settings

The ten settings in their three sections, with their defaults. A configuration file may bind a setting to a value of any
kind, and without validation it is kept as it is, so most settings hold a value; the two enumerated settings hold a
member of their enumeration or whatever else they were bound to. A section also has a list of its own settings, by which
it is written as a mapping, and a file may put something else in its place.
-/

namespace Amalgam.Config

open Amalgam.Text

/-- Which collaborator lists the declarations. -/
inductive SymbolSourceKind
  | libclang
  | executable
deriving DecidableEq, Repr

/-- When backed-up files are put back after a bundle run. -/
inductive RestorePolicy
  | always
  | onSuccess
deriving DecidableEq, Repr

/-- An enumerated setting. -/
inductive Choice (α : Type)
  | known (a : α)
  | other (v : Value)
deriving Repr

def SymbolSourceKind.name : SymbolSourceKind → String
  | libclang => "libclang"
  | executable => "executable"

def SymbolSourceKind.ofName? (s : String) : Option SymbolSourceKind :=
  [libclang, executable].find? fun k => k.name = s

def RestorePolicy.name : RestorePolicy → String
  | always => "always"
  | onSuccess => "on_success"

def RestorePolicy.ofName? (s : String) : Option RestorePolicy :=
  [always, onSuccess].find? fun p => p.name = s

/-- Where the external collaborators are. -/
structure ToolSettings where
  listSymbolsPath : Value := .text "list-symbols"
  amalgamateCommand : Value := .text "amalgamate"
  libclangPath : Value := .null
  symbolSource : Choice SymbolSourceKind := .known .libclang
  /-- What the list of the section's settings was replaced by. -/
  roster : Option Value := none
deriving Repr

/-- How files are renamed. -/
structure RenameSettings where
  backupSuffix : Value := .text ".bak"
  encoding : Value := .text "utf-8"
  lineEnding : Value := .text "native"
  /-- What the list of the section's settings was replaced by. -/
  roster : Option Value := none
deriving Repr

/-- How bundles are made. -/
structure BundleSettings where
  restorePolicy : Choice RestorePolicy := .known .always
  mergeTimeout : Value := .null
  symbolsSuffix : Value := .text "_symbols.csv"
  /-- What the list of the section's settings was replaced by. -/
  roster : Option Value := none
deriving Repr

structure Settings where
  tools : ToolSettings := {}
  rename : RenameSettings := {}
  bundle : BundleSettings := {}
deriving Repr

/-- The line end that a name stands for; here the native one is a line feed. -/
def lineEnd? (name : String) : Option String :=
  [("native", "\n"), ("lf", "\n"), ("crlf", "\r\n")].lookup name

def RenameSettings.newline (s : RenameSettings) : Except Misuse String :=
  match s.lineEnding with
  | .text name =>
    match lineEnd? name with
    | some eol => .ok eol
    | none => .error (.unknownKey (quoted name))
  | v => if v.canBeKey then .error (.unknownKey v.literal) else .error (.notHashable v.fullKindName)

def Choice.value {α : Type} (name : α → String) : Choice α → Except Misuse Value
  | known a => .ok (.text (name a))
  | other v => .error (.noMember v.fullKindName "value")

/-- What an enumerated setting holds, as a value. -/
def Choice.held {α : Type} (name : α → String) : Choice α → Value
  | known a => .text (name a)
  | other v => v

/-- A copy of a value, for those that can be copied. -/
def copied (v : Value) : Except Failure Value :=
  if v.canBeCopied then .ok v else .error .tooDeep

/-- A section as a mapping, by the list of its settings or by what replaced that. -/
def sectionValue (roster : Option Value) (settings : List (String × Value)) : Except Failure Fields :=
  match roster with
  | none => settings.mapM fun s => do return (.text s.1, ← copied s.2)
  | some (.map []) => .ok []
  | some (.map ((_, v) :: _)) => .error (.misuse (.noMember v.fullKindName "_field_type"))
  | some v => .error (.misuse (.noMember v.fullKindName "values"))

def ToolSettings.toFields (s : ToolSettings) : Except Failure Fields := do
  let fields ← sectionValue s.roster
    [("list_symbols_path", s.listSymbolsPath), ("amalgamate_command", s.amalgamateCommand),
      ("libclang_path", s.libclangPath), ("symbol_source", s.symbolSource.held SymbolSourceKind.name)]
  let source ← (s.symbolSource.value SymbolSourceKind.name).mapError .misuse
  return fields.put (.text "symbol_source") source

def RenameSettings.toFields (s : RenameSettings) : Except Failure Fields :=
  sectionValue s.roster [("backup_suffix", s.backupSuffix), ("encoding", s.encoding), ("line_ending", s.lineEnding)]

def BundleSettings.toFields (s : BundleSettings) : Except Failure Fields := do
  let fields ← sectionValue s.roster
    [("restore_policy", s.restorePolicy.held RestorePolicy.name), ("merge_timeout", s.mergeTimeout),
      ("symbols_suffix", s.symbolsSuffix)]
  let policy ← (s.restorePolicy.value RestorePolicy.name).mapError .misuse
  return fields.put (.text "restore_policy") policy

def Settings.toValue (s : Settings) : Except Failure Value := do
  let tools ← s.tools.toFields
  let rename ← s.rename.toFields
  let bundle ← s.bundle.toFields
  return .map [(.text "tools", .map tools), (.text "rename", .map rename), (.text "bundle", .map bundle)]

/-- A value as it is shown, or a word in its place when it is not given. -/
def shownOr (word : String) (v : Value) : String :=
  if v.isGiven then v.shown else word

def Settings.summary (s : Settings) : Except Misuse String := do
  let source ← s.tools.symbolSource.value SymbolSourceKind.name
  let policy ← s.bundle.restorePolicy.value RestorePolicy.name
  return joined "\n"
    ["bundle-cxx Configuration Summary:",
     "Tools:",
     "  - Symbol source: " ++ source.shown,
     "  - list-symbols executable: " ++ s.tools.listSymbolsPath.shown,
     "  - Amalgamate command: " ++ s.tools.amalgamateCommand.shown,
     "  - libclang library: " ++ shownOr "(auto)" s.tools.libclangPath,
     "",
     "Rename:",
     "  - Backup suffix: " ++ s.rename.backupSuffix.shown,
     "  - Encoding: " ++ s.rename.encoding.shown,
     "  - Line ending: " ++ s.rename.lineEnding.shown,
     "",
     "Bundle:",
     "  - Restore policy: " ++ policy.shown,
     "  - Merge timeout: " ++ shownOr "none" s.bundle.mergeTimeout,
     "  - Symbols file suffix: " ++ s.bundle.symbolsSuffix.shown,
     ""]

end Amalgam.Config
