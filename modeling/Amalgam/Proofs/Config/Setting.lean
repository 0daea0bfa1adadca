import Amalgam.Config.Environment
import Amalgam.Config.Load
import Amalgam.Proofs.Value.Bindings
/-!
# The settings one by one

A configuration has ten settings. Each of them stands in a section under a key of its own, nine can be given by an
environment variable of their own, and each has a default. So a configuration is a choice of one value for each setting,
and where a value comes from can be said for all of them at once.
-/

namespace Amalgam.Config

open Amalgam.Number

/-- The settings of a configuration. -/
inductive Setting
  | listSymbolsPath
  | amalgamateCommand
  | libclangPath
  | symbolSource
  | backupSuffix
  | encoding
  | lineEnding
  | restorePolicy
  | mergeTimeout
  | symbolsSuffix
deriving DecidableEq, Repr

namespace Setting

def sectionName : Setting → String
  | listSymbolsPath | amalgamateCommand | libclangPath | symbolSource => "tools"
  | backupSuffix | encoding | lineEnding => "rename"
  | restorePolicy | mergeTimeout | symbolsSuffix => "bundle"

def key : Setting → String
  | listSymbolsPath => "list_symbols_path"
  | amalgamateCommand => "amalgamate_command"
  | libclangPath => "libclang_path"
  | symbolSource => "symbol_source"
  | backupSuffix => "backup_suffix"
  | encoding => "encoding"
  | lineEnding => "line_ending"
  | restorePolicy => "restore_policy"
  | mergeTimeout => "merge_timeout"
  | symbolsSuffix => "symbols_suffix"

/-- The environment variable of a setting. -/
def variableName? : Setting → Option String
  | listSymbolsPath => some "BUNDLECXX_LIST_SYMBOLS_PATH"
  | amalgamateCommand => some "BUNDLECXX_AMALGAMATE_COMMAND"
  | libclangPath => some "BUNDLECXX_LIBCLANG_PATH"
  | symbolSource => some "BUNDLECXX_SYMBOL_SOURCE"
  | backupSuffix => some "BUNDLECXX_BACKUP_SUFFIX"
  | encoding => some "BUNDLECXX_ENCODING"
  | lineEnding => some "BUNDLECXX_LINE_ENDING"
  | restorePolicy => some "BUNDLECXX_RESTORE_POLICY"
  | mergeTimeout => some "BUNDLECXX_MERGE_TIMEOUT"
  | symbolsSuffix => none

/-- The value that a text stands for in the variable of a setting, if the setting can take it. -/
def ofVariable? (s : Setting) (text : String) : Option Value :=
  match s with
  | symbolSource => enumerated symbolSourceNames text
  | lineEnding => enumerated lineEndingNames text
  | restorePolicy => enumerated restorePolicyNames text
  | mergeTimeout => (Binary64.ofText? text).map Value.float
  | _ => some (.text text)

/-- What a setting is when nothing is said about it. -/
def default : Setting → Value
  | listSymbolsPath => .text "list-symbols"
  | amalgamateCommand => .text "amalgamate"
  | libclangPath => .null
  | symbolSource => .text "libclang"
  | backupSuffix => .text ".bak"
  | encoding => .text "utf-8"
  | lineEnding => .text "native"
  | restorePolicy => .text "always"
  | mergeTimeout => .null
  | symbolsSuffix => .text "_symbols.csv"

/-- The settings of a section, in the order in which they are written. -/
def ofSection (name : String) : List Setting :=
  [listSymbolsPath, amalgamateCommand, libclangPath, symbolSource, backupSuffix, encoding, lineEnding, restorePolicy,
    mergeTimeout, symbolsSuffix].filter fun s => s.sectionName = name

theorem key_injective {s t : Setting} (h : s.key = t.key) : s = t := by
  cases s <;> cases t <;> first | rfl | exact absurd h (by decide)

theorem mem_ofSection {s : Setting} {name : String} : s ∈ ofSection name ↔ s.sectionName = name := by
  simp only [ofSection, List.mem_filter, decide_eq_true_eq, and_iff_right_iff_imp]
  intro _
  cases s <;> decide

end Setting

/-! ### Configurations by their values -/

/-- An enumerated setting with a value: a member of its enumeration by name, or what else it is. -/
def Choice.ofValue {α : Type} (ofName? : String → Option α) : Value → Choice α
  | .text s => ((ofName? s).map Choice.known).getD (.other (.text s))
  | v => .other v

def ToolSettings.ofValues (value : Setting → Value) : ToolSettings where
  listSymbolsPath := value .listSymbolsPath
  amalgamateCommand := value .amalgamateCommand
  libclangPath := value .libclangPath
  symbolSource := Choice.ofValue SymbolSourceKind.ofName? (value .symbolSource)

def RenameSettings.ofValues (value : Setting → Value) : RenameSettings where
  backupSuffix := value .backupSuffix
  encoding := value .encoding
  lineEnding := value .lineEnding

def BundleSettings.ofValues (value : Setting → Value) : BundleSettings where
  restorePolicy := Choice.ofValue RestorePolicy.ofName? (value .restorePolicy)
  mergeTimeout := value .mergeTimeout
  symbolsSuffix := value .symbolsSuffix

/-- The configuration in which every setting has a given value. -/
def Settings.ofValues (value : Setting → Value) : Settings where
  tools := .ofValues value
  rename := .ofValues value
  bundle := .ofValues value

theorem ToolSettings.ofValues_default : ofValues Setting.default = {} := rfl

theorem RenameSettings.ofValues_default : ofValues Setting.default = {} := rfl

theorem BundleSettings.ofValues_default : ofValues Setting.default = {} := rfl

/-- What a configuration holds for a setting, as a value. -/
def Settings.value (c : Settings) : Setting → Value
  | .listSymbolsPath => c.tools.listSymbolsPath
  | .amalgamateCommand => c.tools.amalgamateCommand
  | .libclangPath => c.tools.libclangPath
  | .symbolSource => c.tools.symbolSource.held SymbolSourceKind.name
  | .backupSuffix => c.rename.backupSuffix
  | .encoding => c.rename.encoding
  | .lineEnding => c.rename.lineEnding
  | .restorePolicy => c.bundle.restorePolicy.held RestorePolicy.name
  | .mergeTimeout => c.bundle.mergeTimeout
  | .symbolsSuffix => c.bundle.symbolsSuffix

theorem SymbolSourceKind.name_eq {name : String} {kind : SymbolSourceKind} (h : ofName? name = some kind) :
    kind.name = name := by
  simpa using List.find?_some h

theorem RestorePolicy.name_eq {name : String} {policy : RestorePolicy} (h : ofName? name = some policy) :
    policy.name = name := by
  simpa using List.find?_some h

theorem Choice.held_ofValue {α : Type} {ofName? : String → Option α} {nameOf : α → String}
    (hname : ∀ name a, ofName? name = some a → nameOf a = name) (v : Value) :
    (Choice.ofValue ofName? v).held nameOf = v := by
  cases v with
  | text name =>
    rw [ofValue]
    cases hmember : ofName? name with
    | none => rfl
    | some a => exact congrArg Value.text (hname name a hmember)
  | _ => rfl

theorem Settings.value_ofValues (value : Setting → Value) (s : Setting) : (ofValues value).value s = value s := by
  cases s
  case symbolSource =>
    exact Choice.held_ofValue (fun name kind h => SymbolSourceKind.name_eq h) _
  case restorePolicy =>
    exact Choice.held_ofValue (fun name policy h => RestorePolicy.name_eq h) _
  all_goals rfl

end Amalgam.Config
