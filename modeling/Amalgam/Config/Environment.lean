import Amalgam.World
import Amalgam.Config.Settings
import Amalgam.Text.LetterCase
/-!
# Settings from the environment

Nine settings have an environment variable of their own. An unset or empty variable says nothing; one that its setting
cannot take is reported and otherwise ignored.
-/

namespace Amalgam.Config

open Amalgam.Text Amalgam.Number

def environmentLogger : String := "bundlecxx.config"

/-- The binding of a variable whose text is taken as it is. -/
def plainSetting (variableName key : String) : Action Fields := do
  match ← Action.environmentValue variableName with
  | some s => return [(.text key, .text s)]
  | none => return []

def readSetting (variableName key : String) (read? : String → Option Value) : Action Fields := do
  match ← Action.environmentValue variableName with
  | none => return []
  | some s =>
    match read? s with
    | some v => return [(.text key, v)]
    | none =>
      Action.log .warning environmentLogger ("Invalid " ++ variableName ++ " value, using default")
      return []

/-- A name in any case. -/
def enumerated (names : List String) (s : String) : Option Value :=
  if names.contains (lowercased s) then some (.text (lowercased s)) else none

/-- A section that has bindings. -/
def sectionOf (name : String) (fields : Fields) : Fields :=
  if fields.isEmpty then [] else [(.text name, .map fields)]

def fromEnvironment : Action Fields := do
  let lister ← plainSetting "BUNDLECXX_LIST_SYMBOLS_PATH" "list_symbols_path"
  let merger ← plainSetting "BUNDLECXX_AMALGAMATE_COMMAND" "amalgamate_command"
  let library ← plainSetting "BUNDLECXX_LIBCLANG_PATH" "libclang_path"
  let source ← readSetting "BUNDLECXX_SYMBOL_SOURCE" "symbol_source" (enumerated symbolSourceNames)
  let suffix ← plainSetting "BUNDLECXX_BACKUP_SUFFIX" "backup_suffix"
  let encoding ← plainSetting "BUNDLECXX_ENCODING" "encoding"
  let ending ← readSetting "BUNDLECXX_LINE_ENDING" "line_ending" (enumerated lineEndingNames)
  let policy ← readSetting "BUNDLECXX_RESTORE_POLICY" "restore_policy" (enumerated restorePolicyNames)
  let timeout ← readSetting "BUNDLECXX_MERGE_TIMEOUT" "merge_timeout" fun s => (Binary64.ofText? s).map Value.float
  return sectionOf "tools" (lister ++ merger ++ library ++ source) ++
    sectionOf "rename" (suffix ++ encoding ++ ending) ++ sectionOf "bundle" (policy ++ timeout)

end Amalgam.Config
