import Amalgam.Failure
import Amalgam.Config.Settings
/-!
# Validation

Checks the settings that are bound, section by section and in a fixed order; the first fault ends the check. The data
is not known to have the right shape, so every look into it can also end in a misuse.
-/

namespace Amalgam.Config

open Amalgam.Text

def hasInfix (part : List Char) : List Char → Bool
  | [] => part.isEmpty
  | c :: rest => part.isPrefixOf (c :: rest) || hasInfix part rest

/-- Whether a name is bound in a container: a key of a mapping, an element of a list, a part of a text. -/
def contains (container : Value) (name : String) : Except Misuse Bool :=
  match container with
  | .map fields => .ok (Fields.get? fields name).isSome
  | .list items => .ok (items.any fun v => v.sameKey (.text name))
  | .text s => .ok (hasInfix name.toList s.toList)
  | .set items => .ok (items.any fun v => v.sameKey (.text name))
  | .tuple items => .ok (items.any fun v => v.sameKey (.text name))
  | .bytes _ => .error .bytesMember
  | v => .error (.notContainer v.fullKindName)

def lookup (container : Value) (name : String) : Except Misuse Value :=
  match container with
  | .map fields =>
    match Fields.get? fields name with
    | some v => .ok v
    | none => .error (.unknownKey (quoted name))
  | .text _ => .error .textIndex
  | .list _ => .error (.listIndex "list")
  | .tuple _ => .error (.listIndex "tuple")
  | v => .error (.notIndexable v.fullKindName)

def bound? (container : Value) (name : String) : Except Failure (Option Value) := do
  if ← (contains container name).mapError .misuse then
    return some (← (lookup container name).mapError .misuse)
  return none

def require (holds : Bool) (fault : Fault) : Except Failure Unit :=
  if holds then .ok () else .error (.configuration fault)

def isOneOf (names : List String) : Value → Bool
  | .text s => names.contains s
  | _ => false

/-- A number above zero; truth values count as numbers. -/
def isPositive : Value → Bool
  | .bool b => b
  | .int n => 0 < n
  | .float x => !x.nonPositive
  | _ => false

def validateTools (tools : Value) : Except Failure Unit := do
  if let some source ← bound? tools "symbol_source" then
    require (isOneOf symbolSourceNames source) .symbolSource
  if let some command ← bound? tools "amalgamate_command" then
    require command.isGiven .emptyCommand

def validateRename (rename : Value) : Except Failure Unit := do
  if let some suffix ← bound? rename "backup_suffix" then
    require (match suffix with | .text s => !isBlankText s | _ => false) .blankBackupSuffix
  if let some ending ← bound? rename "line_ending" then
    -- The name is looked up in a table, which asks for something that can be a key.
    if !ending.canBeKey then throw (.misuse (.notHashable ending.fullKindName))
    require (isOneOf lineEndingNames ending) .lineEnding

def validateBundle (bundle : Value) : Except Failure Unit := do
  if let some policy ← bound? bundle "restore_policy" then
    require (isOneOf restorePolicyNames policy) .restorePolicy
  if let some timeout ← bound? bundle "merge_timeout" then
    require (match timeout with | .null => true | v => isPositive v) .mergeTimeout
  if let some suffix ← bound? bundle "symbols_suffix" then
    require suffix.isGiven .emptySymbolsSuffix

def validate (data : Value) : Except Failure Unit := do
  if let some tools ← bound? data "tools" then validateTools tools
  if let some rename ← bound? data "rename" then validateRename rename
  if let some bundle ← bound? data "bundle" then validateBundle bundle

end Amalgam.Config
