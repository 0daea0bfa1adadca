import Amalgam.FileSystem
import Amalgam.Json.Writer
/-!
# Configuration faults

What can be wrong with a configuration: the file, its format, or a setting that validation refuses. Apart from these
there are misuses: a value of a kind that its place has no use for, found only where it is used.
-/

namespace Amalgam.Config

open Amalgam.Text

/-- Why a configuration is refused. -/
inductive Fault
  | fileNotFound (path : String)
  | malformed (detail : String)
  | unreadable (fault : FileFault)
  | notMapping
  | unsaved (fault : FileFault)
  | symbolSource
  | emptyCommand
  | blankBackupSuffix
  | lineEnding
  | restorePolicy
  | mergeTimeout
  | emptySymbolsSuffix
deriving DecidableEq, Repr

def symbolSourceNames : List String := ["libclang", "executable"]

def lineEndingNames : List String := ["native", "lf", "crlf"]

def restorePolicyNames : List String := ["always", "on_success"]

def Fault.message : Fault → String
  | fileNotFound path => "Configuration file not found: " ++ path
  | malformed detail => "Invalid configuration file format: " ++ detail
  | unreadable fault => "Error reading configuration file: " ++ fault.message
  | notMapping => "Configuration file must contain a mapping"
  | unsaved fault => "Error saving configuration file: " ++ fault.message
  | symbolSource => "symbol_source must be one of: " ++ quotedList symbolSourceNames
  | emptyCommand => "amalgamate_command must not be empty"
  | blankBackupSuffix => "backup_suffix must be a non-empty string"
  | lineEnding => "line_ending must be one of: " ++ quotedList lineEndingNames
  | restorePolicy => "restore_policy must be one of: " ++ quotedList restorePolicyNames
  | mergeTimeout => "merge_timeout must be a positive number"
  | emptySymbolsSuffix => "symbols_suffix must not be empty"

end Amalgam.Config

namespace Amalgam

open Amalgam.Text

/-- A value where its kind cannot be used. -/
inductive Misuse
  | notContainer (kind : String)
  | textIndex
  | listIndex (kind : String)
  | notIndexable (kind : String)
  | bytesMember
  | notHashable (kind : String)
  | notPath (kind : String)
  | notPathText (kind : String)
  | notText (kind : String)
  | notJoinable (kind : String)
  | notEncodingName (kind : String)
  | notSettingName (kind : String)
  | notClass (kind : String)
  | notContents (kind : String)
  | noMember (kind member : String)
  | fixedMember (kind member : String)
  | unknownKey (literal : String)
  | unwritable (what : Json.Unwritable)
deriving DecidableEq, Repr

def Misuse.message : Misuse → String
  | notContainer kind => "argument of type '" ++ kind ++ "' is not iterable"
  | textIndex => "string indices must be integers, not 'str'"
  | listIndex kind => kind ++ " indices must be integers or slices, not str"
  | notIndexable kind => "'" ++ kind ++ "' object is not subscriptable"
  | bytesMember => "a bytes-like object is required, not 'str'"
  | notHashable kind => "unhashable type: '" ++ kind ++ "'"
  | notPath kind => "expected str, bytes or os.PathLike object, not " ++ kind
  | notPathText kind =>
    "argument should be a str object or an os.PathLike object returning str, not <class '" ++ kind ++ "'>"
  | notText kind => "expected string or bytes-like object, got '" ++ kind ++ "'"
  | notJoinable kind => "can only concatenate str (not \"" ++ kind ++ "\") to str"
  | notEncodingName kind => "open() argument 'encoding' must be str or None, not " ++ kind
  | notSettingName kind => "attribute name must be string, not '" ++ kind ++ "'"
  | notClass kind => "__class__ must be set to a class, not '" ++ kind ++ "' object"
  | notContents kind => "__dict__ must be set to a dictionary, not a '" ++ kind ++ "'"
  | fixedMember kind member => "attribute '" ++ member ++ "' of '" ++ kind ++ "' objects is not writable"
  | noMember kind member => "'" ++ kind ++ "' object has no attribute '" ++ member ++ "'"
  | unknownKey literal => literal
  | unwritable what => what.message

end Amalgam
