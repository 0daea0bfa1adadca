import Amalgam.Config.Fault
import Amalgam.Console.Markup
import Amalgam.Symbols.Table
import Amalgam.Text.Encoding
/-!
# Failures

Every cause for which an operation can end without a result, with one message each. Handlers do not look at messages:
they go by the family a cause belongs to. A collaborator may raise a cause of its own, given by family and message.
-/

namespace Amalgam

open Amalgam.Text

/-- Families of causes. -/
inductive Family
  | source
  | toolNotFound
  | listing
  | table
  | backup
  | merge
  | configuration
  | value
  | overflow
  | lookup
  | decoding
  | encoding
  | unicode
  | fileNotFound
  | notDirectory
  | isDirectory
  | sameFile
  | system
  | runtime
  | interrupt
  | markup
  | type
  | attribute
  | key
  | index
  | depth
  | timeout
deriving DecidableEq, Repr

/-- Causes that concern this program's own work and not its surroundings. -/
def Family.isDomain : Family → Bool
  | source | toolNotFound | listing | table | backup | merge => true
  | _ => false

/-- Causes that the operating system reports. -/
def Family.isSystem : Family → Bool
  | fileNotFound | notDirectory | isDirectory | sameFile | system => true
  | _ => false

/-- Why an operation ended without a result. -/
inductive Failure
  | sourceRequired
  | sourceNotFound (path : String)
  | filesNotFound (table : String) (names : List String)
  | toolNotFound (name : String)
  | parserUnavailable (reason : String)
  | unitUnreadable (path reason : String)
  | listerFailed (tool reason : String)
  | table (fault : Symbols.TableFault)
  | tableUnreadable (path : String) (fault : FileFault)
  | notBackedUp (path : String) (fault : FileFault)
  | notRestored (paths : List String) (suffix : String)
  | mergeTimedOut (tool timeout : String)
  | mergeNotStarted (tool reason : String)
  | mergeExited (tool : String) (status : Int) (stderr : String)
  | configuration (fault : Config.Fault)
  | name (fault : NameFault)
  | number (fault : Number.IntegerFault)
  | notMember (literal enumeration : String)
  | nulInEncoding
  | scalar (reason : String)
  | emptyNumeral
  | tooLarge (what target : String)
  | unknownEncoding (name : String)
  | notTextEncoding (name : String)
  | undefinedEncoding
  | unreadable (fault : ReadFault)
  | unencodable (fault : EncodeFault)
  | file (fault : FileFault)
  | noHome
  | timedOut (argv : List String) (timeout : String)
  | misuse (what : Misuse)
  | tooDeep
  | markup (fault : Console.MarkupFault)
  | raised (family : Family) (message : String)
deriving DecidableEq, Repr

namespace Failure

def message : Failure → String
  | sourceRequired => "Source file path is required."
  | sourceNotFound path => "Source file not found: " ++ path
  | filesNotFound csv names => "Files referenced by " ++ csv ++ " not found: " ++ joined ", " names
  | toolNotFound tool => "Required tool, \"" ++ tool ++ "\", is not present."
  | parserUnavailable reason => "Unable to load libclang: " ++ reason
  | unitUnreadable path reason => "Unable to parse translation unit " ++ path ++ ": " ++ reason
  | listerFailed tool reason => tool ++ " failed: " ++ reason
  | table fault => fault.message
  | tableUnreadable path fault => "Cannot read symbols table " ++ path ++ ": " ++ fault.message
  | notBackedUp path fault => "Failed to back up " ++ path ++ ": " ++ fault.message
  | notRestored failed suffix =>
    "Failed to restore " ++ numeral failed.length ++ " file(s); backups kept with suffix " ++ suffix
  | mergeTimedOut tool timeout => tool ++ " timed out after " ++ timeout ++ " seconds"
  | mergeNotStarted tool reason => "Could not run " ++ tool ++ ": " ++ reason
  | mergeExited tool status stderr =>
    tool ++ " exited with status " ++ numeral status ++ (if stderr = "" then "" else ": " ++ stderr)
  | configuration fault => fault.message
  | name fault => fault.message
  | number fault => fault.message
  | notMember literal enumeration => literal ++ " is not a valid " ++ enumeration
  | nulInEncoding => "embedded null character"
  | scalar reason => reason
  | emptyNumeral => "string index out of range"
  | tooLarge what target => what ++ " too large to convert to " ++ target
  | unknownEncoding given => "unknown encoding: " ++ given
  | notTextEncoding given => "'" ++ given ++ "' is not a text encoding; use codecs.open() to handle arbitrary codecs"
  | undefinedEncoding => "undefined encoding"
  | unreadable fault => fault.message
  | unencodable fault => fault.message
  | file fault => fault.message
  | noHome => "Could not determine home directory."
  | timedOut argv timeout => "Command '" ++ quotedList argv ++ "' timed out after " ++ timeout ++ " seconds"
  | misuse what => what.message
  | tooDeep => "maximum recursion depth exceeded"
  | markup fault => fault.message
  | raised _ text => text

/-- The family of a fault of the file system. -/
def fileFamily : FileFault → Family
  | .missing _ => .fileNotFound
  | .notDirectory _ => .notDirectory
  | .isDirectory _ => .isDirectory
  | .nameTooLong _ => .system
  | .noSuchDirectory _ => .fileNotFound
  | .sameFile _ _ => .sameFile
  | .embeddedNul => .value

def misuseFamily : Misuse → Family
  | .noMember _ _ => .attribute
  | .fixedMember _ _ => .attribute
  | .unknownKey _ => .key
  | _ => .type

def family : Failure → Family
  | sourceRequired | sourceNotFound _ | filesNotFound _ _ => .source
  | toolNotFound _ => .toolNotFound
  | parserUnavailable _ | unitUnreadable _ _ | listerFailed _ _ => .listing
  | table _ | tableUnreadable _ _ => .table
  | notBackedUp _ _ | notRestored _ _ => .backup
  | mergeTimedOut _ _ | mergeNotStarted _ _ | mergeExited _ _ _ => .merge
  | configuration _ => .configuration
  | name _ | number _ | notMember _ _ | nulInEncoding | scalar _ => .value
  | emptyNumeral => .index
  | tooLarge _ _ => .overflow
  | unknownEncoding _ | notTextEncoding _ => .lookup
  | unreadable (.undecodable _) => .decoding
  | unreadable (.noByteOrderMark _) | undefinedEncoding => .unicode
  | unencodable _ => .encoding
  | file fault => fileFamily fault
  | noHome => .runtime
  | timedOut _ _ => .timeout
  | misuse what => misuseFamily what
  | tooDeep => .depth
  | markup (.colour _) => .value
  | markup _ => .markup
  | raised f _ => f

/-- Causes that a workflow reports in its result instead of passing them on. -/
def isReported (f : Failure) : Bool :=
  f.family.isDomain || f.family.isSystem

end Failure

end Amalgam
