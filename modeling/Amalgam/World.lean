import Amalgam.Failure
import Amalgam.Value
/-!
# The world of a run

Everything an operation can read or change: files, environment variables, programs and the parser library of the host,
and the journal of what was logged, printed and asked of collaborators. An action is a function of the world that
changes it and ends with a result or a failure; a failure keeps the changes made before it.
-/

namespace Amalgam

open Amalgam.Text

/-! ### Journal -/

/-- How grave a log record is. -/
inductive Level
  | debug
  | info
  | warning
  | error
deriving DecidableEq, Repr

def Level.name : Level → String
  | debug => "DEBUG"
  | info => "INFO"
  | warning => "WARNING"
  | error => "ERROR"

/-- A log record. -/
structure Record where
  level : Level
  logger : String
  message : String
deriving DecidableEq, Repr

/-- A request to something outside the program. -/
inductive Request
  | run (argv : List String) (timeout : Value)
  | merge (source output : String) (args : List String)
  | list (source : String) (args : List String)
  | createIndex
  | setLibrary (path : Value)
  | parse (path : String) (args : List String)
deriving Repr

/-- What a run leaves in its journal. -/
inductive Event
  | logged (record : Record)
  | requested (request : Request)
  | printed (text : String)
  | complained (text : String)
deriving Repr

/-! ### Host -/

/-- How a program ended. -/
inductive Outcome
  | finished (status : Int) (stdout stderr : String)
  | timedOut
  | failed (failure : Failure)
deriving Repr

/-- A declaration that the parser library found. -/
structure Cursor where
  file : Option String
  line : Int
  inSystemHeader : Bool
  kind : String
  displayName : String
deriving DecidableEq, Repr

/-- What the parser library does. -/
structure ParserLibrary where
  loaded : Bool
  loadError : Option String
  parseError : Option String
  cursors : List Cursor
deriving Repr

/-- The programs of the host and its parser library. A program sees how many ran before it, its arguments, its time
limit and the files, and may change the files. -/
structure Host where
  run : (earlier : Nat) → (argv : List String) → (timeout : Value) → FileSystem → FileSystem × Outcome
  library : ParserLibrary

/-- The state that operations act on. -/
structure World where
  files : FileSystem
  environment : List (String × String)
  /-- The home directory as it was when the program started. -/
  home : String
  host : Host
  journal : List Event
  /-- How many programs have run. -/
  runs : Nat
  /-- Whether the current symbol source has opened the parser library. -/
  indexOpen : Bool

abbrev Action := ExceptT Failure (StateM World)

namespace Action

def runIn {α : Type} (a : Action α) (w : World) : Except Failure α × World :=
  StateT.run (ExceptT.run a) w

/-- The result or failure of an action, as a result. -/
def attempt {α : Type} (a : Action α) : Action (Except Failure α) :=
  ExceptT.mk (Except.ok <$> ExceptT.run a)

/-- A pure computation that may fail. -/
def ofExcept {ε α : Type} (failure : ε → Failure) : Except ε α → Action α
  | .ok a => pure a
  | .error e => throw (failure e)

def record (event : Event) : Action Unit :=
  modify fun w => { w with journal := w.journal ++ [event] }

def log (level : Level) (logger message : String) : Action Unit :=
  record (.logged ⟨level, logger, message⟩)

/-! ### Files -/

def files : Action FileSystem :=
  return (← get).files

def setFiles (fs : FileSystem) : Action Unit :=
  modify fun w => { w with files := fs }

/-- What a path leads to, if anything. -/
def probe (path : Path) : Action (Option Node) := do
  ofExcept .file ((← files).probe path.text)

def isFile (path : Path) : Action Bool := do
  match ← probe path with
  | some (.file ..) => return true
  | _ => return false

def leadsSomewhere (path : Path) : Action Bool :=
  return (← probe path).isSome

/-- The environment variable of a name; unset and empty are the same. -/
def environmentValue (name : String) : Action (Option String) :=
  return ((← get).environment.lookup name).filter (· != "")

/-- The encoding that a setting names, checked in two steps: its kind at once, its name when it is looked up. -/
def encodingName (setting : Value) : Action (Option String) :=
  match setting with
  | .null => return none
  | .text s => if s.toList.contains '\x00' then throw .nulInEncoding else return some s
  | v => throw (.misuse (.notEncodingName v.fullKindName))

def codec (encodingName : Option String) : Action Codec :=
  match encodingName with
  | none => return .utf8
  | some name =>
    match Codec.ofName? name with
    | some c => return c
    | none =>
      throw (if isTransform name then .notTextEncoding name else if isUndefined name then .undefinedEncoding
        else .unknownEncoding name)

def readText (path : String) (encoding : Value) (keepRaw : Bool) : Action (List Glyph) := do
  let name ← encodingName encoding
  let bytes ← ofExcept .file ((← files).read path)
  let c ← codec name
  ofExcept .unreadable (c.decode keepRaw bytes)

/-- Writes a text file. The file is emptied before the encoding is looked up, and a text that does not encode leaves it
empty. -/
def writeText (path : String) (encoding : Value) (text : List Glyph) : Action Unit := do
  let name ← encodingName encoding
  let fs ← files
  let route ← ofExcept .file (fs.writable path)
  setFiles (fs.putBytes route [])
  let c ← codec name
  let bytes ← ofExcept .unencodable (c.encode text)
  setFiles (fs.putBytes route bytes)

end Action

end Amalgam
