import Amalgam.Path
/-!
# File system

Directories and files, each at a route from the root, and a working directory. A written path is followed name by
name: every name but the last must lead to a directory. Following a path and changing what it leads to are separate, so
each effect is one function that says what happens at one route and leaves every other route alone.

This is a plainer place than a disk. There are no links, so whatever exists is at one route; no permissions but the mark
of an executable, so nobody is refused a file; and no quota and no last free block, so what can be written is written. An
effect happens as a whole or not at all: a copy that fails leaves nothing of itself behind. Nobody else is at work on
the files, except the programs that a run starts, and they say what they leave.
-/

namespace Amalgam

open Amalgam.Text

/-- The names from the root to a place. -/
abbrev Route := List String

/-- What can stand at a route. -/
inductive Node
  | file (bytes : List UInt8) (executable : Bool)
  | directory
deriving DecidableEq, Repr

structure FileSystem where
  nodes : List (Route × Node)
  /-- The working directory. -/
  here : Route
deriving Repr

/-- Why a file could not be reached or changed. -/
inductive FileFault
  | missing (path : String)
  | notDirectory (path : String)
  | isDirectory (path : String)
  | nameTooLong (path : String)
  | noSuchDirectory (path : String)
  | sameFile (source target : String)
  | embeddedNul
deriving DecidableEq, Repr

namespace FileFault

/-- Whether the fault comes from the file system and not from the text of the path. -/
def isSystem : FileFault → Bool
  | embeddedNul => false
  | _ => true

def message : FileFault → String
  | missing path => "[Errno 2] No such file or directory: " ++ quoted path
  | notDirectory path => "[Errno 20] Not a directory: " ++ quoted path
  | isDirectory path => "[Errno 21] Is a directory: " ++ quoted path
  | nameTooLong path => "[Errno 36] File name too long: " ++ quoted path
  | noSuchDirectory path => "Directory does not exist: " ++ path
  | sameFile source target => source ++ " and " ++ target ++ " are the same file"
  | embeddedNul => "embedded null byte"

end FileFault

namespace FileSystem

/-! ### Nodes -/

/-- What stands at a route; the root is always a directory. -/
def node? (fs : FileSystem) (route : Route) : Option Node :=
  if route = [] then some .directory else (fs.nodes.find? fun n => n.1 = route).map Prod.snd

def put (fs : FileSystem) (route : Route) (node : Node) : FileSystem :=
  { fs with nodes := (route, node) :: fs.nodes.filter fun n => n.1 ≠ route }

def erase (fs : FileSystem) (route : Route) : FileSystem :=
  { fs with nodes := fs.nodes.filter fun n => n.1 ≠ route }

theorem node?_put_self (fs : FileSystem) {route : Route} (node : Node) (h : route ≠ []) :
    (fs.put route node).node? route = some node := by
  simp [node?, put, h]

theorem find?_filter_ne (nodes : List (Route × Node)) {route other : Route} (h : other ≠ route) :
    ((nodes.filter fun n => n.1 ≠ route).find? fun n => n.1 = other) = nodes.find? fun n => n.1 = other := by
  induction nodes with
  | nil => rfl
  | cons n rest ih =>
    by_cases hr : n.1 = route
    · have hne : ¬ n.1 = other := fun ho => h (ho.symm.trans hr)
      rw [List.filter_cons_of_neg (by simp [hr]), List.find?_cons_of_neg (by simp [hne])]
      exact ih
    · rw [List.filter_cons_of_pos (by simp [hr])]
      by_cases ho : n.1 = other
      · rw [List.find?_cons_of_pos (by simp [ho]), List.find?_cons_of_pos (by simp [ho])]
      · rw [List.find?_cons_of_neg (by simp [ho]), List.find?_cons_of_neg (by simp [ho])]
        exact ih

theorem node?_put_other (fs : FileSystem) {route other : Route} (node : Node) (h : other ≠ route) :
    (fs.put route node).node? other = fs.node? other := by
  have hfind := find?_filter_ne fs.nodes h
  have hne : ¬ route = other := fun h' => h h'.symm
  by_cases ho : other = []
  · simp [node?, ho]
  · simp only [node?, put, ho, if_false]
    rw [List.find?_cons_of_neg (by simp [hne]), hfind]

theorem node?_erase_self (fs : FileSystem) {route : Route} (h : route ≠ []) :
    (fs.erase route).node? route = none := by
  simp [node?, erase, h]

theorem node?_erase_other (fs : FileSystem) {route other : Route} (h : other ≠ route) :
    (fs.erase route).node? other = fs.node? other := by
  have hfind := find?_filter_ne fs.nodes h
  by_cases ho : other = []
  · simp [node?, ho]
  · simp only [node?, erase, ho, if_false]
    rw [hfind]

/-! ### Following a path -/

/-- Follows names from a route; only the last may lead to nothing. -/
def follow (fs : FileSystem) (path : String) : Route → List String → Except FileFault Route
  | route, [] => .ok route
  | route, name :: rest =>
    match fs.node? route with
    | none => .error (.missing path)
    | some (.file ..) => .error (.notDirectory path)
    | some .directory =>
      if 255 < name.utf8ByteSize then .error (.nameTooLong path)
      else if name = "." then follow fs path route rest
      -- The root is above itself: there is no name to drop.
      else if name = ".." then follow fs path route.dropLast rest
      else follow fs path (route ++ [name]) rest

def locate (fs : FileSystem) (path : String) : Except FileFault Route :=
  let cs := path.toList
  if cs.contains '\x00' then .error .embeddedNul
  else if cs.isEmpty then .error (.missing path)
  else if 4096 ≤ path.utf8ByteSize then .error (.nameTooLong path)
  else
    let names := ((pieces '/' cs).map String.ofList).filter (· != "")
    follow fs path (if cs.head? = some '/' then [] else fs.here) names

def namesDirectory (path : String) : Bool :=
  path.toList.getLast? = some '/'

def stat (fs : FileSystem) (path : String) : Except FileFault Node := do
  let route ← fs.locate path
  match fs.node? route with
  | none => throw (.missing path)
  | some (.file bytes executable) =>
    if namesDirectory path then throw (.notDirectory path)
    return .file bytes executable
  | some .directory => return .directory

/-! ### Questions -/

/-- Whether a path leads anywhere; any fault means no. -/
def leadsSomewhere (fs : FileSystem) (path : String) : Bool :=
  match fs.stat path with
  | .ok _ => true
  | .error _ => false

def isDirectory (fs : FileSystem) (path : String) : Bool :=
  match fs.stat path with
  | .ok .directory => true
  | _ => false

/-- What a path leads to, if anything: nothing there is an answer, too long a name is a fault. -/
def probe (fs : FileSystem) (path : String) : Except FileFault (Option Node) :=
  match fs.stat path with
  | .ok node => .ok (some node)
  | .error (.nameTooLong p) => .error (.nameTooLong p)
  | .error _ => .ok none

/-- Whether a path leads to an executable file; any fault means no. -/
def isExecutable (fs : FileSystem) (path : String) : Bool :=
  match fs.stat path with
  | .ok (.file _ executable) => executable
  | _ => false

/-! ### Effects -/

def read (fs : FileSystem) (path : String) : Except FileFault (List UInt8) := do
  match ← fs.stat path with
  | .file bytes _ => return bytes
  | .directory => throw (.isDirectory path)

/-- The route at which a path can be written. -/
def writable (fs : FileSystem) (path : String) : Except FileFault Route := do
  let route ← fs.locate path
  if namesDirectory path then throw (.isDirectory path)
  match fs.node? route with
  | some .directory => throw (.isDirectory path)
  | _ => return route

def putBytes (fs : FileSystem) (route : Route) (bytes : List UInt8) : FileSystem :=
  match fs.node? route with
  | some (.file _ executable) => fs.put route (.file bytes executable)
  | _ => fs.put route (.file bytes false)

def remove (fs : FileSystem) (path : String) : Except FileFault FileSystem := do
  let route ← fs.locate path
  match ← fs.stat path with
  | .directory => throw (.isDirectory path)
  | .file .. => return fs.erase route

/-- Whether two paths lead to one existing node; only the text of a path can make the question fail. -/
def sameNode (fs : FileSystem) (a b : String) : Except FileFault Bool :=
  match fs.stat a, fs.stat b with
  | .error .embeddedNul, _ => .error .embeddedNul
  | .ok _, .error .embeddedNul => .error .embeddedNul
  | .ok _, .ok _ =>
    match fs.locate a, fs.locate b with
    | .ok r, .ok s => .ok (r = s)
    | _, _ => .ok false
  | _, _ => .ok false

/-- A written path and how messages show it. -/
structure Named where
  path : String
  shown : String

def Named.ofPath (p : Path) : Named := ⟨p.text, p.shown⟩

/-- Copies a file with its mode onto a place that is not the file itself. -/
def copyOnto (fs : FileSystem) (source target : Named) : Except FileFault FileSystem := do
  if ← fs.sameNode source.path target.path then throw (.sameFile source.shown target.shown)
  match ← fs.stat source.path with
  | .directory => throw (.isDirectory source.path)
  | .file bytes executable =>
    match fs.writable target.path with
    | .ok route => return fs.put route (.file bytes executable)
    -- Written with a slash at its end, a target that is not there is told as a missing directory.
    | .error (.isDirectory p) =>
      throw (if fs.leadsSomewhere target.path then .isDirectory p else .noSuchDirectory target.path)
    | .error fault => throw fault

/-- Where a copy of `source` to `target` goes: into a directory under the source's own name. -/
def copyTarget (fs : FileSystem) (source target : Path) : Named :=
  if fs.isDirectory target.text then
    let inside := target.text ++ "/" ++ String.ofList ((pieces '/' source.text.toList).getLast?.getD [])
    ⟨inside, quoted inside⟩
  else .ofPath target

/-- Copies a file with its mode to a path or into a directory. -/
def copy (fs : FileSystem) (source target : Path) : Except FileFault FileSystem :=
  fs.copyOnto (.ofPath source) (fs.copyTarget source target)

def makeDirectories (fs : FileSystem) (route : Route) : FileSystem :=
  (List.range route.length).foldl (fun fs i =>
    let r := route.take (i + 1)
    if (fs.node? r).isNone then fs.put r .directory else fs) fs

end FileSystem

end Amalgam
