import Amalgam.World
/-!
# External tools

A tool is given as a path or as a command name. A path to an executable file is taken as it is; otherwise a name
without a slash is looked for in the directories of the search path, in order.
-/

namespace Amalgam.Tool

open Amalgam.Text

def logger : String := "bundlecxx.process"

/-- The home directory that a name with a tilde stands for, if there is one. -/
def homeOf (environment : List (String × String)) (name : String) : Option String :=
  let home (text : String) : String :=
    let cs := (text.toList.reverse.dropWhile (· = '/')).reverse
    if cs.isEmpty then "/" else String.ofList cs
  if name = "~" then some (home ((environment.lookup "HOME").getD "/root"))
  else if name = "~root" then some "/root"
  else none

/-- A path whose first name may be a tilde. -/
def expandHome (environment : List (String × String)) (path : Path) : Except Failure Path :=
  match path.root, path.parts with
  | "", first :: rest =>
    if first.toList.head? = some '~' then
      match homeOf environment first with
      | some home =>
        if home.toList.head? = some '~' then .error .noHome
        else
          let base := Path.ofText home
          .ok { base with parts := base.parts ++ rest }
      | none => .error .noHome
    else .ok path
  | _, _ => .ok path

/-- A name below a directory as it is written in the search path. -/
def inDirectory (directory name : String) : String :=
  if directory = "" then name
  else if directory.toList.getLast? = some '/' then directory ++ name
  else directory ++ "/" ++ name

/-- The directories that commands are looked for in, when the environment does not say. -/
def defaultSearchPath : String := "/bin:/usr/bin"

def search (fs : FileSystem) (environment : List (String × String)) (name : String) : Option String :=
  if name.toList.contains '/' then
    if fs.isExecutable name then some name else none
  else
    let searchPath := (environment.lookup "PATH").getD defaultSearchPath
    if searchPath = "" then none
    else
      (((pieces ':' searchPath.toList).map String.ofList).map fun d => inDirectory d name).find? fs.isExecutable

def find (tool : Value) : Action (Option String) := do
  if !tool.isGiven then return none
  match tool with
  | .text name => do
    let w ← get
    let candidate ← Action.ofExcept id (expandHome w.environment (Path.ofText name))
    if (← Action.isFile candidate) && w.files.isExecutable candidate.text then return some candidate.text
    return search w.files w.environment name
  | .bytes _ => throw (.misuse (.notPathText tool.kindName))
  | v => throw (.misuse (.notPath v.kindName))

def run (argv : List String) (timeout : Value) : Action (Int × String × String) := do
  Action.log .debug logger ("Running: " ++ joined " " argv)
  Action.record (.requested (.run argv timeout))
  let w ← get
  let (files, outcome) := w.host.run w.runs argv timeout w.files
  set { w with files := files, runs := w.runs + 1 }
  match outcome with
  | .finished status stdout stderr => return (status, stdout, stderr)
  | .timedOut => throw (.timedOut argv timeout.shown)
  | .failed failure => throw failure

end Amalgam.Tool
