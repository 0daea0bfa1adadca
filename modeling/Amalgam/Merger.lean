import Amalgam.Tool
/-!
# Mergers

A merger writes one file from a source file and the files it includes. The one that is built from a configuration runs
an external tool as `tool args... source output`.
-/

namespace Amalgam

open Amalgam.Text

/-- A collaborator that merges files. -/
structure Merger where
  /-- What is reported missing when it is not available. -/
  name : Value
  isAvailable : Action Bool
  merge : (source output : Path) → (args : List String) → Action Unit

namespace Merger

def logger : String := "bundlecxx.merge.amalgamate"

/-- Runs the tool and checks how it ended. -/
def runTool (command timeout : Value) (source output : Path) (args : List String) : Action Unit := do
  match ← Tool.find command with
  | none => throw (.toolNotFound command.shown)
  | some exe =>
    Action.log .info logger ("Amalgamating source file " ++ source.text ++ " ...")
    match ← Action.attempt (Tool.run (exe :: args ++ [source.text, output.text]) timeout) with
    | .error (.timedOut _ limit) => throw (.mergeTimedOut command.shown limit)
    | .error failure =>
      throw (if failure.family.isSystem then .mergeNotStarted command.shown failure.message else failure)
    | .ok (status, stdout, stderr) =>
      if !isBlankText stdout then
        Action.log .debug logger (command.shown ++ " output:\n" ++ endTrimmed stdout)
      if status != 0 then throw (.mergeExited command.shown status (trimmed stderr))

def ofTool (command timeout : Value) : Merger where
  name := command
  isAvailable := return (← Tool.find command).isSome
  merge := runTool command timeout

end Merger

end Amalgam
