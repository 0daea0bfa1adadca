import Amalgam.World
/-!
# Backups

Before files are changed each is copied to a sibling whose name has a suffix. Restoring copies the sibling back and
removes it. A session does both around a body of work: whatever the body does, its end is followed by the restore,
unless the body failed and the changed files are to be left for inspection.
-/

namespace Amalgam.Backup

open Amalgam.Text

def logger : String := "bundlecxx.safety.backup_manager"

/-- What a backup or restore did with each file. -/
structure Summary where
  processed : List Path := []
  missing : List Path := []
  failed : List Path := []
deriving DecidableEq, Repr

def Summary.success (s : Summary) : Bool :=
  s.failed.isEmpty

/-- The path of a file's backup. -/
def siblingPath (suffix : Value) (path : Path) : Except Failure Path :=
  match suffix with
  | .text s => (path.withName (path.name ++ s)).mapError .name
  | v => .error (.misuse (.notJoinable v.fullKindName))

/-- Copies a file; a fault of the file system is an answer. -/
def tryCopy (source target : Path) : Action (Option FileFault) := do
  match (← Action.files).copy source target with
  | .ok fs => do
    Action.setFiles fs
    return none
  | .error fault => if fault.isSystem then return some fault else throw (.file fault)

/-- Removes a file; a fault of the file system is an answer. -/
def tryRemove (path : Path) : Action (Option FileFault) := do
  match (← Action.files).remove path.text with
  | .ok fs => do
    Action.setFiles fs
    return none
  | .error fault => if fault.isSystem then return some fault else throw (.file fault)

/-- Removes the backups of files; one that is gone already is no matter. -/
def discard (suffix : Value) (paths : List Path) : Action Unit :=
  paths.forM fun path => do
    let sibling ← Action.ofExcept id (siblingPath suffix path)
    match ← tryRemove sibling with
    | none => return
    | some (.missing _) => return
    | some fault =>
      Action.log .error logger ("Failed to remove backup " ++ sibling.text ++ ": " ++ fault.message)

/-- Backs up files in order. The first copy that fails ends the backup, and the copies made before it are removed. -/
def backUpFrom (suffix : Value) : (processed : List Path) → List Path → Action Summary
  | processed, [] => return { processed := processed }
  | processed, path :: rest => do
    let sibling ← Action.ofExcept id (siblingPath suffix path)
    match ← tryCopy path sibling with
    | some fault => do
      -- Nothing was put at `sibling`, so only the copies made before are taken back.
      discard suffix processed
      throw (.notBackedUp path.text fault)
    | none => do
      Action.log .debug logger ("Backup created: " ++ sibling.text)
      backUpFrom suffix (processed ++ [path]) rest

def backUp (suffix : Value) (paths : List Path) : Action Summary :=
  backUpFrom suffix [] paths

/-- Restores one file and adds it to the summary. -/
def restoreOne (suffix : Value) (summary : Summary) (path : Path) : Action Summary := do
  let sibling ← Action.ofExcept id (siblingPath suffix path)
  if !(← Action.leadsSomewhere sibling) then
    Action.log .warning logger ("No backup found for " ++ path.text)
    return { summary with missing := summary.missing ++ [path] }
  -- The backup is removed only when its copy is back, so a failed copy leaves it.
  let fault ← match ← tryCopy sibling path with
    | some fault => pure (some fault)
    | none => tryRemove sibling
  match fault with
  | some fault => do
    Action.log .error logger ("Failed to restore " ++ path.text ++ ": " ++ fault.message)
    return { summary with failed := summary.failed ++ [path] }
  | none => do
    Action.log .debug logger ("Restored from backup: " ++ path.text)
    return { summary with processed := summary.processed ++ [path] }

def restore (suffix : Value) (paths : List Path) : Action Summary :=
  paths.foldlM (restoreOne suffix) {}

/-- Restores files, and fails if any of them could not be restored. -/
def restoreAll (suffix : Value) (paths : List Path) : Action Unit := do
  Action.log .info logger ("Restoring " ++ numeral paths.length ++ " original files ...")
  let summary ← restore suffix paths
  if !summary.success then throw (.notRestored (summary.failed.map Path.text) suffix.shown)

/-- Ends a session: restores, unless the body failed and its files are to be left as they are. -/
def endSession (suffix : Value) (paths : List Path) (restoreOnFailure bodyFailed : Bool) : Action Unit :=
  if bodyFailed && !restoreOnFailure then
    Action.log .warning logger ("Leaving " ++ numeral paths.length ++ " modified file(s) and their " ++ suffix.shown ++
      " backups in place")
  else restoreAll suffix paths

/-- Does some work between a backup of files and their restore. -/
def session {m : Type → Type} [Monad m] [MonadExceptOf Failure m] [MonadLiftT Action m] {α : Type}
    (suffix : Value) (paths : List Path) (restoreOnFailure : Bool) (body : Summary → m α) : m α := do
  let summary ← backUp suffix paths
  let ended ← tryCatch (Except.ok <$> body summary) fun failure => pure (Except.error failure)
  -- A failure to restore takes the place of whatever the body ended with.
  match ended with
  | .ok a => do
    endSession suffix paths restoreOnFailure false
    return a
  | .error failure => do
    endSession suffix paths restoreOnFailure true
    throw failure

end Amalgam.Backup
