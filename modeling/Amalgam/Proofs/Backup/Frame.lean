import Amalgam.Proofs.Backup.Session
/-!
# What a session can touch

A backup of a path goes to its backup path or, when a directory stands there, into that directory. Whatever state the
file system is in and however a pass ends, it changes nothing but the paths and the places their backups go to.
-/

namespace Amalgam

namespace Backup

open FileSystem

variable {named : String → Prop} {suffix : Value} {fs : FileSystem} {paths : List Path}

/-- The named places include the paths, none of them a directory, and the places their backups go to. -/
structure Covers (named : String → Prop) (suffix : Value) (fs : FileSystem) (paths : List Path) : Prop where
  free : ∀ p ∈ paths, fs.isDirectory p.text = false
  path : ∀ p ∈ paths, named p.text
  backup : ∀ p ∈ paths, ∀ s, siblingPath suffix p = .ok s → named (fs.copyTarget p s).path

theorem tryCopy_keeps {source target : Path} (hnamed : named (fs.copyTarget source target).path) :
    (tryCopy source target).Keeps (ChangesOnly named fs) := by
  intro w hw
  cases hcopy : w.files.copy source target with
  | error fault =>
    rw [tryCopy_error hcopy]
    exact hw
  | ok fs' =>
    rw [tryCopy_ok hcopy]
    refine hw.trans ((changesOnly_copy hcopy).mono ?_)
    rintro _ rfl
    rwa [hw.sameFolders.copyTarget_eq]

theorem tryRemove_keeps {path : Path} (hnamed : fs.isDirectory path.text = false → named path.text) :
    (tryRemove path).Keeps (ChangesOnly named fs) := by
  intro w hw
  cases hremove : w.files.remove path.text with
  | error fault =>
    rw [tryRemove_error hremove]
    exact hw
  | ok fs' =>
    rw [tryRemove_ok hremove]
    refine hw.trans ((changesOnly_remove hremove).mono ?_)
    rintro _ rfl
    apply hnamed
    rw [← hw.sameFolders.isDirectory_eq, Bool.eq_false_iff, ne_eq, isDirectory_iff]
    intro hdir
    obtain ⟨⟨r, hloc, hnode⟩, _⟩ := stat_ok_iff.mp hdir
    obtain ⟨r', hloc', hnode', _⟩ := remove_ok hremove
    rw [hloc, Except.ok.injEq] at hloc'
    exact hnode' (hloc' ▸ hnode)

/-- A backup that is removed is not a directory, so it is where the copy went. -/
theorem Covers.sibling (h : Covers named suffix fs paths) {p s : Path} (hp : p ∈ paths)
    (hs : siblingPath suffix p = .ok s) (hfree : fs.isDirectory s.text = false) : named s.text := by
  have hbackup := h.backup p hp s hs
  rwa [copyTarget, hfree, if_neg Bool.false_ne_true] at hbackup

theorem discard_keeps (h : Covers named suffix fs paths) : (discard suffix paths).Keeps (ChangesOnly named fs) := by
  refine Action.Keeps.forM fun p hp => ?_
  cases hs : siblingPath suffix p with
  | error failure => exact (Action.OnlyReads.throw failure).keeps
  | ok s =>
    refine (tryRemove_keeps (h.sibling hp hs)).bind fun fault => ?_
    split
    · exact (Action.OnlyReads.pure _).keeps
    · exact (Action.OnlyReads.pure _).keeps
    · exact (Action.OnlyReads.log _ _ _).keeps

theorem backUpFrom_keeps (done rest : List Path) (h : Covers named suffix fs (done ++ rest)) :
    (backUpFrom suffix done rest).Keeps (ChangesOnly named fs) := by
  induction rest generalizing done with
  | nil => exact (Action.OnlyReads.pure _).keeps
  | cons p rest ih =>
    rw [backUpFrom]
    cases hs : siblingPath suffix p with
    | error failure => exact (Action.OnlyReads.throw failure).keeps
    | ok s =>
      refine (tryCopy_keeps (h.backup p (by simp) s hs)).bind fun fault => ?_
      split
      · refine (discard_keeps ⟨?_, ?_, ?_⟩).bind fun _ => (Action.OnlyReads.throw _).keeps
        · exact fun q hq => h.free q (List.mem_append_left _ hq)
        · exact fun q hq => h.path q (List.mem_append_left _ hq)
        · exact fun q hq => h.backup q (List.mem_append_left _ hq)
      · refine (Action.OnlyReads.log _ _ _).keeps.bind fun _ => ih _ ?_
        rwa [List.append_assoc, List.singleton_append]

/-- What is noted of a file when its restore has ended, with or without a fault. -/
def noteOne (summary : Summary) (p : Path) : Option FileFault → Action Summary
  | some fault => do
    Action.log .error logger ("Failed to restore " ++ p.text ++ ": " ++ fault.message)
    return { summary with failed := summary.failed ++ [p] }
  | none => do
    Action.log .debug logger ("Restored from backup: " ++ p.text)
    return { summary with processed := summary.processed ++ [p] }

theorem noteOne_onlyReads (summary : Summary) (p : Path) (fault : Option FileFault) :
    (noteOne summary p fault).OnlyReads := by
  cases fault with
  | some fault => exact (Action.OnlyReads.log _ _ _).bind fun _ => .pure _
  | none => exact (Action.OnlyReads.log _ _ _).bind fun _ => .pure _

/-- The named places include those that a restore writes to and the backups that it removes. -/
structure CoversRestore (named : String → Prop) (suffix : Value) (fs : FileSystem) (paths : List Path) : Prop where
  copy : ∀ p ∈ paths, ∀ s, siblingPath suffix p = .ok s → named (fs.copyTarget s p).path
  sibling : ∀ p ∈ paths, ∀ s, siblingPath suffix p = .ok s → fs.isDirectory s.text = false → named s.text

theorem Covers.restore (h : Covers named suffix fs paths) : CoversRestore named suffix fs paths where
  copy := by
    intro p hp s _
    rw [copyTarget, h.free p hp, if_neg Bool.false_ne_true]
    exact h.path p hp
  sibling := fun _ hp _ hs => h.sibling hp hs

theorem restoreOne_keeps (h : CoversRestore named suffix fs paths) (summary : Summary) {p : Path} (hp : p ∈ paths) :
    (restoreOne suffix summary p).Keeps (ChangesOnly named fs) := by
  rw [restoreOne]
  cases hs : siblingPath suffix p with
  | error failure => exact (Action.OnlyReads.throw failure).keeps
  | ok s =>
    have htail : ∀ fault, (noteOne summary p fault).Keeps (ChangesOnly named fs) :=
      fun fault => (noteOne_onlyReads summary p fault).keeps
    refine (Action.OnlyReads.leadsSomewhere s).keeps.bind fun found => ?_
    split
    · exact ((Action.OnlyReads.log _ _ _).bind fun _ => .pure _).keeps
    · refine (tryCopy_keeps (h.copy p hp s hs)).bind fun fault => ?_
      split
      · exact (Action.OnlyReads.pure _).keeps.bind htail
      · exact (tryRemove_keeps (h.sibling p hp s hs)).bind htail

theorem restore_keeps (h : CoversRestore named suffix fs paths) : (restore suffix paths).Keeps (ChangesOnly named fs) :=
  Action.Keeps.foldlM (fun summary _ hp => restoreOne_keeps h summary hp) _

theorem restoreAll_keeps (h : CoversRestore named suffix fs paths) :
    (restoreAll suffix paths).Keeps (ChangesOnly named fs) := by
  refine (Action.OnlyReads.log _ _ _).keeps.bind fun _ => (restore_keeps h).bind fun summary => ?_
  split
  · exact (Action.OnlyReads.throw _).keeps
  · exact (Action.OnlyReads.pure _).keeps

theorem endSession_keeps (h : CoversRestore named suffix fs paths) (restoreOnFailure bodyFailed : Bool) :
    (endSession suffix paths restoreOnFailure bodyFailed).Keeps (ChangesOnly named fs) := by
  unfold endSession
  split
  · exact (Action.OnlyReads.log _ _ _).keeps
  · exact restoreAll_keeps h

theorem session_keeps {α : Type} (h : Covers named suffix fs paths) (restoreOnFailure : Bool) {body : Summary → Work α}
    (hbody : ∀ summary, (body summary).Keeps (ChangesOnly named fs)) :
    (session suffix paths restoreOnFailure body : Work α).Keeps (ChangesOnly named fs) := by
  intro result w hw
  have hbackUp := backUpFrom_keeps [] paths h w hw
  rw [session_runIn, backUp]
  rcases hrun : (backUpFrom suffix [] paths).runIn w with ⟨failure | summary, w₁⟩
  · rwa [hrun] at hbackUp
  · rw [hrun] at hbackUp
    exact endSession_keeps h.restore _ _ _ (hbody summary result w₁ hbackUp)

end Backup

end Amalgam
