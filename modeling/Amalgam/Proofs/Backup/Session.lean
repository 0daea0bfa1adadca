import Amalgam.Proofs.Backup.Passes
/-!
# Sessions

While the body of a session runs, every spot holds what its file held before the backup; `Guarded` says so, and whatever
keeps the spots keeps it. A body that changes files of the session only keeps it too, because no file is the spot of
another. From a guarded state the restore at the end of the session puts everything back.
-/

namespace Amalgam

namespace Backup

open FileSystem Amalgam.Path

variable {suffix : Value} {xs : List Site} {fs fs' : FileSystem}

/-! ### While the body runs -/

/-- The spots hold what the files held, and where the files belong stands no directory. -/
structure Guarded (suffix : Value) (xs : List Site) (fs fs' : FileSystem) : Prop where
  isIn : ∀ x ∈ xs, x.In suffix fs'
  free : ∀ x ∈ xs, fs'.node? x.route ≠ some .directory
  spot : ∀ x ∈ xs, fs'.node? x.spot = fs.node? x.route

theorem Backed.guarded (h : Backed xs fs fs') (hready : Ready suffix fs xs) : Guarded suffix xs fs fs' where
  isIn := fun x hx => (hready.isIn x hx).of_sameFolders (h.sameFolders hready)
  free := by
    intro x hx
    obtain ⟨bytes, executable, hfile⟩ := hready.file x hx
    simp [h.route hready hx, hfile]
  spot := h.spot

theorem Guarded.held (h : Guarded suffix xs fs fs') : Held suffix xs fs fs' where
  isIn := h.isIn
  free := h.free
  kept := fun x hx => Or.inl (h.spot x hx)

/-- Changes elsewhere than at the spots keep the files guarded. -/
theorem Guarded.of_changesOnly {fs'' : FileSystem} {named : String → Prop} (h : Guarded suffix xs fs fs')
    (hchange : ChangesOnly named fs' fs'')
    (hnamed : ∀ path, named path → ∀ x ∈ xs, ¬ fs'.SamePlace path x.sibling.text) : Guarded suffix xs fs fs'' where
  isIn := fun x hx => (h.isIn x hx).of_sameFolders hchange.sameFolders
  free := fun x hx hdir => h.free x hx ((hchange.sameFolders.folder _).mp hdir)
  spot := by
    intro x hx
    rw [← h.spot x hx]
    exact hchange.node_eq fun path hpath hloc => hnamed path hpath x hx ⟨x.spot, hloc, (h.isIn x hx).locate_sibling⟩

/-- Backups that still lead to the same files guard them, wherever else anything has changed. -/
theorem Guarded.of_siblings {fs'' : FileSystem} (h : Guarded suffix xs fs fs') (hready : Ready suffix fs xs)
    (hhere : fs''.here = fs'.here)
    (hsibling : ∀ x ∈ xs, ∀ node, fs'.stat x.sibling.text = .ok node → fs''.stat x.sibling.text = .ok node)
    (hfree : ∀ x ∈ xs, fs'.isDirectory x.path.text = false → fs''.isDirectory x.path.text = false) :
    Guarded suffix xs fs fs'' := by
  have hstat : ∀ x ∈ xs, ∃ node, fs.node? x.route = some node ∧ fs''.stat x.sibling.text = .ok node := by
    intro x hx
    obtain ⟨bytes, executable, hfile⟩ := hready.file x hx
    have hspot := (h.isIn x hx).stat_sibling_eq_ok_iff.mpr ((h.spot x hx).trans hfile)
    exact ⟨_, hfile, hsibling x hx _ hspot⟩
  have hin : ∀ x ∈ xs, x.In suffix fs'' := by
    intro x hx
    obtain ⟨node, _, hnode⟩ := hstat x hx
    obtain ⟨⟨r, hloc, _⟩, _⟩ := stat_ok_iff.mp hnode
    exact (h.isIn x hx).of_locate_sibling hhere hloc
  refine ⟨hin, fun x hx hdir => ?_, fun x hx => ?_⟩
  · have hnot : fs'.isDirectory x.path.text = false := by
      rw [Bool.eq_false_iff, ne_eq, isDirectory_iff, (h.isIn x hx).stat_eq_ok_iff]
      exact h.free x hx
    have hnot' := hfree x hx hnot
    rw [isDirectory_iff.mpr ((hin x hx).stat_eq_ok_iff.mpr hdir)] at hnot'
    cases hnot'
  · obtain ⟨node, hfile, hnode⟩ := hstat x hx
    rw [hfile, (hin x hx).stat_sibling_eq_ok_iff.mp hnode]

/-! ### The run of a session -/

/-- What the end of a session makes of the way its body ended: a failure to restore takes its place. -/
def afterBody {α : Type} (suffix : Value) (paths : List Path) (restoreOnFailure : Bool)
    (ran : (Except Failure α × BundleResult) × World) : (Except Failure α × BundleResult) × World :=
  let ended := (endSession suffix paths restoreOnFailure (!ran.1.1.isOk)).runIn ran.2
  ((ended.1.bind fun _ => ran.1.1, ran.1.2), ended.2)

/-- A session is a backup, the body, and the end. -/
theorem session_runIn {α : Type} (suffix : Value) (paths : List Path) (restoreOnFailure : Bool)
    (body : Summary → Work α) (result : BundleResult) (w : World) :
    (session suffix paths restoreOnFailure body : Work α).runIn result w =
      match (backUp suffix paths).runIn w with
      | (.error failure, w₁) => ((.error failure, result), w₁)
      | (.ok summary, w₁) => afterBody suffix paths restoreOnFailure ((body summary).runIn result w₁) := by
  rw [session, Work.runIn_lift_bind]
  rcases (backUp suffix paths).runIn w with ⟨failure | summary, w₁⟩
  · rfl
  · dsimp only
    rw [Work.runIn_bind, Work.runIn_tryCatch, Work.runIn_map]
    rcases (body summary).runIn result w₁ with ⟨⟨failure | a, result'⟩, w₂⟩
    · change ((liftM (endSession suffix paths restoreOnFailure true) : Work Unit) >>= _).runIn result' w₂ = _
      rw [Work.runIn_lift_bind]
      rcases h : (endSession suffix paths restoreOnFailure true).runIn w₂ with ⟨failure' | ⟨⟩, w₃⟩ <;>
        simp [afterBody, Except.isOk, Except.toBool, h, Except.bind]
    · change ((liftM (endSession suffix paths restoreOnFailure false) : Work Unit) >>= _).runIn result' w₂ = _
      rw [Work.runIn_lift_bind]
      rcases h : (endSession suffix paths restoreOnFailure false).runIn w₂ with ⟨failure' | ⟨⟩, w₃⟩ <;>
        simp [afterBody, Except.isOk, Except.toBool, h, Except.bind]

theorem session_keepsResult {α : Type} {prop : BundleResult → Prop} (paths : List Path) (restoreOnFailure : Bool)
    {body : Summary → Work α} (hbody : ∀ summary, (body summary).KeepsResult prop) :
    (session suffix paths restoreOnFailure body : Work α).KeepsResult prop := by
  intro result w hresult
  rw [session_runIn]
  rcases (backUp suffix paths).runIn w with ⟨failure | summary, w₁⟩
  · exact hresult
  · exact hbody summary result w₁ hresult

/-- A session whose end succeeds ends as its body does. -/
theorem session_runIn_of_ended {α : Type} {paths : List Path} {restoreOnFailure : Bool} {body : Summary → Work α}
    {result result' : BundleResult} {summary : Summary} {ended : Except Failure α} {w w₁ w₂ w₃ : World}
    (hbackUp : (backUp suffix paths).runIn w = (.ok summary, w₁))
    (hbody : (body summary).runIn result w₁ = ((ended, result'), w₂))
    (hend : (endSession suffix paths restoreOnFailure (!ended.isOk)).runIn w₂ = (.ok (), w₃)) :
    (session suffix paths restoreOnFailure body : Work α).runIn result w = ((ended, result'), w₃) := by
  rw [session_runIn, hbackUp]
  simp only [hbody, afterBody, hend]
  rfl

theorem endSession_leaves (suffix : Value) (paths : List Path) (w : World) :
    ∃ w' : World, w'.files = w.files ∧ (endSession suffix paths false true).runIn w = (.ok (), w') :=
  Action.exists_runIn_log _ _ _ w

theorem endSession_restores {restoreOnFailure bodyFailed : Bool} (h : bodyFailed = true → restoreOnFailure = true)
    (suffix : Value) (paths : List Path) :
    endSession suffix paths restoreOnFailure bodyFailed = restoreAll suffix paths := by
  cases bodyFailed with
  | false => rfl
  | true => rw [h rfl]; rfl

/-- How a session over paths ends: its backup is undone, its files are restored, or its body has failed and the files
are left with their backups. -/
inductive SessionEnds {α : Type} (suffix : Value) (fs : FileSystem) (paths : List Path) (restoreOnFailure : Bool)
    (ended : Except Failure α) (fs' : FileSystem) : Prop
  | undone {xs : List Site} (hended : ended.isOk = false) (hpaths : ∀ x ∈ xs, x.path ∈ paths)
      (hready : Ready suffix fs xs) (hcleared : Cleared xs fs fs')
  | restored {mid : FileSystem} {xs : List Site} (hpaths : xs.map Site.path = paths) (hready : Ready suffix fs xs)
      (hrestored : Restored suffix xs xs fs mid fs')
  | left {xs : List Site} (hended : ended.isOk = false) (hpolicy : restoreOnFailure = false)
      (hpaths : xs.map Site.path = paths) (hready : Ready suffix fs xs) (hguarded : Guarded suffix xs fs fs')

theorem session_ends {α : Type} {paths : List Path} {restoreOnFailure : Bool} {body : Summary → Work α}
    (result : BundleResult) (w : World) (hplain : ∀ p ∈ paths, p.Plain) (hfile : ∀ p ∈ paths, w.files.FileAt p.text)
    (hsep : Separate suffix w.files paths)
    (hbody : ∀ xs, xs.map Site.path = paths → Ready suffix w.files xs → ∀ summary result (w₁ : World),
      Backed xs w.files w₁.files → Guarded suffix xs w.files ((body summary).runIn result w₁).2.files) :
    SessionEnds suffix w.files paths restoreOnFailure
      ((session suffix paths restoreOnFailure body : Work α).runIn result w).1.1
      ((session suffix paths restoreOnFailure body : Work α).runIn result w).2.files := by
  have hends := backUp_ends w hplain hfile hsep
  rcases hrun : (backUp suffix paths).runIn w with ⟨failure | summary, w₁⟩
  · rw [hrun] at hends
    rw [session_runIn, hrun]
    cases hends with
    | cleared hpaths hready hcleared => exact .undone rfl hpaths hready hcleared
  · rw [hrun] at hends
    cases hends with
    | @backed xs _ hpaths hready hbacked =>
      have hguarded := hbody xs hpaths hready { processed := paths } result w₁ hbacked
      rcases hbodyRun : (body { processed := paths }).runIn result w₁ with ⟨⟨ended, result'⟩, w₂⟩
      rw [hbodyRun] at hguarded
      by_cases hleft : (ended.isOk = false) ∧ restoreOnFailure = false
      · obtain ⟨w₃, hfiles, hend⟩ := endSession_leaves suffix paths w₂
        obtain ⟨hfailed, rfl⟩ := hleft
        rw [session_runIn_of_ended hrun hbodyRun (by simpa [hfailed] using hend), hfiles]
        exact .left hfailed rfl hpaths hready hguarded
      · have hpolicy : (!ended.isOk) = true → restoreOnFailure = true := by
          intro hfailed
          by_contra hnot
          exact hleft ⟨by simpa using hfailed, by simpa using hnot⟩
        obtain ⟨w₃, hrestore, hrestored⟩ := restoreAll_sites w₂ hready hguarded.held
        rw [hpaths, ← endSession_restores hpolicy] at hrestore
        rw [session_runIn_of_ended hrun hbodyRun hrestore]
        exact .restored hpaths hready hrestored

end Backup

end Amalgam
