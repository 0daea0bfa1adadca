import Mathlib.Data.List.Induction
import Amalgam.Proofs.Bundle.DryRun
import Amalgam.Proofs.Bundle.Recovery
import Amalgam.Proofs.Value.Result
/-!
# The report of files that are left in place

Under the policy that restores on success only, a run warns about the files of its plan whenever its session fails, and
a session can fail in four places: in its backup, in the renames, in the merger and in its restore. A backup that fails
removes the copies it has made, and a restore that fails removes the backups of the files it has put back, so what the
warning says is true only of the two places in between. After a backup it fails because the directories are as they
were, and all files would have been backed up had their backups a place. After a restore it fails because each step
either finds nothing it can copy and changes nothing, or leaves its backup path leading nowhere, and so does the whole.
-/

namespace Amalgam

open FileSystem Amalgam.Path

namespace Backup

variable {suffix : Value} {paths : List Path} {xs : List Site} {fs fs' : FileSystem}

/-- Every file is there before, and later its backup path leads to a file of the same bytes. -/
def BackedUp (suffix : Value) (paths : List Path) (fs fs' : FileSystem) : Prop :=
  ∀ p ∈ paths, ∃ s bytes, siblingPath suffix p = .ok s ∧ fs.read p.text = .ok bytes ∧ fs'.read s.text = .ok bytes

theorem Guarded.backedUp (h : Guarded suffix xs fs fs') (hready : Ready suffix fs xs) :
    BackedUp suffix (xs.map Site.path) fs fs' := by
  intro p hp
  obtain ⟨x, hx, rfl⟩ := List.mem_map.mp hp
  obtain ⟨bytes, executable, hfile⟩ := hready.file x hx
  refine ⟨x.sibling, bytes, (hready.isIn x hx).siblingPath_eq, read_eq_ok_iff.mpr ⟨executable, ?_⟩,
    read_eq_ok_iff.mpr ⟨executable, ?_⟩⟩
  · exact (hready.isIn x hx).stat_eq_ok_iff.mpr hfile
  · exact (h.isIn x hx).stat_sibling_eq_ok_iff.mpr ((h.spot x hx).trans hfile)

/-! ### A backup that fails -/

/-- A backup path that leads to a file is one that a backup can be made at. -/
theorem BackedUp.fits {text : String} (h : BackedUp (.text text) paths fs fs') (hsame : SameFolders fs fs')
    (hplain : ∀ p ∈ paths, p.Plain) {p : Path} (hp : p ∈ paths) : '/' ∉ text.toList ∧ p.Fits text := by
  obtain ⟨s, bytes, hs, _, hread⟩ := h p hp
  obtain ⟨executable, hstat⟩ := read_eq_ok_iff.mp hread
  obtain ⟨⟨r, hloc, hnode⟩, _⟩ := stat_ok_iff.mp hstat
  have hslash : '/' ∉ text.toList := by
    intro hin
    rw [node?_of_locate_slash (hplain p hp) hs hin hloc] at hnode
    cases hnode
  obtain ⟨_, htext, rfl, hname⟩ := siblingPath_eq_ok hs
  cases htext
  have hnamed := (hplain p hp).name_ne_empty_iff.mp hname
  exact ⟨hslash, ((locate_beside (hplain p hp) hnamed hslash).mp (hsame.locate_ok.mp hloc)).1⟩

theorem BackedUp.exists_ready (h : BackedUp suffix paths fs fs') (hsame : SameFolders fs fs')
    (hplain : ∀ p ∈ paths, p.Plain) (hfile : ∀ p ∈ paths, fs.FileAt p.text) (hsep : Separate suffix fs paths)
    (hne : suffix ≠ .text "") : ∃ xs, xs.map Site.path = paths ∧ Ready suffix fs xs := by
  rcases eq_or_ne paths [] with rfl | hpaths
  · exact ⟨[], rfl, by simp, by simp, by simp, by simp⟩
  · obtain ⟨p, hp⟩ := List.exists_mem_of_ne_nil paths hpaths
    obtain ⟨_, _, hs, _⟩ := h p hp
    obtain ⟨text, rfl, _⟩ := siblingPath_eq_ok hs
    exact exists_ready_of_fits (h.fits hsame hplain hp).1 (fun heq => hne (by rw [heq])) hplain hfile
      (fun q hq => (h.fits hsame hplain hq).2) hsep

theorem backUp_returns_iff {w : World} (hplain : ∀ p ∈ paths, p.Plain) (hfile : ∀ p ∈ paths, w.files.FileAt p.text)
    (hsep : Separate suffix w.files paths) :
    (backUp suffix paths).Returns w ↔ ∃ xs, xs.map Site.path = paths ∧ Ready suffix w.files xs := by
  constructor
  · rintro ⟨summary, w', hrun⟩
    have hends := backUp_ends w hplain hfile hsep
    rw [hrun] at hends
    cases hends with
    | backed hpaths hready => exact ⟨_, hpaths, hready⟩
  · rintro ⟨xs, rfl, hready⟩
    obtain ⟨w', _, hrun⟩ := backUp_sites w hready
    exact ⟨_, w', hrun⟩

/-- With an empty suffix a file is its own backup. -/
theorem backedUp_empty_suffix (hplain : ∀ p ∈ paths, p.Plain) (hfile : ∀ p ∈ paths, fs.FileAt p.text)
    (hsame : Same fs fs') : BackedUp (.text "") paths fs fs' := by
  intro p hp
  have hnamed := named_of_fileAt (hplain p hp) (hfile p hp)
  obtain ⟨bytes, executable, hstat⟩ := hfile p hp
  have hread : fs.read p.text = .ok bytes := read_eq_ok_iff.mpr ⟨executable, hstat⟩
  refine ⟨p.beside "", bytes, siblingPath_text (hplain p hp) hnamed (by simp), hread, ?_⟩
  rw [text_beside hnamed, String.append_empty, FileSystem.read, hsame.stat_eq, ← FileSystem.read, hread]

/-- A backup that fails leaves none, but for the files that are their own. -/
theorem backedUp_of_refused {w w' : World} {failure : Failure} (hplain : ∀ p ∈ paths, p.Plain)
    (hfile : ∀ p ∈ paths, w.files.FileAt p.text) (hsep : Separate suffix w.files paths)
    (hrun : (backUp suffix paths).runIn w = (.error failure, w')) :
    BackedUp suffix paths w.files w'.files ↔ suffix = .text "" ∨ (backUp suffix paths).Returns w := by
  have hnot : ¬ (backUp suffix paths).Returns w := by
    rintro ⟨summary, w₁, hok⟩
    cases hrun.symm.trans hok
  have hends := backUp_ends w hplain hfile hsep
  rw [hrun] at hends
  cases hends with
  | cleared hpaths hready hcleared =>
    constructor
    · intro hbacked
      refine Or.inl (by_contra fun hne => hnot ?_)
      exact (backUp_returns_iff hplain hfile hsep).mpr
        (hbacked.exists_ready (hcleared.sameFolders hready.free) hplain hfile hsep hne)
    · rintro (rfl | hreturns)
      · have hnone : ∀ x ∈ _, False := fun x hx => by
          obtain ⟨text, htext, husable⟩ := hready.usable (List.ne_nil_of_mem hx)
          cases htext
          exact husable.ne_empty rfl
        exact backedUp_empty_suffix hplain hfile
          ⟨hcleared.here, fun r => hcleared.rest r fun x hx => (hnone x hx).elim⟩
      · exact absurd hreturns hnot

/-! ### A restore that fails -/

/-- The file system refuses to copy the backup of a path onto it. -/
def Stuck (suffix : Value) (fs : FileSystem) (p : Path) : Prop :=
  ∀ s, siblingPath suffix p = .ok s → ∀ fs', fs.copy s p ≠ .ok fs'

/-- The backup path of a path leads nowhere. -/
def Gone (suffix : Value) (fs : FileSystem) (p : Path) : Prop :=
  ∀ s, siblingPath suffix p = .ok s → fs.leadsSomewhere s.text = false

theorem BackedUp.not_gone (h : BackedUp suffix paths fs fs') {p : Path} (hp : p ∈ paths) : ¬ Gone suffix fs' p := by
  intro hgone
  obtain ⟨s, bytes, hs, _, hread⟩ := h p hp
  obtain ⟨executable, hstat⟩ := read_eq_ok_iff.mp hread
  have hthere := leadsSomewhere_iff.mpr ⟨_, hstat⟩
  rw [hgone s hs] at hthere
  cases hthere

/-- After a backup is copied back it can be removed, and then it is gone. -/
theorem remove_of_copied {p s : Path} (hs : siblingPath suffix p = .ok s) (hcopy : fs.copy s p = .ok fs') :
    ∃ fs'', fs'.remove s.text = .ok fs'' ∧ Gone suffix fs'' p := by
  obtain ⟨bytes, executable, r, hstat, hsame, hwritable, rfl⟩ := copy_ok hcopy
  obtain ⟨hloc, hname, hdir⟩ := writable_ok_iff.mp hwritable
  obtain ⟨⟨r', hloc', hnode⟩, hname'⟩ := stat_ok_iff.mp hstat
  have hne : r' ≠ r := by
    rintro rfl
    -- The copy would be one of a file onto itself.
    have hstat' : fs.stat (fs.copyTarget s p).path = .ok (.file bytes executable) :=
      stat_ok_iff.mpr ⟨⟨r', hloc, hnode⟩, by simp [hname]⟩
    rw [sameNode, hstat, hstat', hloc', hloc] at hsame
    simp at hsame
  have hfolders := (changesOnly_put hloc hdir bytes executable).sameFolders
  have hnode' : (fs.put r (.file bytes executable)).node? r' = some (.file bytes executable) := by
    rw [node?_put_other _ _ hne, hnode]
  have hloc'' := hfolders.locate_ok.mpr hloc'
  refine ⟨_, remove_of_file hloc'' (stat_ok_iff.mpr ⟨⟨r', hloc'', hnode'⟩, hname'⟩), fun s' hs' => ?_⟩
  rw [hs, Except.ok.injEq] at hs'
  have hdir' : (fs.put r (.file bytes executable)).node? r' ≠ some .directory := by simp [hnode']
  have hgone := (changesOnly_erase hloc'' hdir').sameFolders.locate_ok.mpr hloc''
  rw [← hs', leadsSomewhere, stat_of_locate hgone, node?_erase_self _ (ne_nil_of_node? hdir')]

theorem Gone.stuck {p : Path} (h : Gone suffix fs p) : Stuck suffix fs p := by
  intro s hs fs' hcopy
  obtain ⟨bytes, executable, _, hstat, _⟩ := copy_ok hcopy
  have hthere := leadsSomewhere_iff.mpr ⟨_, hstat⟩
  rw [h s hs] at hthere
  cases hthere

theorem gone_of_probe {p s : Path} (hs : siblingPath suffix p = .ok s)
    (hprobe : ∀ node, fs.probe s.text ≠ .ok (some node)) : Gone suffix fs p := by
  intro s' hs'
  rw [hs, Except.ok.injEq] at hs'
  rw [← hs', Bool.eq_false_iff, ne_eq, leadsSomewhere_iff]
  rintro ⟨node, hnode⟩
  exact hprobe node (probe_eq_some_iff.mpr hnode)

/-- A backup that is copied back is taken away. -/
theorem restoreOne_copied {p s : Path} {w : World} (summary : Summary) (hs : siblingPath suffix p = .ok s)
    (hcopy : w.files.copy s p = .ok fs') : Gone suffix ((restoreOne suffix summary p).runIn w).2.files p := by
  obtain ⟨bytes, executable, _, hstat, _⟩ := copy_ok hcopy
  obtain ⟨fs'', hremove, hgone⟩ := remove_of_copied hs hcopy
  have hremove' : ({ w with files := fs' } : World).files.remove s.text = .ok fs'' := hremove
  have hfiles : ((restoreOne suffix summary p).runIn w).2.files = fs'' := by
    simp [restoreOne, Action.runIn_bind, hs, Action.leadsSomewhere, Action.probe, probe_eq_some_iff.mpr hstat,
      tryCopy_ok hcopy, tryRemove_ok hremove', Except.mapError, Except.map]
  rwa [hfiles]

/-- Restoring a path that is stuck changes nothing, and is a failure only if its backup cannot be looked up; restoring
any other path takes its backup away. -/
theorem restoreOne_ends {p : Path} {summary : Summary} {w w' : World} {ended : Except Failure Summary}
    (hnul : '\x00' ∉ p.text.toList) (hrun : (restoreOne suffix summary p).runIn w = (ended, w')) :
    (w'.files = w.files ∧ Stuck suffix w.files p ∧ (ended.isOk = false → Gone suffix w.files p)) ∨
      ¬ Stuck suffix w.files p ∧ Gone suffix w'.files p := by
  cases hs : siblingPath suffix p with
  | error failure =>
    have hgone : Gone suffix w.files p := by simp [Gone, hs]
    simp only [restoreOne, Action.runIn_bind, hs, Action.runIn_ofExcept, Except.mapError, Prod.mk.injEq] at hrun
    exact Or.inl ⟨hrun.2 ▸ rfl, hgone.stuck, fun _ => hgone⟩
  | ok s =>
    cases hprobe : w.files.probe s.text with
    | error fault =>
      have hgone : Gone suffix w.files p := gone_of_probe hs (by simp [hprobe])
      have hfiles : ((restoreOne suffix summary p).runIn w).2.files = w.files := by
        simp [restoreOne, Action.runIn_bind, hs, Action.leadsSomewhere, Action.probe, hprobe, Except.mapError]
      rw [hrun] at hfiles
      exact Or.inl ⟨hfiles, hgone.stuck, fun _ => hgone⟩
    | ok found =>
      cases found with
      | none =>
        have hgone : Gone suffix w.files p := gone_of_probe hs (by simp [hprobe])
        rw [restoreOne_missing summary hs hprobe] at hrun
        cases hrun
        exact Or.inl ⟨rfl, hgone.stuck, fun _ => hgone⟩
      | some node =>
        cases hcopy : w.files.copy s p with
        | ok fs' =>
          have hgone := restoreOne_copied summary hs hcopy
          rw [hrun] at hgone
          exact Or.inr ⟨fun hstuck => hstuck s hs fs' hcopy, hgone⟩
        | error fault =>
          obtain ⟨⟨r, hloc, _⟩, _⟩ := stat_ok_iff.mp (probe_eq_some_iff.mp hprobe)
          have hsystem := isSystem_of_copy_error (locate_ok_iff.mp hloc).1 hnul hcopy
          rw [restoreOne_refused summary hs hprobe hcopy hsystem] at hrun
          cases hrun
          exact Or.inl ⟨rfl, by simp [Stuck, hs, hcopy], by simp [Except.isOk, Except.toBool]⟩

theorem restore_keeps_stuck (hnul : ∀ p ∈ paths, '\x00' ∉ p.text.toList) (h : ∀ p ∈ paths, Stuck suffix fs p) :
    (restore suffix paths).Keeps (· = fs) := by
  refine Action.Keeps.foldlM (fun summary p hp => ?_) _
  rintro w rfl
  rcases restoreOne_ends (hnul p hp) rfl with ⟨hfiles, _⟩ | ⟨hnot, _⟩
  · exact hfiles
  · exact absurd (h p hp) hnot

/-- A restore changes nothing because all its paths are stuck, or some backup is gone after it. -/
theorem restore_stuck_or_gone (hnul : ∀ p ∈ paths, '\x00' ∉ p.text.toList) {w w' : World}
    {ended : Except Failure Summary} (hrun : (restore suffix paths).runIn w = (ended, w')) :
    (w'.files = w.files ∧ ended.isOk = true ∧ ∀ p ∈ paths, Stuck suffix w.files p) ∨
      ∃ p ∈ paths, Gone suffix w'.files p := by
  -- From the end of the list, so that the last step leaves the final state.
  induction paths using List.reverseRecOn generalizing ended w' with
  | nil =>
    cases hrun
    exact Or.inl ⟨rfl, rfl, by simp⟩
  | append_singleton front p ih =>
    have hfront : ∀ q ∈ front, q ∈ front ++ [p] := fun q hq => List.mem_append_left _ hq
    rw [restore, List.foldlM_append, ← restore, Action.runIn_bind] at hrun
    rcases hmid : (restore suffix front).runIn w with ⟨failure | summary, mid⟩
    · rw [hmid] at hrun
      cases hrun
      rcases ih (fun q hq => hnul q (hfront q hq)) hmid with ⟨_, hok, _⟩ | ⟨q, hq, hgone⟩
      · cases hok
      · exact Or.inr ⟨q, hfront q hq, hgone⟩
    · simp only [hmid, List.foldlM_cons, List.foldlM_nil, bind_pure] at hrun
      rcases restoreOne_ends (hnul p (by simp)) hrun with ⟨hfiles, hstuck, hfailed⟩ | ⟨_, hgone⟩
      · by_cases hok : ended.isOk = true
        · rcases ih (fun q hq => hnul q (hfront q hq)) hmid with ⟨hsame, _, hall⟩ | ⟨q, hq, hgone⟩
          · rw [hsame] at hfiles hstuck
            exact Or.inl ⟨hfiles, hok, by simpa [or_imp, forall_and] using ⟨hall, hstuck⟩⟩
          · exact Or.inr ⟨q, hfront q hq, hfiles ▸ hgone⟩
        · exact Or.inr ⟨p, by simp, hfiles ▸ hfailed (by simpa using hok)⟩
      · exact Or.inr ⟨p, by simp, hgone⟩

/-- After a restore the backups are there exactly if they were and none could be copied back. -/
theorem backedUp_of_restoreAll {w : World} (hnul : ∀ p ∈ paths, '\x00' ∉ p.text.toList) :
    BackedUp suffix paths fs ((restoreAll suffix paths).runIn w).2.files ↔
      BackedUp suffix paths fs w.files ∧ ∀ p ∈ paths, Stuck suffix w.files p := by
  obtain ⟨w₁, hfiles, hlog⟩ := Action.exists_runIn_log .info logger
    ("Restoring " ++ Text.numeral paths.length ++ " original files ...") w
  have hsame : ((restoreAll suffix paths).runIn w).2.files = ((restore suffix paths).runIn w₁).2.files := by
    rw [restoreAll, Action.runIn_bind_ok hlog, Action.runIn_bind]
    rcases (restore suffix paths).runIn w₁ with ⟨failure | summary, w₂⟩
    · rfl
    · dsimp only
      split_ifs <;> rfl
  rw [hsame, ← hfiles]
  constructor
  · intro hbacked
    rcases restore_stuck_or_gone hnul rfl with ⟨hkept, _, hstuck⟩ | ⟨p, hp, hgone⟩
    · exact ⟨hkept ▸ hbacked, hstuck⟩
    · exact absurd hgone (hbacked.not_gone hp)
  · rintro ⟨hbacked, hstuck⟩
    rwa [restore_keeps_stuck hnul hstuck w₁ rfl]

/-- After the end of a session that restores on success only. -/
theorem backedUp_of_afterBody {α : Type} (hnul : ∀ p ∈ paths, '\x00' ∉ p.text.toList) (ended : Except Failure α)
    (result : BundleResult) (left : World) :
    BackedUp suffix paths fs (afterBody suffix paths false ((ended, result), left)).2.files ↔
      BackedUp suffix paths fs left.files ∧ (ended.isOk = false ∨ ∀ p ∈ paths, Stuck suffix left.files p) := by
  cases ended with
  | error failure =>
    obtain ⟨w', hfiles, hend⟩ := endSession_leaves suffix paths left
    simp [afterBody, hend, hfiles, Except.isOk, Except.toBool]
  | ok a =>
    have hend : endSession suffix paths false false = restoreAll suffix paths := rfl
    simp [afterBody, hend, backedUp_of_restoreAll hnul, Except.isOk, Except.toBool]

end Backup

namespace Bundler

open Backup

/-- A result that has failed and warns of nothing but a missing table. -/
def Fresh (result : BundleResult) : Prop :=
  result.success = false ∧ ∀ x ∈ result.warnings, x = "No symbols table found; nothing to rename"

/-- A result that warns of nothing but a missing table and symbols that hold no name. -/
def Ordinary (result : BundleResult) : Prop :=
  ∀ x ∈ result.warnings, x = "No symbols table found; nothing to rename" ∨
    ∃ file symbol, x = namelessWarning file symbol

/-- A run that has failed reports that the files of its plan are left in place. -/
structure Reports (b : Bundler) (p : Plan) (result : BundleResult) : Prop where
  policy : b.restoresOnFailure = false
  failed : result.success = false
  warning : leftWarning p ∈ result.warnings

theorem stays_fresh : Stays Fresh where
  output := fun _ _ h => h
  metadata := fun _ _ h => h
  noTable := by
    rintro result ⟨hfailed, hwarnings⟩
    refine ⟨hfailed, fun x hx => ?_⟩
    rcases List.mem_append.mp hx with hx | hx
    · exact hwarnings x hx
    · exact List.mem_singleton.mp hx

theorem Fresh.ordinary {result : BundleResult} (h : Fresh result) : Ordinary result :=
  fun x hx => Or.inl (h.2 x hx)

section Session

variable {b : Bundler} {p : Plan} {src out : Path} {args : List String} {result : BundleResult} {w w' : World}
  {run : (Except Failure Unit × BundleResult) × World}

theorem leftWarning_ne (p : Plan) : leftWarning p ≠ "No symbols table found; nothing to rename" := by
  have hfirst : "Modified files left in place with backups: ".toList.head? = some 'M' := by decide +kernel
  have hother : "No symbols table found; nothing to rename".toList.head? = some 'N' := by decide +kernel
  intro h
  have hhead := congrArg (·.toList.head?) h
  unfold leftWarning at hhead
  generalize "Modified files left in place with backups: " = first at hfirst hhead
  generalize "No symbols table found; nothing to rename" = other at hother hhead
  simp [hfirst, hother] at hhead

theorem planSession_ordinary (b : Bundler) (p : Plan) (src out : Path) (args : List String) :
    (b.planSession p src out args).KeepsResult Ordinary := by
  refine session_keepsResult _ _ fun _ => (Work.KeepsResult.forM fun group => ?_).bind fun _ => .lift _
  refine (Work.KeepsResult.lift _).bind fun _ => (Work.KeepsResult.lift _).bind fun report => .note fun result h => ?_
  intro x hx
  rcases List.mem_append.mp hx with hx | hx
  · exact h x hx
  · obtain ⟨symbol, _, rfl⟩ := List.mem_map.mp hx
    exact Or.inr ⟨group.1, symbol, rfl⟩

theorem concluded_warnings (h : concluded run = (.ok result, w')) : result.warnings = run.1.2.warnings := by
  rcases run with ⟨⟨failure | ⟨⟩, result'⟩, w₁⟩
  · simp only [concluded] at h
    split_ifs at h
    · cases h
      rfl
    · cases h
  · cases h
    rfl

theorem finished_warnings {result₁ : BundleResult} {ended : Except Failure Unit × World}
    (h : finished result₁ out ended = (.ok result, w')) : result.warnings = result₁.warnings := by
  rcases ended with ⟨failure | ⟨⟩, left⟩
  all_goals
    rw [finished] at h
    exact concluded_warnings h

theorem closed_files (h : closed b p out run = (.ok result, w')) : w'.files = run.2.files := by
  rw [← files_closed b p out run, h]

/-- What a run with a session makes of an ordinary result. -/
theorem closed_ordinary_or_reports (hordinary : Ordinary run.1.2) (hfailed : run.1.2.success = false)
    (h : closed b p out run = (.ok result, w')) : Ordinary result ∨ Reports b p result := by
  rcases run with ⟨⟨failure | ⟨⟩, result'⟩, w₁⟩
  · by_cases hreported : isReported failure = true
    · simp only [closed, annotated, concluded, hreported, if_true, Bool.true_and, Prod.mk.injEq, Except.ok.injEq] at h
      obtain ⟨rfl, _⟩ := h
      split_ifs with hleaves
      · exact Or.inr ⟨by simpa using hleaves, hfailed, List.mem_append_right _ List.mem_cons_self⟩
      · exact Or.inl hordinary
    · simp [closed, annotated, concluded, hreported] at h
  · cases h
    exact Or.inl hordinary

/-- A session of a plan fails before its merger is called, or calls it when all backups are there. -/
theorem planSession_backedUp (src out : Path) (args : List String) (result : BundleResult)
    (hfile : ∀ path ∈ planPaths p, w.files.FileAt path.text)
    (hsep : Separate b.settings.rename.backupSuffix w.files (planPaths p)) :
    (∃ run, (∀ merge, ((b.withMerge merge).planSession p src out args).runIn result w = run) ∧
      (b.restoresOnFailure = false → (BackedUp b.settings.rename.backupSuffix (planPaths p) w.files run.2.files ↔
        b.settings.rename.backupSuffix = .text "" ∨ (backUp b.settings.rename.backupSuffix (planPaths p)).Returns w))) ∨
      ∃ (called : World) (finish : Except Failure Unit × World → (Except Failure Unit × BundleResult) × World),
        BackedUp b.settings.rename.backupSuffix (planPaths p) w.files called.files ∧
        (∀ merge, ((b.withMerge merge).planSession p src out args).runIn result w =
          finish ((merge src out args).runIn called)) ∧
        (b.restoresOnFailure = false → ∀ ended left,
          (BackedUp b.settings.rename.backupSuffix (planPaths p) w.files (finish (ended, left)).2.files ↔
            BackedUp b.settings.rename.backupSuffix (planPaths p) w.files left.files ∧
              (ended.isOk = false ∨
                ∀ path ∈ planPaths p, Stuck b.settings.rename.backupSuffix left.files path))) := by
  have hplain : ∀ path ∈ planPaths p, path.Plain := fun path hpath => plain_of_mem_planPaths hpath
  have hnul : ∀ path ∈ planPaths p, '\x00' ∉ path.text.toList := fun path hpath => no_nul_of_fileAt (hfile path hpath)
  simp only [planSession_runIn]
  rcases hbackUp : (backUp b.settings.rename.backupSuffix (planPaths p)).runIn w with ⟨failure | summary, w₁⟩
  · exact .inl ⟨_, fun _ => rfl, fun _ => backedUp_of_refused hplain hfile hsep hbackUp⟩
  · dsimp only
    rcases hrename : (b.renameAll p).runIn result w₁ with ⟨⟨ended, result₁⟩, called⟩
    obtain ⟨xs, hpaths, hready, hguarded⟩ := guarded_of_renameAll hfile hsep hbackUp hrename
    have hbacked := hguarded.backedUp hready
    rw [hpaths] at hbacked
    cases ended with
    | error failure =>
      refine .inl ⟨afterBody b.settings.rename.backupSuffix (planPaths p) b.restoresOnFailure
        ((.error failure, result₁), called), fun _ => rfl, fun hpolicy => ?_⟩
      rw [hpolicy, backedUp_of_afterBody hnul]
      exact iff_of_true ⟨hbacked, Or.inl rfl⟩ (Or.inr ⟨summary, w₁, hbackUp⟩)
    | ok _ =>
      refine .inr ⟨called, fun ended => afterBody b.settings.rename.backupSuffix (planPaths p) b.restoresOnFailure
        ((ended.1, result₁), ended.2), hbacked, fun _ => rfl, fun hpolicy ended left => ?_⟩
      rw [hpolicy]
      exact backedUp_of_afterBody hnul ended result₁ left

end Session

theorem bundleWork_fresh {b : Bundler} (hquiet : b.Quiet) (source table output : Option String) (args : List String)
    (dryRun : Bool) (w : World) : CourseKeeping Fresh b source table output args dryRun w fun merge =>
      ((b.withMerge merge).bundleWork source table output args dryRun).runIn (freshResult dryRun) w :=
  bundleWork_keeping stays_fresh hquiet ⟨rfl, by simp [freshResult]⟩

/-- A run that warns of more than a missing table or nameless symbols reports that the files of its plan are left in
place. -/
theorem bundle_ordinary_or_reports {b : Bundler} {source table output : Option String} {args : List String}
    {dryRun : Bool} {result : BundleResult} {w w' : World} (hquiet : b.Quiet) {merge : Merge}
    (hrun : ((b.withMerge merge).bundle source table output args dryRun).runIn w = (.ok result, w')) :
    Ordinary result ∨ Reports b (b.renamePlan source table w) result := by
  cases bundleWork_fresh hquiet source table output args dryRun w with
  | @idle run _ hresult _ hidle =>
    rw [bundle_runIn, hidle] at hrun
    exact Or.inl fun x hx => hresult.ordinary x (concluded_warnings hrun ▸ hx)
  | @plain src out result₁ w₁ _ _ _ _ hplain hresult =>
    rw [bundle_of_plain hplain] at hrun
    exact Or.inl fun x hx => hresult.ordinary x (finished_warnings hrun ▸ hx)
  | @session src out p result₁ w₁ hhands hplan hfile hresult hfiles hsession =>
    obtain rfl := renamePlan_eq hplan
    obtain ⟨w₂, _, hall⟩ := bundle_of_session hsession
    rw [hall] at hrun
    exact closed_ordinary_or_reports (planSession_ordinary _ _ _ _ _ result₁ w₂ hresult.ordinary)
      (planSession_success _ _ _ _ _ result₁ w₂ hresult.1) hrun

/-- When a run that reports its files as left in place tells the truth. If it is over before its merger is called, its
backup must have returned, so that it has failed in its renames; an empty suffix makes every file its own backup. If it
has called its merger, the backups were there then, and the merger must have left them so and have failed itself, or
the restore after it could put back no file. -/
theorem left_in_place {b : Bundler} {source table output : Option String} {args : List String} {w : World}
    (hquiet : b.Quiet)
    (hsep : Separate b.settings.rename.backupSuffix w.files (planPaths (b.renamePlan source table w))) (dryRun : Bool) :
    let suffix := b.settings.rename.backupSuffix
    let p := b.renamePlan source table w
    let run := fun merge => ((b.withMerge merge).bundle source table output args dryRun).runIn w
    (∀ merge result w', run merge = (.ok result, w') → Ordinary result ∨ Reports b p result) ∧
    ((NeverCalls run ∧ ∀ merge result w', run merge = (.ok result, w') → Reports b p result →
        (BackedUp suffix (planPaths p) w.files w'.files ↔
          suffix = .text "" ∨ (backUp suffix (planPaths p)).Returns w)) ∨
      ∃ (src out : Path) (called : World), Hands source output src out ∧ CallsIn called src out args run ∧
        BackedUp suffix (planPaths p) w.files called.files ∧
        ∀ (merge : Merge) (ended : Except Failure Unit) (left : World) (result : BundleResult) (w' : World),
          (merge src out args).runIn called = (ended, left) → run merge = (.ok result, w') → Reports b p result →
          (BackedUp suffix (planPaths p) w.files w'.files ↔ BackedUp suffix (planPaths p) w.files left.files ∧
            (ended.isOk = false ∨ ∀ path ∈ planPaths p, Stuck suffix left.files path))) := by
  intro suffix p run
  refine ⟨fun merge result w' hrun => bundle_ordinary_or_reports hquiet hrun, ?_⟩
  cases bundleWork_fresh hquiet source table output args dryRun w with
  | @idle ended _ hresult _ hidle =>
    have hbundle : ∀ merge, run merge = concluded ended := fun merge => (bundle_runIn _ _ _ _ _ _ _).trans (by rw [hidle])
    refine .inl ⟨fun merge merge' => (hbundle merge).trans (hbundle merge').symm, ?_⟩
    intro merge result w' hrun hreports
    rw [hbundle] at hrun
    exact absurd (hresult.2 _ (concluded_warnings hrun ▸ hreports.warning)) (leftWarning_ne p)
  | @plain src out result₁ w₁ hhands hplan _ _ hplain _ =>
    have hp : p = [] := renamePlan_eq hplan
    have hall : ∀ fs, BackedUp suffix (planPaths p) w.files fs := by simp [hp, planPaths, BackedUp]
    refine .inr ⟨src, out, w₁, hhands, ⟨finished result₁ out, bundle_of_plain hplain⟩, hall _, ?_⟩
    intro merge ended left result w' _ _ _
    exact iff_of_true (hall _) ⟨hall _, Or.inr (by simp [hp, planPaths])⟩
  | @session src out p' result₁ w₁ hhands hplan hfile hresult hfiles hsession =>
    have hp : p' = p := (renamePlan_eq hplan).symm
    subst hp
    obtain ⟨w₂, hw₂, hall⟩ := bundle_of_session hsession
    have hrun : ∀ merge, run merge =
        closed b p out (((b.withMerge merge).planSession p src out args).runIn result₁ w₂) := hall
    have hsame : w₂.files = w.files := hw₂.trans hfiles
    have hplain : ∀ path ∈ planPaths p, path.Plain := fun path hpath => plain_of_mem_planPaths hpath
    have hfile₂ : ∀ path ∈ planPaths p, w₂.files.FileAt path.text := by rwa [hsame]
    have hsep₂ : Separate suffix w₂.files (planPaths p) := by rwa [hsame]
    have hcases := planSession_backedUp src out args result₁ hfile₂ hsep₂
    rw [backUp_returns_iff hplain hfile₂ hsep₂, hsame, ← backUp_returns_iff hplain hfile hsep] at hcases
    rcases hcases with ⟨ended, hconst, hleft⟩ | ⟨called, finish, hbacked, hcalls, hleft⟩
    · refine .inl ⟨fun merge merge' => by rw [hrun, hrun, hconst, hconst], ?_⟩
      intro merge result w' hreturns hreports
      rw [hrun, hconst] at hreturns
      rw [closed_files hreturns]
      exact hleft hreports.policy
    · refine .inr ⟨src, out, called, hhands, ⟨fun ended => closed b p out (finish ended), fun merge => ?_⟩, hbacked, ?_⟩
      · rw [hrun, hcalls]
      · intro merge ended left result w' hmerge hreturns hreports
        rw [hrun, hcalls, hmerge] at hreturns
        rw [closed_files hreturns]
        exact hleft hreports.policy ended left

/-- The backup path of the second file is a directory that takes no copy of it, so the backup of the first is removed
and nothing is left in place. -/
theorem left_in_place_undone :
    let b := smallBundler .onSuccess fun _ _ _ => pure ()
    let w := smallWorld [(["a.c"], textFile "f"), (["b.c"], textFile "f"), (["b.c.bak"], .directory),
      (["b.c.bak", "b.c"], .directory), (["t.csv"], tableFile "a.c:1,f,g\nb.c:1,f,h\n")]
    let p := b.renamePlan (some "a.c") (some "t.csv") w
    let ran := (b.bundle (some "a.c") (some "t.csv") (some "out.c") [] false).runIn w
    (∃ result, ran.1 = .ok result ∧ Reports b p result) ∧ p.map Prod.fst = ["a.c", "b.c"] ∧
      ran.2.files.leadsSomewhere "a.c.bak" = false ∧ ran.2.files.read "a.c" = w.files.read "a.c" := by
  intro b w p ran
  obtain ⟨hfails, htold, hleft⟩ : ¬ Succeeds ran ∧ ran.1.toOption.map BundleResult.warnings = some [leftWarning p] ∧
      p.map Prod.fst = ["a.c", "b.c"] ∧ ran.2.files.leadsSomewhere "a.c.bak" = false ∧
      ran.2.files.read "a.c" = w.files.read "a.c" := by
    decide +kernel
  obtain ⟨result, hended, hwarnings⟩ := Option.map_eq_some_iff.mp htold
  have hran : ran.1 = .ok result := Except.toOption_eq_some.mp hended
  have hfailed : result.success = false := eq_false_of_ne_true fun hsuccess => hfails ⟨result, hran, hsuccess⟩
  exact ⟨⟨result, hran, rfl, hfailed, by simp [hwarnings]⟩, hleft⟩

/-- A merger that makes the second file a directory which takes no copy of its backup: the first file is restored and
its backup is gone. -/
example :
    let b := smallBundler .onSuccess fun _ _ _ => do
      Action.setFiles (((← Action.files).put ["b.c"] .directory).put ["b.c", "b.c.bak"] .directory)
    let w := smallWorld [(["a.c"], textFile "f"), (["b.c"], textFile "f"),
      (["t.csv"], tableFile "a.c:1,f,g\nb.c:1,f,h\n")]
    let p := b.renamePlan (some "a.c") (some "t.csv") w
    let ran := (b.bundle (some "a.c") (some "t.csv") (some "out.c") [] false).runIn w
    Separate b.settings.rename.backupSuffix w.files (planPaths p) ∧
      ran.1.toOption.map (·.warnings) = some [leftWarning p] ∧
      ran.2.files.leadsSomewhere "a.c.bak" = false ∧ ran.2.files.read "a.c" = w.files.read "a.c" := by
  decide +kernel

/-- Two files whose merger fails at once. -/
theorem left_in_place_two_files :
    let b := smallBundler .onSuccess fun _ _ _ => throw (.raised .merge "no")
    let w := smallWorld [(["a.c"], textFile "f"), (["b.c"], textFile "f"),
      (["t.csv"], tableFile "a.c:1,f,g\nb.c:1,f,h\n")]
    let p := b.renamePlan (some "a.c") (some "t.csv") w
    p.map Prod.fst = ["a.c", "b.c"] ∧ ∃ result w',
      (b.bundle (some "a.c") (some "t.csv") (some "out.c") [] false).runIn w = (.ok result, w') ∧
      Reports b p result ∧ BackedUp b.settings.rename.backupSuffix (planPaths p) w.files w'.files := by
  intro b w p
  obtain ⟨hnames, hsep, hbacks, htold⟩ : p.map Prod.fst = ["a.c", "b.c"] ∧
      Separate b.settings.rename.backupSuffix w.files (planPaths p) ∧
      ((backUp b.settings.rename.backupSuffix (planPaths p)).runIn w).1 = .ok { processed := planPaths p } ∧
      ((b.bundle (some "a.c") (some "t.csv") (some "out.c") [] false).runIn w).1.toOption.map
        (fun result => (result.success, result.warnings)) = some (false, [leftWarning p]) := by
    decide +kernel
  have hfails : ∀ src out args w₁, (b.merger.merge src out args).runIn w₁ = (.error (.raised .merge "no"), w₁) :=
    fun _ _ _ _ => rfl
  have hquiet : b.Quiet := smallBundler_quiet _ _
  have hpolicy : b.restoresOnFailure = false := rfl
  clear_value w b
  refine ⟨hnames, ?_⟩
  obtain ⟨result, w', hrun, hread⟩ := Except.exists_of_map_toOption htold
  obtain ⟨hfailed, hwarnings⟩ := Prod.mk.inj hread
  have hreports : Reports b p result := ⟨hpolicy, hfailed, by simp [hwarnings]⟩
  refine ⟨result, w', hrun, hreports, ?_⟩
  rcases (left_in_place hquiet hsep false).2 with ⟨_, hleft⟩ | ⟨src, out, called, _, _, hbacked, hleft⟩
  · exact (hleft b.merger.merge result w' hrun hreports).mpr (Or.inr ⟨_, _, Prod.ext hbacks rfl⟩)
  · exact (hleft b.merger.merge _ called result w' (hfails src out [] called) hrun hreports).mpr ⟨hbacked, Or.inl rfl⟩

end Bundler

end Amalgam
