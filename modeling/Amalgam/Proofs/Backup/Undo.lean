import Amalgam.Proofs.Backup.Frame
/-!
# A session undoes its body

The body of a session may do anything to the files as long as it leaves the backups alone and puts no directory where a
file belongs. It may rewrite the files, empty them or take them away. However it ends, the session ends in the same way
and, unless the files of a body that failed are to be kept, leaves no trace of it in them.

The backup is what can go wrong, and it does so before the body runs: a suffix may make the name of a backup too long
for the file system, or hold a null character. Apart from that it always succeeds.
-/

namespace Amalgam

namespace Backup

open FileSystem Amalgam.Path

variable {suffix : Value} {xs ys : List Site} {fs fs' : FileSystem} {paths : List Path}

/-! ### The backup succeeds -/

instance (p : Path) (text : String) : Decidable (p.Fits text) :=
  decidable_of_iff ('\x00' ∉ (p.text ++ text).toList ∧ (p.text ++ text).utf8ByteSize < 4096 ∧
    (p.name ++ text).utf8ByteSize ≤ 255) ⟨fun h => ⟨h.1, h.2.1, h.2.2⟩, fun h => ⟨h.no_nul, h.text_short, h.name_short⟩⟩

theorem Ready.mono (h : Ready suffix fs xs) (hsub : ∀ y ∈ ys, y ∈ xs) : Ready suffix fs ys where
  isIn := fun y hy => h.isIn y (hsub y hy)
  file := fun y hy => h.file y (hsub y hy)
  free := fun y hy => h.free y (hsub y hy)
  apart := fun y hy z hz => h.apart y (hsub y hy) z (hsub z hz)

theorem backUpFrom_sites (ys : List Site) {w : World} (hready : Ready suffix fs (xs ++ ys))
    (hbacked : Backed xs fs w.files) : ∃ w', Backed (xs ++ ys) fs w'.files ∧
      (backUpFrom suffix (xs.map Site.path) (ys.map Site.path)).runIn w =
        (.ok { processed := (xs ++ ys).map Site.path }, w') := by
  induction ys generalizing xs w with
  | nil =>
    rw [List.append_nil]
    exact ⟨w, hbacked, rfl⟩
  | cons y rest ih =>
    have happend : xs ++ y :: rest = (xs ++ [y]) ++ rest := by simp
    rw [happend] at hready ⊢
    have hready' : Ready suffix fs (xs ++ [y]) := hready.mono fun z hz => List.mem_append_left _ hz
    obtain ⟨w₁, hbacked₁, hstep⟩ := backUpFrom_copied hready' hbacked (rest.map Site.path)
    obtain ⟨w₂, hbacked₂, hrun⟩ := ih hready hbacked₁
    refine ⟨w₂, hbacked₂, ?_⟩
    rw [List.map_cons, hstep, hrun]

theorem backUp_sites (w : World) (hready : Ready suffix w.files xs) : ∃ w', Backed xs w.files w'.files ∧
    (backUp suffix (xs.map Site.path)).runIn w = (.ok { processed := xs.map Site.path }, w') := by
  have hall : Ready suffix w.files ([] ++ xs) := hready
  exact backUpFrom_sites xs hall (Backed.nil _)

theorem exists_site_of_fits {text : String} {p : Path} (hslash : '/' ∉ text.toList) (hne : text ≠ "") (hp : p.Plain)
    (hfile : fs.FileAt p.text) (hfits : p.Fits text) : ∃ x : Site, x.path = p ∧ x.In (.text text) fs := by
  have hnamed := named_of_fileAt hp hfile
  obtain ⟨bytes, executable, hstat⟩ := hfile
  obtain ⟨⟨r, hloc, _⟩, _⟩ := stat_ok_iff.mp hstat
  obtain ⟨_, folder, henters, _⟩ := (locate_text hp hnamed).mp hloc
  have hsibling := (locate_beside hp hnamed hslash).mpr ⟨hfits, folder, henters, rfl⟩
  obtain ⟨x, hpath, _, hin, _⟩ := exists_site hp hnamed hslash hne hloc hsibling
  exact ⟨x, hpath, hin⟩

theorem exists_sites_of_fits {text : String} (hslash : '/' ∉ text.toList) (hne : text ≠ "")
    (hplain : ∀ p ∈ paths, p.Plain) (hfile : ∀ p ∈ paths, fs.FileAt p.text) (hfits : ∀ p ∈ paths, p.Fits text) :
    ∃ xs : List Site, xs.map Site.path = paths ∧ ∀ x ∈ xs, x.In (.text text) fs := by
  induction paths with
  | nil => exact ⟨[], rfl, by simp⟩
  | cons p rest ih =>
    obtain ⟨x, hpath, hin⟩ := exists_site_of_fits hslash hne (hplain p List.mem_cons_self) (hfile p List.mem_cons_self)
      (hfits p List.mem_cons_self)
    obtain ⟨xs, hpaths, hall⟩ := ih (fun q hq => hplain q (List.mem_cons_of_mem _ hq))
      (fun q hq => hfile q (List.mem_cons_of_mem _ hq)) fun q hq => hfits q (List.mem_cons_of_mem _ hq)
    refine ⟨x :: xs, by simp [hpath, hpaths], ?_⟩
    simpa using ⟨hin, hall⟩

/-- Files are ready for a backup when the file system takes the names of the backups. -/
theorem exists_ready_of_fits {text : String} (hslash : '/' ∉ text.toList) (hne : text ≠ "")
    (hplain : ∀ p ∈ paths, p.Plain) (hfile : ∀ p ∈ paths, fs.FileAt p.text) (hfits : ∀ p ∈ paths, p.Fits text)
    (hsep : Separate (.text text) fs paths) : ∃ xs, xs.map Site.path = paths ∧ Ready (.text text) fs xs := by
  obtain ⟨xs, rfl, hin⟩ := exists_sites_of_fits hslash hne hplain hfile hfits
  refine ⟨xs, rfl, hsep.ready hin fun x hx => ?_⟩
  obtain ⟨bytes, executable, hstat⟩ := hfile x.path (List.mem_map_of_mem hx)
  exact ⟨bytes, executable, (hin x hx).stat_eq_ok_iff.mp hstat⟩

theorem fits_of_backUp {text : String} {summary : Summary} {w w' : World} (hplain : ∀ p ∈ paths, p.Plain)
    (hfile : ∀ p ∈ paths, w.files.FileAt p.text) (hsep : Separate (.text text) w.files paths)
    (h : (backUp (.text text) paths).runIn w = (.ok summary, w')) : ∀ p ∈ paths, p.Fits text := by
  have hends := backUp_ends w hplain hfile hsep
  rw [h] at hends
  cases hends with
  | backed hpaths hready =>
    intro p hp
    rw [← hpaths] at hp
    obtain ⟨x, hx, rfl⟩ := List.mem_map.mp hp
    obtain ⟨text', htext, hmade⟩ := (hready.isIn x hx).made
    cases htext
    exact hmade.fits

/-! ### What a session leaves -/

/-- Whatever else has changed, the backups are as they were, and no path has come to lead to a directory. -/
structure Spared (suffix : Value) (paths : List Path) (fs fs' : FileSystem) : Prop where
  here : fs'.here = fs.here
  backup : ∀ p ∈ paths, ∀ s, siblingPath suffix p = .ok s → ∀ node, fs.stat s.text = .ok node →
    fs'.stat s.text = .ok node
  path : ∀ p ∈ paths, fs.isDirectory p.text = false → fs'.isDirectory p.text = false

/-- The files are as they were before the session, their backups are gone, and all else is as the body left it. -/
structure Undone (suffix : Value) (paths : List Path) (before left fs' : FileSystem) : Prop where
  file : ∀ p ∈ paths, fs'.probe p.text = before.probe p.text
  backup : ∀ p ∈ paths, ∃ s, siblingPath suffix p = .ok s ∧ fs'.probe s.text = .ok none
  rest : ∀ path, (∀ p ∈ paths, ¬ left.SamePlace path p.text ∧
    ∀ s, siblingPath suffix p = .ok s → ¬ left.SamePlace path s.text) → fs'.probe path = left.probe path

/-- All is as the body left it, and the backups hold what the files held before the session. -/
structure Retained (suffix : Value) (paths : List Path) (before left fs' : FileSystem) : Prop where
  all : fs' = left
  backup : ∀ p ∈ paths, ∃ s, siblingPath suffix p = .ok s ∧ fs'.probe s.text = before.probe p.text

theorem Spared.guarded (h : Spared suffix (xs.map Site.path) fs fs') {start : FileSystem}
    (hready : Ready suffix start xs) (hguarded : Guarded suffix xs start fs) : Guarded suffix xs start fs' := by
  refine hguarded.of_siblings hready h.here (fun x hx node hstat => ?_) fun x hx => ?_
  · exact h.backup x.path (List.mem_map_of_mem hx) x.sibling (hready.isIn x hx).siblingPath_eq node hstat
  · exact h.path x.path (List.mem_map_of_mem hx)

theorem Guarded.retained (h : Guarded suffix xs fs fs') (hready : Ready suffix fs xs) :
    Retained suffix (xs.map Site.path) fs fs' fs' := by
  refine ⟨rfl, fun p hp => ?_⟩
  obtain ⟨x, hx, rfl⟩ := List.mem_map.mp hp
  have hin := hready.isIn x hx
  obtain ⟨bytes, executable, hfile⟩ := hready.file x hx
  have hbefore := probe_eq_some_iff.mpr (hin.stat_eq_ok_iff.mpr hfile)
  have hspot := (h.isIn x hx).stat_sibling_eq_ok_iff.mpr ((h.spot x hx).trans hfile)
  exact ⟨x.sibling, hin.siblingPath_eq, (probe_eq_some_iff.mpr hspot).trans hbefore.symm⟩

/-- The restore writes to the files and the backups alone. -/
theorem Guarded.coversRestore (h : Guarded suffix xs fs fs') (hready : Ready suffix fs xs) :
    CoversRestore (fun path => ∃ x ∈ xs, path = x.path.text ∨ path = x.sibling.text) suffix fs' (xs.map Site.path) := by
  refine ⟨fun p hp s _ => ?_, fun p hp s hs _ => ?_⟩
  · obtain ⟨x, hx, rfl⟩ := List.mem_map.mp hp
    have hfree : fs'.isDirectory x.path.text = false := by
      rw [Bool.eq_false_iff, ne_eq, isDirectory_iff, (h.isIn x hx).stat_eq_ok_iff]
      exact h.free x hx
    rw [copyTarget, hfree, if_neg Bool.false_ne_true]
    exact ⟨x, hx, Or.inl rfl⟩
  · obtain ⟨x, hx, rfl⟩ := List.mem_map.mp hp
    rw [(hready.isIn x hx).siblingPath_eq, Except.ok.injEq] at hs
    exact ⟨x, hx, Or.inr (congrArg Path.text hs.symm)⟩

theorem Restored.undone {before left : FileSystem} (h : Restored suffix xs xs before left fs')
    (hready : Ready suffix before xs)
    (hchange : ChangesOnly (fun path => ∃ x ∈ xs, path = x.path.text ∨ path = x.sibling.text) left fs') :
    Undone suffix (xs.map Site.path) before left fs' := by
  refine ⟨?_, ?_, ?_⟩
  · intro p hp
    obtain ⟨x, hx, rfl⟩ := List.mem_map.mp hp
    obtain ⟨bytes, executable, hfile⟩ := hready.file x hx
    have hbefore := probe_eq_some_iff.mpr ((hready.isIn x hx).stat_eq_ok_iff.mpr hfile)
    have hafter := (h.held.isIn x hx).stat_eq_ok_iff.mpr ((h.route hready hx hx).trans hfile)
    exact (probe_eq_some_iff.mpr hafter).trans hbefore.symm
  · intro p hp
    obtain ⟨x, hx, rfl⟩ := List.mem_map.mp hp
    have hgone := (h.held.isIn x hx).stat_sibling_none (h.spot x hx)
    exact ⟨x.sibling, (hready.isIn x hx).siblingPath_eq, by rw [probe, hgone]⟩
  · intro path hpath
    refine hchange.probe_eq ?_
    rintro other ⟨x, hx, rfl | rfl⟩
    · exact (hpath x.path (List.mem_map_of_mem hx)).1
    · exact (hpath x.path (List.mem_map_of_mem hx)).2 x.sibling (hready.isIn x hx).siblingPath_eq

/-! ### A restore of its own -/

theorem Ready.spot_ne {x y : Site} (hready : Ready suffix fs xs) (hx : x ∈ xs) (hy : y ∈ xs)
    (hroute : x.route ≠ y.route) : x.spot ≠ y.spot :=
  fun heq => hroute ((hready.isIn x hx).route_eq_of_spot_eq (hready.isIn y hy) heq)

/-- Sites of different files are restored one by one, and each finds its backup still there. -/
theorem foldlM_restoreOne_processed {done : List Site} {start : FileSystem} (ys : List Site) (w : World)
    (summary : Summary) (hready : Ready suffix fs xs) (hdone : ∀ y ∈ done, y ∈ xs) (hys : ∀ y ∈ ys, y ∈ xs)
    (hroutes : ys.Pairwise fun x y => x.route ≠ y.route) (h : Restored suffix xs done fs start w.files)
    (hspots : ∀ y ∈ ys, w.files.node? y.spot = fs.node? y.route) :
    ∃ w', ((ys.map Site.path).foldlM (restoreOne suffix) summary).runIn w =
        (.ok { summary with processed := summary.processed ++ ys.map Site.path }, w') ∧
      Restored suffix xs (ys.reverse ++ done) fs start w'.files := by
  induction ys generalizing done w summary with
  | nil => exact ⟨w, by simp, h⟩
  | cons y rest ih =>
    have hy := hys y List.mem_cons_self
    have hrest : ∀ z ∈ rest, z ∈ xs := fun z hz => hys z (List.mem_cons_of_mem _ hz)
    obtain ⟨hother, hroutes⟩ := List.pairwise_cons.mp hroutes
    obtain ⟨bytes, executable, hfile⟩ := hready.file y hy
    have hspot := (hspots y List.mem_cons_self).trans hfile
    have hrun := restoreOne_file summary (h.held.isIn y hy) hspot (h.held.free y hy)
    have hdone' : ∀ z ∈ y :: done, z ∈ xs := by simpa using ⟨hy, hdone⟩
    obtain ⟨w', hrest', hrestored⟩ := ih { w with
        files := putBack w.files y (.file bytes executable)
        journal := w.journal ++ [.logged ⟨.debug, logger, "Restored from backup: " ++ y.path.text⟩] }
      { summary with processed := summary.processed ++ [y.path] } hdone' hrest hroutes
      (h.putBack hready hy hdone hfile) fun z hz => by
        have hne := hready.spot_ne (hrest z hz) hy (hother z hz).symm
        rw [node?_putBack_other (hready.apart y hy z (hrest z hz)).symm hne, hspots z (List.mem_cons_of_mem _ hz)]
    refine ⟨w', ?_, by simpa using hrestored⟩
    rw [List.map_cons, List.foldlM_cons, Action.runIn_bind_ok hrun, hrest']
    simp

/-- Restoring guarded files, each of which is named once, processes all of them and undoes what was done to them. -/
theorem restore_undoes (w : World) (hready : Ready suffix fs xs) (hguarded : Guarded suffix xs fs w.files)
    (hroutes : xs.Pairwise fun x y => x.route ≠ y.route) :
    ∃ w', (restore suffix (xs.map Site.path)).runIn w = (.ok { processed := xs.map Site.path }, w') ∧
      Undone suffix (xs.map Site.path) fs w.files w'.files := by
  have hstart : Restored suffix xs [] fs w.files w.files := ⟨hguarded.held, by simp, fun _ _ => rfl⟩
  obtain ⟨w', hrun, hrestored⟩ := foldlM_restoreOne_processed xs w {} hready (by simp) (fun _ hy => hy) hroutes hstart
    hguarded.spot
  have hchange := restore_keeps (hguarded.coversRestore hready) w (.refl _ _)
  rw [restore, hrun] at hchange
  have hall : Restored suffix xs xs fs w.files w'.files :=
    { hrestored with spot := fun x hx => hrestored.spot x (by simp [hx]) }
  exact ⟨w', hrun, hall.undone hready hchange⟩

/-! ### Whole sessions -/

theorem session_runIn_action {α : Type} {restoreOnFailure : Bool} (body : Summary → Action α) (w : World) :
    (session suffix paths restoreOnFailure body : Action α).runIn w =
      match (backUp suffix paths).runIn w with
      | (.error failure, w₁) => (.error failure, w₁)
      | (.ok summary, w₁) =>
        let ran := (body summary).runIn w₁
        let ended := (endSession suffix paths restoreOnFailure (!ran.1.isOk)).runIn ran.2
        (ended.1.bind fun _ => ran.1, ended.2) := by
  change (backUp suffix paths >>= _).runIn w = _
  rw [Action.runIn_bind]
  rcases (backUp suffix paths).runIn w with ⟨failure | summary, w₁⟩
  · rfl
  · dsimp only
    rw [Action.runIn_bind, Action.runIn_tryCatch, Action.runIn_map]
    rcases (body summary).runIn w₁ with ⟨failure | a, w₂⟩
    · change (endSession suffix paths restoreOnFailure true >>= _).runIn w₂ = _
      rw [Action.runIn_bind]
      rcases h : (endSession suffix paths restoreOnFailure true).runIn w₂ with ⟨failure' | ⟨⟩, w₃⟩ <;>
        simp [Except.isOk, Except.toBool, h, Except.bind]
    · change (endSession suffix paths restoreOnFailure false >>= _).runIn w₂ = _
      rw [Action.runIn_bind]
      rcases h : (endSession suffix paths restoreOnFailure false).runIn w₂ with ⟨failure' | ⟨⟩, w₃⟩ <;>
        simp [Except.isOk, Except.toBool, h, Except.bind]

/-- The end of a session over files that are guarded undoes what was done to them. -/
theorem endSession_undoes {restoreOnFailure bodyFailed : Bool} (hends : bodyFailed = true → restoreOnFailure = true)
    (w : World) (hready : Ready suffix fs xs) (hguarded : Guarded suffix xs fs w.files) :
    ∃ w', (endSession suffix (xs.map Site.path) restoreOnFailure bodyFailed).runIn w = (.ok (), w') ∧
      Undone suffix (xs.map Site.path) fs w.files w'.files := by
  obtain ⟨w', hrun, hrestored⟩ := restoreAll_sites w hready hguarded.held
  have hchange := restoreAll_keeps (hguarded.coversRestore hready) w (.refl _ _)
  rw [hrun] at hchange
  rw [endSession_restores hends]
  exact ⟨w', hrun, hrestored.undone hready hchange⟩

/-- How a session ends that has backed up its files. -/
structure Ran {α : Type} (suffix : Value) (paths : List Path) (restoreOnFailure : Bool) (before : FileSystem)
    (ended : Except Failure α) (left fs' : FileSystem) : Prop where
  undone : ended.isOk = true ∨ restoreOnFailure = true → Undone suffix paths before left fs'
  retained : ended.isOk = false → restoreOnFailure = false → Retained suffix paths before left fs'

theorem session_ran {α : Type} {body : Summary → Action α} {summary : Summary} {w w₁ left : World}
    {ended : Except Failure α} (restoreOnFailure : Bool) (hready : Ready suffix w.files xs)
    (hbackUp : (backUp suffix (xs.map Site.path)).runIn w = (.ok summary, w₁))
    (hbody : (body summary).runIn w₁ = (ended, left)) (hguarded : Guarded suffix xs w.files left.files) :
    ∃ w', (session suffix (xs.map Site.path) restoreOnFailure body : Action α).runIn w = (ended, w') ∧
      Ran suffix (xs.map Site.path) restoreOnFailure w.files ended left.files w'.files := by
  have hsession : ∀ w',
      (endSession suffix (xs.map Site.path) restoreOnFailure (!ended.isOk)).runIn left = (.ok (), w') →
      (session suffix (xs.map Site.path) restoreOnFailure body : Action α).runIn w = (ended, w') := by
    intro w' hend
    rw [session_runIn_action, hbackUp]
    simp only [hbody, hend]
    rfl
  by_cases hleft : ended.isOk = false ∧ restoreOnFailure = false
  · obtain ⟨hfailed, rfl⟩ := hleft
    obtain ⟨w', hfiles, hend⟩ := endSession_leaves suffix (xs.map Site.path) left
    refine ⟨w', hsession w' (by simpa [hfailed] using hend), ⟨?_, fun _ _ => ?_⟩⟩
    · simp [hfailed]
    · rw [hfiles]
      exact hguarded.retained hready
  · have hends : (!ended.isOk) = true → restoreOnFailure = true := by
      intro hfailed
      by_contra hnot
      exact hleft ⟨by simpa using hfailed, by simpa using hnot⟩
    obtain ⟨w', hend, hundone⟩ := endSession_undoes hends left hready hguarded
    exact ⟨w', hsession w' hend, ⟨fun _ => hundone, fun hfailed hpolicy => absurd ⟨hfailed, hpolicy⟩ hleft⟩⟩

/-- Either the file system does not take the name of some backup, and the session fails before its body, whatever that
is; or the session ends as its body does and leaves no trace of it, or leaves everything for inspection. -/
theorem session_undoes {α : Type} {text : String} {names : List String} {body : Summary → Action α} {w : World}
    (restoreOnFailure : Bool) (hne : text ≠ "") (hslash : '/' ∉ text.toList)
    (hfile : ∀ p ∈ names.map Path.ofText, w.files.FileAt p.text)
    (hsep : Separate (.text text) w.files (names.map Path.ofText))
    (hbody : ∀ summary w₁, (backUp (.text text) (names.map Path.ofText)).runIn w = (.ok summary, w₁) →
      Spared (.text text) (names.map Path.ofText) w₁.files ((body summary).runIn w₁).2.files) :
    ((∃ p ∈ names.map Path.ofText, ¬ p.Fits text) ∧ ∃ failure w', ∀ other : Summary → Action α,
      (session (.text text) (names.map Path.ofText) restoreOnFailure other : Action α).runIn w = (.error failure, w')) ∨
    ((∀ p ∈ names.map Path.ofText, p.Fits text) ∧ ∃ summary w₁ ended left w',
      (backUp (.text text) (names.map Path.ofText)).runIn w = (.ok summary, w₁) ∧
      (body summary).runIn w₁ = (ended, left) ∧
      (session (.text text) (names.map Path.ofText) restoreOnFailure body : Action α).runIn w = (ended, w') ∧
      Ran (.text text) (names.map Path.ofText) restoreOnFailure w.files ended left.files w'.files) := by
  have hplain : ∀ p ∈ names.map Path.ofText, p.Plain := by
    intro p hp
    obtain ⟨name, _, rfl⟩ := List.mem_map.mp hp
    exact plain_ofText name
  generalize names.map Path.ofText = paths at *
  by_cases hfits : ∀ p ∈ paths, p.Fits text
  · refine Or.inr ⟨hfits, ?_⟩
    obtain ⟨xs, rfl, hready⟩ := exists_ready_of_fits hslash hne hplain hfile hfits hsep
    obtain ⟨w₁, hbacked, hbackUp⟩ := backUp_sites w hready
    rcases hrun : (body { processed := xs.map Site.path }).runIn w₁ with ⟨ended, left⟩
    have hspared := hbody _ w₁ hbackUp
    rw [hrun] at hspared
    have hguarded := hspared.guarded hready (hbacked.guarded hready)
    obtain ⟨w', hsession, hran⟩ := session_ran restoreOnFailure hready hbackUp hrun hguarded
    exact ⟨_, w₁, ended, left, w', hbackUp, hrun, hsession, hran⟩
  · refine Or.inl ⟨by simpa using hfits, ?_⟩
    rcases hbackUp : (backUp (.text text) paths).runIn w with ⟨failure | summary, w'⟩
    · refine ⟨failure, w', fun other => ?_⟩
      rw [session_runIn_action, hbackUp]
    · exact absurd (fits_of_backUp hplain hfile hsep hbackUp) hfits

/-- One file in two spellings, and a body that takes it away and is interrupted. -/
theorem session_undoes_two_spellings :
    let w := Bundler.smallWorld [(["a.c"], Bundler.textFile "f"), (["d"], .directory)]
    let paths := ["a.c", "d/../a.c"].map Path.ofText
    let body : Summary → Action Unit := fun _ => do
      Action.setFiles ((← Action.files).erase ["a.c"])
      throw (.raised .interrupt "")
    (∀ p ∈ paths, w.files.FileAt p.text) ∧ Separate (.text ".bak") w.files paths ∧ ∃ left w',
      left.probe "a.c" = .ok none ∧
      (session (.text ".bak") paths true body : Action Unit).runIn w = (.error (.raised .interrupt ""), w') ∧
      Undone (.text ".bak") paths w.files left w'.files := by
  intro w paths body
  obtain ⟨hfits, hfile, hsep, hbackup, hfree, hgone⟩ : (∀ p ∈ paths, p.Fits ".bak") ∧
      (∀ p ∈ paths, w.files.FileAt p.text) ∧ Separate (.text ".bak") w.files paths ∧
      (∀ p ∈ paths, ∀ s, siblingPath (.text ".bak") p = .ok s →
        (((backUp (.text ".bak") paths).runIn w).2.files.erase ["a.c"]).stat s.text =
          ((backUp (.text ".bak") paths).runIn w).2.files.stat s.text) ∧
      (∀ p ∈ paths, (((backUp (.text ".bak") paths).runIn w).2.files.erase ["a.c"]).isDirectory p.text = false) ∧
      (((backUp (.text ".bak") paths).runIn w).2.files.erase ["a.c"]).probe "a.c" = .ok none := by
    decide +kernel
  have hbody : ∀ summary w₁, (backUp (.text ".bak") paths).runIn w = (.ok summary, w₁) →
      Spared (.text ".bak") paths w₁.files ((body summary).runIn w₁).2.files := by
    intro summary w₁ hbackUp
    rw [hbackUp] at hbackup hfree
    exact ⟨rfl, fun p hp s hs node hnode => (hbackup p hp s hs).trans hnode, fun p hp _ => hfree p hp⟩
  refine ⟨hfile, hsep, ?_⟩
  rcases session_undoes true (by decide) (by decide) hfile hsep hbody with ⟨⟨p, hp, hnot⟩, _⟩ | ⟨_, hruns⟩
  · exact absurd (hfits p hp) hnot
  · obtain ⟨summary, w₁, ended, left, w', hbackUp, hran, hrun, hends⟩ := hruns
    rw [hbackUp] at hgone
    cases hran
    exact ⟨_, w', hgone, hrun, hends.undone (Or.inr rfl)⟩

end Backup

end Amalgam
