import Amalgam.Proofs.Bundle.Frame
import Amalgam.Proofs.Bundle.MergerView
/-!
# The bundle that a run reports

A run that reports success has called its merger, which has returned, and names the path that it gave it. What is there
when the run is over need not be what the merger left: between the two comes the restore. It leaves the bundle alone
unless the bundle is at a file of the plan or at a backup of one, and there it does not look what it takes away: a
bundle in the place of a file is replaced by the file as it was, and a bundle in the place of a backup is taken for the
backup and removed.
-/

namespace Amalgam

open FileSystem Backup

namespace Backup

/-! ### What a restore leaves alone -/

variable {suffix : Value} {paths : List Path} {xs : List Site} {fs fs' : FileSystem} {path : String}

/-- A path leads neither to where a restore puts a file nor to a backup. -/
def Aside (suffix : Value) (paths : List Path) (fs : FileSystem) (path : String) : Prop :=
  ∀ p ∈ paths, ∀ s, siblingPath suffix p = .ok s →
    ¬ fs.SamePlace path (fs.copyTarget s p).path ∧ ¬ fs.SamePlace path s.text

instance : Decidable (Aside suffix paths fs path) :=
  inferInstanceAs (Decidable (∀ p ∈ paths, ∀ s, siblingPath suffix p = .ok s →
    ¬ fs.SamePlace path (fs.copyTarget s p).path ∧ ¬ fs.SamePlace path s.text))

theorem Aside.of_sameFolders (h : Aside suffix paths fs path) (hsame : SameFolders fs fs') :
    Aside suffix paths fs' path := by
  intro p hp s hs
  rw [hsame.copyTarget_eq]
  simp only [SamePlace, hsame.locate_ok]
  exact h p hp s hs

theorem restoreAll_probe_eq {w : World} (h : Aside suffix paths w.files path) :
    ((restoreAll suffix paths).runIn w).2.files.probe path = w.files.probe path := by
  have hcovers : CoversRestore (fun other => ∃ p ∈ paths, ∃ s, siblingPath suffix p = .ok s ∧
      (other = (w.files.copyTarget s p).path ∨ other = s.text)) suffix w.files paths :=
    ⟨fun p hp s hs => ⟨p, hp, s, hs, Or.inl rfl⟩, fun p hp s hs _ => ⟨p, hp, s, hs, Or.inr rfl⟩⟩
  refine (restoreAll_keeps hcovers w (.refl _ _)).probe_eq ?_
  rintro _ ⟨p, hp, s, hs, rfl | rfl⟩
  · exact (h p hp s hs).1
  · exact (h p hp s hs).2

theorem restoreAll_sameFolders (suffix : Value) (paths : List Path) (w : World) :
    SameFolders w.files ((restoreAll suffix paths).runIn w).2.files := by
  have hcovers : CoversRestore (fun _ => True) suffix w.files paths :=
    ⟨fun _ _ _ _ => trivial, fun _ _ _ _ _ => trivial⟩
  exact (restoreAll_keeps hcovers w (.refl _ _)).sameFolders

/-- Whatever stands at a backup path is taken for the backup and removed. -/
theorem restoreAll_spot {x : Site} {w : World} (hready : Ready suffix fs xs) (hx : x ∈ xs)
    (hsame : SameFolders fs w.files) :
    ((restoreAll suffix (xs.map Site.path)).runIn w).2.files.node? x.spot = none := by
  have hin := hready.isIn x hx
  obtain ⟨text, rfl, hmade⟩ := hin.made
  -- The passes are followed from a state without the backup, in which the spot is owed by its file.
  have herase := changesOnly_erase hin.locate_sibling (hready.free x hx)
  have hsites : ∀ y ∈ xs, y.In (.text text) (fs.erase x.spot) :=
    fun y hy => (hready.isIn y hy).of_sameFolders herase.sameFolders
  have hbeside : ∀ y ∈ xs, y.path.beside text = y.sibling := by
    intro y hy
    obtain ⟨_, htext, hmade'⟩ := (hready.isIn y hy).made
    cases htext
    exact hmade'.sibling_eq.symm
  have hvacant : Vacant text (fs.erase x.spot) (xs.map Site.path) x.spot := by
    refine ⟨hmade.usable, ?_, ?_, node?_erase_self _ hin.spot_ne_nil, ?_⟩
    · intro p hp
      obtain ⟨y, hy, rfl⟩ := List.mem_map.mp hp
      exact (hready.isIn y hy).plain
    · intro p hp
      obtain ⟨y, hy, rfl⟩ := List.mem_map.mp hp
      obtain ⟨bytes, executable, hfile⟩ := hready.file y hy
      refine ⟨bytes, executable, (hsites y hy).stat_eq_ok_iff.mpr ?_⟩
      rw [node?_erase_other _ (hready.apart y hy x hx), hfile]
    · intro p hp hplace
      obtain ⟨y, hy, rfl⟩ := List.mem_map.mp hp
      have hfree : (fs.erase x.spot).isDirectory y.sibling.text = false := by
        rw [herase.sameFolders.isDirectory_eq, Bool.eq_false_iff, ne_eq, isDirectory_iff,
          (hready.isIn y hy).stat_sibling_eq_ok_iff]
        exact hready.free y hy
      rw [hbeside y hy, copyTarget, hfree, if_neg Bool.false_ne_true] at hplace
      have hspot : y.spot = x.spot := Except.ok.inj ((hsites y hy).locate_sibling.symm.trans hplace)
      have hnone : (fs.erase x.spot).node? y.spot = none := by rw [hspot, node?_erase_self _ hin.spot_ne_nil]
      rw [hbeside y hy, leadsSomewhere, (hsites y hy).stat_sibling_none hnone]
  have hlocated : Located text (fs.erase x.spot) (xs.map Site.path) := by
    intro p hp
    obtain ⟨y, hy, rfl⟩ := List.mem_map.mp hp
    exact ⟨y.spot, by rw [hbeside y hy, (hsites y hy).locate_sibling]⟩
  have howed : Owed text (fs.erase x.spot) x.spot (xs.map Site.path) w.files := by
    refine ⟨herase.sameFolders.symm.trans hsame, fun _ => ⟨x.path, List.mem_map_of_mem hx, ?_⟩⟩
    rw [hbeside x hx, (hsites x hx).locate_sibling]
  exact (restoreAll_owed w hvacant hlocated howed).node_eq_none

end Backup

namespace Bundler

/-! ### What is noted in the result -/

/-- A property of the result that nothing spoils which a run notes on its way. -/
structure Robust (prop : BundleResult → Prop) : Prop where
  noted : ∀ {result : BundleResult} (renames : Renames) (warnings restored : List String),
    prop result → prop { result with renames := renames, warnings := warnings, restoredFiles := restored }
  found : ∀ {result : BundleResult} (csv : String), prop result →
    prop { result with metadata := Fields.put result.metadata (.text "symbols_path") (.text csv) }
  planned : ∀ {result : BundleResult} (p : Plan), prop result →
    prop { result with metadata := Fields.put result.metadata (.text "planned") (plannedValue p) }

section Robust

variable {prop : BundleResult → Prop}

theorem runSession_keepsResult (h : Robust prop) (b : Bundler) (p : Plan) (src out : Path) (args : List String) :
    (b.runSession p src out args).KeepsResult prop := by
  refine (Work.KeepsResult.lift _).bind fun _ => ?_
  refine Work.KeepsResult.bind (.tryCatch ?_ fun failure => ?_) fun _ => .note fun result => h.noted _ _ _
  · exact session_keepsResult _ _ fun _ =>
      renameAndMerge_keepsResult (fun result _ _ => h.noted _ _ result.restoredFiles) b p src out args
  · dsimp only
    split_ifs
    · refine Work.KeepsResult.bind (.note ?_) fun _ => .throw failure
      exact fun result => h.noted _ _ result.restoredFiles
    · exact .throw failure

theorem bundleByTable_keepsResult (h : Robust prop) (b : Bundler) (csv src out : Path) (args : List String)
    (dryRun : Bool) : (b.bundleByTable csv src out args dryRun).KeepsResult prop := by
  refine (Work.KeepsResult.lift _).bind fun _ => (Work.KeepsResult.lift _).bind fun p => ?_
  refine Work.KeepsResult.bind (.note fun _ => h.found csv.text) fun _ => Work.KeepsResult.bind ?_ fun missing => ?_
  · intro result w hresult
    obtain ⟨found, hrun, _⟩ := filterM_isMissing (p.map Prod.fst) result w
    have hsame := congrArg (fun run : (Except Failure (List String) × BundleResult) × World => run.1.2) hrun
    exact hsame ▸ hresult
  · dsimp only
    split_ifs
    · exact (Work.KeepsResult.throw _).bind fun _ => .note fun _ => h.planned p
    · exact (Work.KeepsResult.throw _).bind fun _ => (runSession_keepsResult h b p src out args).bind fun _ => .lift _
    · exact .note fun _ => h.planned p
    · exact (runSession_keepsResult h b p src out args).bind fun _ => .lift _

theorem proceed_keepsResult (h : Robust prop) (b : Bundler) (src out : Path) (table : Option String)
    (args : List String) (dryRun : Bool) : (b.proceed src out table args dryRun).KeepsResult prop := by
  unfold proceed
  extract_lets rest
  have hrest : ∀ u, (rest u).KeepsResult prop := by
    intro u
    refine (Work.KeepsResult.lift _).bind fun found => ?_
    split
    · unfold bundlePlain
      split_ifs
      · exact .note fun result => h.noted _ _ result.restoredFiles
      · exact (Work.KeepsResult.lift _).bind fun _ => .lift _
    · exact bundleByTable_keepsResult h b _ src out args dryRun
  split_ifs
  · exact (Work.KeepsResult.lift _).bind hrest
  · exact hrest ()

theorem bundleWork_keepsResult (h : Robust prop)
    (hout : ∀ {result : BundleResult} (out : String), prop result → prop { result with outputPath := some out })
    (b : Bundler) (source table output : Option String) (args : List String) (dryRun : Bool) :
    (b.bundleWork source table output args dryRun).KeepsResult prop := by
  refine (Work.KeepsResult.lift _).bind fun src => ?_
  extract_lets rest
  have hrest : ∀ out, (rest out).KeepsResult prop := fun out =>
    Work.KeepsResult.bind (.note fun _ => hout out.text) fun _ => proceed_keepsResult h b src out table args dryRun
  split
  · exact hrest _
  · exact (Work.KeepsResult.lift _).bind hrest

end Robust

/-- Nothing is reported yet, and the bundle goes to a path. -/
def Pending (path : String) (result : BundleResult) : Prop :=
  result.success = false ∧ result.outputPath = some path

theorem pending_robust (path : String) : Robust (Pending path) :=
  ⟨fun _ _ _ h => h, fun _ h => h, fun _ h => h⟩

theorem Hands.unique {source output : Option String} {src src' out out' : Path} (h : Hands source output src out)
    (h' : Hands source output src' out') : src = src' ∧ out = out' := by
  obtain ⟨s, hs, _, rfl⟩ := h.source_eq
  obtain ⟨s', hs', _, rfl⟩ := h'.source_eq
  obtain rfl : s = s' := Option.some.inj (hs.symm.trans hs')
  refine ⟨rfl, ?_⟩
  rcases h.output_eq with ⟨o, rfl, hne, rfl⟩ | ⟨hnone, hdefault⟩
  · exact (h'.out_eq hne).symm
  · rcases h'.output_eq with ⟨o, rfl, hne, rfl⟩ | ⟨_, hdefault'⟩
    · rcases hnone with hnone | hnone
      · cases hnone
      · exact absurd (Option.some.inj hnone) hne
    · exact Except.ok.inj (hdefault.symm.trans hdefault')

theorem bundle_succeeded {b : Bundler} {source table output : Option String} {args : List String} {dryRun : Bool}
    {result : BundleResult} {w w' : World}
    (hrun : (b.bundle source table output args dryRun).runIn w = (.ok result, w'))
    (hsuccess : result.success = true) : ∃ result₀,
      (b.bundleWork source table output args dryRun).runIn (freshResult dryRun) w = ((.ok (), result₀), w') ∧
        ∀ src out, Hands source output src out → result.outputPath = some out.text := by
  rw [bundle_runIn] at hrun
  have hsucceeds : Succeeds (concluded ((b.bundleWork source table output args dryRun).runIn (freshResult dryRun) w)) :=
    ⟨result, by rw [hrun], hsuccess⟩
  rcases bundleWork_runIn b source table output args dryRun (freshResult dryRun) w with
    ⟨failure, w₁, _, hwork⟩ | ⟨src, out, w₁, hhands, _, hwork⟩
  · have hfailed : (b.bundleWork source table output args dryRun).runIn (freshResult dryRun) w = _ :=
      hwork b.merger.merge
    rw [hfailed] at hsucceeds
    have hended := succeeds_concluded rfl hsucceeds
    cases hended
  · have hwork' : (b.bundleWork source table output args dryRun).runIn (freshResult dryRun) w = _ :=
      hwork b.merger.merge
    have hpending := proceed_keepsResult (pending_robust out.text) b src out table args dryRun
      { freshResult dryRun with outputPath := some out.text } w₁ ⟨rfl, rfl⟩
    rw [withMerge_self] at hwork'
    rw [← hwork'] at hpending
    have hended := succeeds_concluded hpending.1 hsucceeds
    rcases hran : (b.bundleWork source table output args dryRun).runIn (freshResult dryRun) w with
      ⟨⟨ended, result₀⟩, w₂⟩
    rw [hran] at hended hpending hrun
    obtain rfl : ended = .ok () := hended
    cases hrun
    refine ⟨result₀, rfl, fun src' out' hhands' => ?_⟩
    rw [← (hhands.unique hhands').2]
    exact hpending.2

/-! ### A run without a session -/

theorem bundlePlain_ok {b : Bundler} {src out : Path} {args : List String} {result result' : BundleResult}
    {w w' : World} (h : (b.bundlePlain src out args false).runIn result w = ((.ok (), result'), w')) :
    ∃ left, (b.merger.merge src out args).runIn w = (.ok (), left) ∧ w'.files = left.files := by
  obtain ⟨_, result₁, left, hmerge, hlog⟩ := Work.runIn_bind_eq_ok h
  simp only [Work.runIn_lift, Prod.mk.injEq] at hmerge
  cases hlog
  exact ⟨left, Prod.ext hmerge.1.1 hmerge.2, rfl⟩

/-! ### The session of a run that succeeds -/

/-- A session succeeds only if its body does, and then it ends with a restore. -/
theorem afterBody_ok {suffix : Value} {paths : List Path} {restoreOnFailure : Bool}
    {ran : (Except Failure Unit × BundleResult) × World}
    (h : (afterBody suffix paths restoreOnFailure ran).1.1 = .ok ()) : ran.1.1 = .ok () ∧
      (afterBody suffix paths restoreOnFailure ran).2 = ((restoreAll suffix paths).runIn ran.2).2 := by
  rcases ran with ⟨⟨failure | ⟨⟩, result⟩, w⟩
  · simp only [afterBody] at h
    generalize ((endSession suffix paths restoreOnFailure _).runIn w).1 = ended at h
    cases ended <;> cases h
  · exact ⟨rfl, rfl⟩

/-- A session of a plan that succeeds has backed up, renamed, merged and restored. -/
theorem planSession_ok {b : Bundler} {p : Plan} {src out : Path} {args : List String} {result : BundleResult}
    {w : World} (hok : ((b.planSession p src out args).runIn result w).1.1 = .ok ()) : ∃ summary result₁ w₁ w₂ left,
      (backUp b.settings.rename.backupSuffix (planPaths p)).runIn w = (.ok summary, w₁) ∧
      (b.renameAll p).runIn result w₁ = ((.ok (), result₁), w₂) ∧
      (b.merger.merge src out args).runIn w₂ = (.ok (), left) ∧
      ((b.planSession p src out args).runIn result w).2 =
        ((restoreAll b.settings.rename.backupSuffix (planPaths p)).runIn left).2 ∧
      ∃ finish : Except Failure Unit × World → (Except Failure Unit × BundleResult) × World, ∀ merge,
        ((b.withMerge merge).planSession p src out args).runIn result w = finish ((merge src out args).runIn w₂) := by
  have hrun := planSession_runIn b p src out args result w
  rcases hbackUp : (backUp b.settings.rename.backupSuffix (planPaths p)).runIn w with ⟨failure | summary, w₁⟩
  · simp only [hbackUp] at hrun
    rw [← withMerge_self b, hrun] at hok
    cases hok
  · simp only [hbackUp] at hrun
    rcases hrename : (b.renameAll p).runIn result w₁ with ⟨⟨failure | ⟨⟩, result₁⟩, w₂⟩
    · simp only [hrename] at hrun
      rw [← withMerge_self b, hrun] at hok
      cases (afterBody_ok hok).1
    · simp only [hrename] at hrun
      rcases hmerge : (b.merger.merge src out args).runIn w₂ with ⟨ended, left⟩
      have hself := hrun b.merger.merge
      rw [withMerge_self, hmerge] at hself
      rw [hself] at hok ⊢
      obtain ⟨hended, hrestored⟩ := afterBody_ok hok
      obtain rfl : ended = .ok () := hended
      exact ⟨summary, result₁, w₁, w₂, left, rfl, hrename, hmerge, hrestored,
        fun ended => afterBody b.settings.rename.backupSuffix (planPaths p) b.restoresOnFailure
          ((ended.1, result₁), ended.2), hrun⟩

section BeforeMerge

variable {b : Bundler} {p : Plan} {summary : Summary} {result result₁ : BundleResult} {w w₁ w₂ : World}

/-- Directories are as they were when the merger is called. -/
theorem sameFolders_of_renameAll (hfile : ∀ path ∈ planPaths p, w.files.FileAt path.text)
    (hbackUp : (backUp b.settings.rename.backupSuffix (planPaths p)).runIn w = (.ok summary, w₁))
    (hrename : (b.renameAll p).runIn result w₁ = ((.ok (), result₁), w₂)) : SameFolders w.files w₂.files := by
  have hcovers : Covers (fun _ => True) b.settings.rename.backupSuffix w.files (planPaths p) :=
    ⟨fun path hpath => not_isDirectory_of_fileAt (hfile path hpath), fun _ _ => trivial, fun _ _ _ _ => trivial⟩
  have hbacked := backUpFrom_keeps [] (planPaths p) hcovers w (.refl _ _)
  rw [← backUp, hbackUp] at hbacked
  have hkeeps : (b.renameAll p).Keeps (SameFolders w.files) :=
    renameAll_keeps fun _ _ _ _ hchange hsame => hsame.trans hchange.sameFolders
  have hrenamed := hkeeps result w₁ hbacked.sameFolders
  rwa [hrename] at hrenamed

/-- The files of the plan are guarded when its renames have ended. -/
theorem guarded_of_renameAll {ended : Except Failure Unit} (hfile : ∀ path ∈ planPaths p, w.files.FileAt path.text)
    (hsep : Separate b.settings.rename.backupSuffix w.files (planPaths p))
    (hbackUp : (backUp b.settings.rename.backupSuffix (planPaths p)).runIn w = (.ok summary, w₁))
    (hrename : (b.renameAll p).runIn result w₁ = ((ended, result₁), w₂)) : ∃ xs, xs.map Site.path = planPaths p ∧
      Ready b.settings.rename.backupSuffix w.files xs ∧ Guarded b.settings.rename.backupSuffix xs w.files w₂.files := by
  have hends := backUp_ends w (fun path hpath => plain_of_mem_planPaths hpath) hfile hsep
  rw [hbackUp] at hends
  cases hends with
  | @backed xs _ hpaths hready hbacked =>
    have hkeeps : (b.renameAll p).Keeps (Guarded b.settings.rename.backupSuffix xs w.files) := by
      refine renameAll_keeps fun path hpath fs fs' hchange hguarded => guarded_of_rename hready ?_ hchange hguarded
      rintro _ rfl
      rw [← hpaths] at hpath
      obtain ⟨x, hx, rfl⟩ := List.mem_map.mp hpath
      exact ⟨x, hx, rfl⟩
    have hguarded := hkeeps result w₁ (hbacked.guarded hready)
    rw [hrename] at hguarded
    exact ⟨xs, hpaths, hready, hguarded⟩

end BeforeMerge

/-! ### The bundle after the restore -/

/-- What becomes of a bundle that a merger has left. A restore that does not go there leaves it alone. If no file of the
plan is a backup of one and the merger has changed the bundle only, a restore that does go there puts back the file that
was in its place or removes it with the backup. -/
structure Delivered (suffix : Value) (paths : List Path) (before called left after : FileSystem) (out : String) :
    Prop where
  aside : Aside suffix paths left out → after.probe out = left.probe out
  file : Separate suffix before paths → ChangesOnly (· = out) called left → ∀ p ∈ paths,
    before.SamePlace out p.text → after.probe out = before.probe out
  backup : Separate suffix before paths → ChangesOnly (· = out) called left → ∀ p ∈ paths, ∀ s,
    siblingPath suffix p = .ok s → before.SamePlace out s.text → after.probe out = .ok none

theorem delivered_nil (suffix : Value) (before called left : FileSystem) (out : String) :
    Delivered suffix [] before called left left out :=
  ⟨fun _ => rfl, by simp, by simp⟩

theorem delivered_of_restore {b : Bundler} {p : Plan} {out : Path} {summary : Summary} {result result₁ : BundleResult}
    {w w₁ w₂ : World} (hfile : ∀ path ∈ planPaths p, w.files.FileAt path.text)
    (hbackUp : (backUp b.settings.rename.backupSuffix (planPaths p)).runIn w = (.ok summary, w₁))
    (hrename : (b.renameAll p).runIn result w₁ = ((.ok (), result₁), w₂)) (left : World) :
    Delivered b.settings.rename.backupSuffix (planPaths p) w.files w₂.files left.files
      ((restoreAll b.settings.rename.backupSuffix (planPaths p)).runIn left).2.files out.text := by
  have hrenamed := sameFolders_of_renameAll hfile hbackUp hrename
  have hrestored := restoreAll_sameFolders b.settings.rename.backupSuffix (planPaths p) left
  refine ⟨restoreAll_probe_eq, fun hsep hmerge path hpath hplace => ?_, fun hsep hmerge path hpath s hs hplace => ?_⟩
  · obtain ⟨xs, hpaths, hready, hguarded⟩ := guarded_of_renameAll hfile hsep hbackUp hrename
    rw [← hpaths] at hpath
    obtain ⟨x, hx, rfl⟩ := List.mem_map.mp hpath
    obtain ⟨r, hout, hroute⟩ := hplace
    obtain rfl : x.route = r := Except.ok.inj ((hready.isIn x hx).locate.symm.trans hroute)
    -- The bundle is at a file, so at no backup.
    have hguarded' : Guarded b.settings.rename.backupSuffix xs w.files left.files := by
      refine hguarded.of_changesOnly hmerge ?_
      rintro _ rfl y hy ⟨r', hr', hspot⟩
      rw [hrenamed.locate_ok.mpr hout, Except.ok.injEq] at hr'
      rw [(hguarded.isIn y hy).locate_sibling, Except.ok.injEq] at hspot
      exact hready.apart x hx y hy (hr'.trans hspot.symm)
    obtain ⟨w', hrun, hback⟩ := restoreAll_sites left hready hguarded'.held
    rw [hpaths] at hrun
    rw [hrun] at hrestored ⊢
    refine ((hrenamed.trans hmerge.sameFolders).trans hrestored).probe_eq fun r hr => ?_
    rw [hout, Except.ok.injEq] at hr
    rw [← hr]
    exact hback.route hready hx hx
  · obtain ⟨xs, hpaths, hready, _⟩ := guarded_of_renameAll hfile hsep hbackUp hrename
    rw [← hpaths] at hpath
    obtain ⟨x, hx, rfl⟩ := List.mem_map.mp hpath
    have hin := hready.isIn x hx
    obtain rfl : x.sibling = s := Except.ok.inj (hin.siblingPath_eq.symm.trans hs)
    obtain ⟨r, hout, hspot⟩ := hplace
    obtain rfl : x.spot = r := Except.ok.inj (hin.locate_sibling.symm.trans hspot)
    have hsame := hrenamed.trans hmerge.sameFolders
    have hnone := restoreAll_spot hready hx hsame
    rw [hpaths] at hnone
    rw [probe, stat_of_locate ((hsame.trans hrestored).locate_ok.mpr hout), hnone]

/-- The session of a run that succeeds, seen from the call of its merger. -/
theorem planSession_delivered {b : Bundler} {p : Plan} {src out : Path} {args : List String} {result : BundleResult}
    {w : World} (hfile : ∀ path ∈ planPaths p, w.files.FileAt path.text)
    (hok : ((b.planSession p src out args).runIn result w).1.1 = .ok ()) : ∃ w₁ left : World,
      (∃ finish : Except Failure Unit × World → (Except Failure Unit × BundleResult) × World, ∀ merge,
        ((b.withMerge merge).planSession p src out args).runIn result w = finish ((merge src out args).runIn w₁)) ∧
      SameFolders w.files w₁.files ∧ (b.merger.merge src out args).runIn w₁ = (.ok (), left) ∧
      Delivered b.settings.rename.backupSuffix (planPaths p) w.files w₁.files left.files
        ((b.planSession p src out args).runIn result w).2.files out.text := by
  obtain ⟨summary, result₁, w₁, w₂, left, hbackUp, hrename, hmerge, hend, hcalls⟩ := planSession_ok hok
  refine ⟨w₂, left, hcalls, sameFolders_of_renameAll hfile hbackUp hrename, hmerge, ?_⟩
  rw [hend]
  exact delivered_of_restore hfile hbackUp hrename left

/-- A run that reports success has called its merger, which has returned, and names the path of the bundle; what is
there when the run is over is what the merger left, unless the restore went there. -/
theorem bundle_delivered {b : Bundler} {source table output : Option String} {args : List String}
    {result : BundleResult} {w w' : World} (hquiet : b.Quiet)
    (hrun : (b.bundle source table output args false).runIn w = (.ok result, w')) (hsuccess : result.success = true) :
    ∃ (src out : Path) (w₁ left : World), Hands source output src out ∧ result.outputPath = some out.text ∧
      CallsIn w₁ src out args (fun merge => ((b.withMerge merge).bundle source table output args false).runIn w) ∧
      SameFolders w.files w₁.files ∧ (b.merger.merge src out args).runIn w₁ = (.ok (), left) ∧
      Delivered b.settings.rename.backupSuffix (planPaths (b.renamePlan source table w)) w.files w₁.files left.files
        w'.files out.text := by
  obtain ⟨result₀, hwork, hnamed⟩ := bundle_succeeded hrun hsuccess
  have hcourse : Course b source table output args false w fun merge =>
      ((b.withMerge merge).bundleWork source table output args false).runIn (freshResult false) w :=
    bundleWork_course hquiet rfl
  cases hcourse with
  | @idle run hended hresult hfiles hall =>
    have hself := hall b.merger.merge
    rw [withMerge_self, hwork] at hself
    rw [← hself] at hended
    cases hended rfl
  | @plain src out result₁ w₁ hhands hplan _ hfiles hall =>
    have hself := hall b.merger.merge
    rw [withMerge_self, hwork] at hself
    obtain ⟨left, hmerge, hleft⟩ := bundlePlain_ok hself.symm
    refine ⟨src, out, w₁, left, hhands, hnamed src out hhands, ⟨finished result₁ out, bundle_of_plain hall⟩,
      hfiles ▸ .refl _, hmerge, ?_⟩
    rw [renamePlan_eq hplan, hleft]
    exact delivered_nil _ _ _ _ _
  | @session src out p result₁ w₁ hhands hplan hfile hresult hfiles hall =>
    obtain rfl := renamePlan_eq hplan
    obtain ⟨w₂, hw₂, hsession⟩ := bundle_of_session hall
    have hself : (.ok result, w') = closed b (b.renamePlan source table w) out
        ((b.planSession (b.renamePlan source table w) src out args).runIn result₁ w₂) :=
      hrun.symm.trans (hsession b.merger.merge)
    have hsucceeds : Succeeds (closed b (b.renamePlan source table w) out
        ((b.planSession (b.renamePlan source table w) src out args).runIn result₁ w₂)) :=
      ⟨result, by rw [← hself], hsuccess⟩
    have hok := succeeds_closed (planSession_success b _ src out args result₁ w₂ hresult) hsucceeds
    have hafter : w'.files = _ := congrArg (fun run : Except Failure BundleResult × World => run.2.files) hself
    rw [files_closed] at hafter
    rw [← hfiles, ← hw₂] at hfile ⊢
    obtain ⟨w₃, left, ⟨finish, hcalls⟩, hsame, hmerge, hdelivered⟩ := planSession_delivered hfile hok
    refine ⟨src, out, w₃, left, hhands, hnamed src out hhands,
      ⟨fun ended => closed b (b.renamePlan source table w) out (finish ended), fun merge => ?_⟩, hsame, hmerge, ?_⟩
    · dsimp only
      rw [hsession, hcalls]
    · rw [hafter]
      exact hdelivered

/-- A name is changed in a header, and the bundle goes elsewhere. -/
theorem bundle_delivered_elsewhere :
    let b := smallBundler .always (bundlesThen (.ok ()))
    let w := smallWorld [(["a.c"], textFile "f"), (["b.h"], textFile "h"), (["t.csv"], tableFile "b.h:1,h,k\n")]
    let run := (b.bundle (some "a.c") (some "t.csv") (some "out.c") [] false).runIn w
    b.Quiet ∧ Succeeds run ∧ ∃ w₁ left : World,
      (b.merger.merge (Path.ofText "a.c") (Path.ofText "out.c") []).runIn w₁ = (.ok (), left) ∧
        run.2.files.probe (Path.ofText "out.c").text = left.files.probe (Path.ofText "out.c").text := by
  intro b w run
  have hquiet : b.Quiet := smallBundler_quiet _ _
  have hwrites : b.WritesBundleOnly (some "a.c") (some "out.c") [] := bundlesThen_writes _ _ _ _ _
  obtain ⟨hsucceeds, haside⟩ : Succeeds run ∧ Aside b.settings.rename.backupSuffix
      (planPaths (b.renamePlan (some "a.c") (some "t.csv") w)) w.files (Path.ofText "out.c").text := by
    decide +kernel
  have hrun : (b.bundle (some "a.c") (some "t.csv") (some "out.c") [] false).runIn w = run := rfl
  -- All that is to be computed is computed; the rest holds of any run.
  clear_value run w b
  refine ⟨hquiet, hsucceeds, ?_⟩
  obtain ⟨ended, w'⟩ := run
  obtain ⟨result, rfl, hsuccess⟩ := hsucceeds
  obtain ⟨src, out, w₁, left, hhands, _, _, hsame, hmerge, hdelivered⟩ := bundle_delivered hquiet hrun hsuccess
  have hleft := hwrites src out hhands w₁
  rw [hmerge] at hleft
  obtain ⟨s, hs, _, rfl⟩ := hhands.source_eq
  obtain rfl : "a.c" = s := Option.some.inj hs
  obtain rfl := hhands.out_eq (by decide)
  exact ⟨w₁, left, hmerge, hdelivered.aside (haside.of_sameFolders (hsame.trans hleft.sameFolders))⟩

theorem read_of_bundlesThen (src out : Path) (args : List String) {w left : World}
    (h : (bundlesThen (.ok ()) src out args).runIn w = (.ok (), left)) :
    left.files.read out.text = .ok (Text.utf8Encoded (Text.glyphs "f")) := by
  obtain ⟨_, w₁, hwrite, hend⟩ := Action.runIn_bind_eq_ok h
  obtain ⟨c, bytes, r, hc, hwritable, hencode, rfl⟩ := Action.writeText_ok hwrite
  obtain rfl : .utf8 = c := Option.some.inj hc
  obtain rfl : Text.utf8Encoded (Text.glyphs "f") = bytes := Except.ok.inj hencode
  obtain ⟨_, rfl⟩ := Action.runIn_ofExcept_eq_ok hend
  exact read_putBytes hwritable _

/-- The bundle goes to a header in which a name is changed. In whatever state the merger returns, it leaves its text
there; the run reports success and that path, and the header holds what it held before. -/
theorem bundle_replaced_by_original :
    let b := smallBundler .always (bundlesThen (.ok ()))
    let w := smallWorld [(["a.c"], textFile "f"), (["b.h"], textFile "h"), (["t.csv"], tableFile "b.h:1,h,k\n")]
    let run := (b.bundle (some "a.c") (some "t.csv") (some "b.h") [] false).runIn w
    Succeeds run ∧ run.1.toOption.bind BundleResult.outputPath = some "b.h" ∧
      (∀ w₁ left : World, (b.merger.merge (Path.ofText "a.c") (Path.ofText "b.h") []).runIn w₁ = (.ok (), left) →
        left.files.read "b.h" = .ok (Text.utf8Encoded (Text.glyphs "f"))) ∧
      run.2.files.read "b.h" = .ok (Text.utf8Encoded (Text.glyphs "h")) := by
  intro b w run
  have htext : (Path.ofText "b.h").text = "b.h" := by decide +kernel
  obtain ⟨hsucceeds, hpath, hheader⟩ : Succeeds run ∧ run.1.toOption.bind BundleResult.outputPath = some "b.h" ∧
      run.2.files.read "b.h" = .ok (Text.utf8Encoded (Text.glyphs "h")) := by
    decide +kernel
  refine ⟨hsucceeds, hpath, fun w₁ left hmerge => ?_, hheader⟩
  have hread := read_of_bundlesThen (Path.ofText "a.c") (Path.ofText "b.h") [] hmerge
  rwa [htext] at hread

end Bundler

end Amalgam
