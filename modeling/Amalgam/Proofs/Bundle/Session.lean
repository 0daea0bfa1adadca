import Amalgam.Proofs.Backup.Session
import Amalgam.Proofs.Bundle.Stages
import Amalgam.Proofs.Rename.File
/-!
# The session of a bundle run

What stands around the session of a run adds to the result and to the journal only: the files of a run are the files
that its session leaves, and it succeeds when its session does. Renaming in the files of a plan keeps them guarded.
-/

namespace Amalgam

open Amalgam.Text Amalgam.Symbols Amalgam.Config FileSystem Backup

namespace Bundler

/-- The session in which a plan is carried out. -/
def planSession (b : Bundler) (p : Plan) (src out : Path) (args : List String) : Work Unit :=
  Backup.session b.settings.rename.backupSuffix (planPaths p) b.restoresOnFailure fun _ =>
    b.renameAndMerge p src out args

/-- What a run adds to its result when its session has ended. -/
def annotated (b : Bundler) (p : Plan) :
    (Except Failure Unit × BundleResult) × World → (Except Failure Unit × BundleResult) × World
  | ((.ok (), result), w) => ((.ok (), { result with restoredFiles := p.map Prod.fst }), w)
  | ((.error failure, result), w) =>
    ((.error failure, if isReported failure && !b.restoresOnFailure then { result with
      warnings := result.warnings ++ ["Modified files left in place with backups: " ++ joined ", " (p.map Prod.fst)] }
      else result), w)

theorem runSession_runIn (b : Bundler) (p : Plan) (src out : Path) (args : List String) (result : BundleResult)
    (w : World) : ∃ w₁ : World, w₁.files = w.files ∧ ∀ merge,
      ((b.withMerge merge).runSession p src out args).runIn result w =
        annotated b p (((b.withMerge merge).planSession p src out args).runIn result w₁) := by
  obtain ⟨w₁, hfiles, hlog⟩ := Action.exists_runIn_log .info logger
    ("Backing up " ++ numeral (p.map Prod.fst).length ++ " original files ...") w
  refine ⟨w₁, hfiles, fun merge => ?_⟩
  rw [runSession, Work.runIn_lift_bind, hlog]
  dsimp only
  rw [Work.runIn_bind, Work.runIn_tryCatch]
  have hpaths : (p.map Prod.fst).map Path.ofText = planPaths p := by simp [planPaths]
  have hsession : Backup.session (b.withMerge merge).settings.rename.backupSuffix ((p.map Prod.fst).map Path.ofText)
      (b.withMerge merge).restoresOnFailure (fun _ => (b.withMerge merge).renameAndMerge p src out args) =
        (b.withMerge merge).planSession p src out args := by rw [hpaths, planSession]
  rw [hsession]
  rcases ((b.withMerge merge).planSession p src out args).runIn result w₁ with ⟨⟨failure | ⟨⟩, result'⟩, w₂⟩
  · have hpolicy : (b.withMerge merge).restoresOnFailure = b.restoresOnFailure := rfl
    simp only [hpolicy, annotated]
    by_cases hnote : (isReported failure && !b.restoresOnFailure) = true
    · rw [if_pos hnote, if_pos hnote]
      rfl
    · rw [if_neg hnote, if_neg hnote]
      rfl
  · rfl

/-- What a run makes of the way its session ends. -/
def closed (b : Bundler) (p : Plan) (out : Path) (run : (Except Failure Unit × BundleResult) × World) :
    Except Failure BundleResult × World :=
  concluded (match annotated b p run with
    | ((.ok (), result), w) => ((.ok (), result), { w with
        journal := w.journal ++ [.logged ⟨.info, logger, "Bundled source written to " ++ out.text⟩] })
    | ((.error failure, result), w) => ((.error failure, result), w))

theorem files_closed (b : Bundler) (p : Plan) (out : Path) (run : (Except Failure Unit × BundleResult) × World) :
    (closed b p out run).2.files = run.2.files := by
  rw [closed, files_concluded]
  rcases run with ⟨⟨failure | ⟨⟩, result⟩, w⟩ <;> rfl

/-- A run with a session ends as its session does, but for the result and the journal. -/
theorem runSession_closed (b : Bundler) (p : Plan) (src out : Path) (args : List String) (result : BundleResult)
    (w : World) : ∃ w₁ : World, w₁.files = w.files ∧ ∀ merge,
      concluded ((do
        (b.withMerge merge).runSession p src out args
        Action.log .info logger ("Bundled source written to " ++ out.text) : Work Unit).runIn result w) =
        closed b p out (((b.withMerge merge).planSession p src out args).runIn result w₁) := by
  obtain ⟨w₁, hfiles, hrun⟩ := runSession_runIn b p src out args result w
  refine ⟨w₁, hfiles, fun merge => ?_⟩
  rw [Work.runIn_bind, hrun, closed]
  rcases ((b.withMerge merge).planSession p src out args).runIn result w₁ with ⟨⟨failure | ⟨⟩, result'⟩, w₂⟩ <;> rfl

/-- The run returns a result that reports success. -/
def Succeeds (run : Except Failure BundleResult × World) : Prop :=
  ∃ result, run.1 = .ok result ∧ result.success = true

instance (run : Except Failure BundleResult × World) : Decidable (Succeeds run) :=
  match h : run.1 with
  | .ok result => decidable_of_iff (result.success = true) (by simp [Succeeds, h])
  | .error _ => isFalse fun ⟨_, hok, _⟩ => nomatch h.symm.trans hok

theorem succeeds_concluded {run : (Except Failure Unit × BundleResult) × World} (hresult : run.1.2.success = false)
    (h : Succeeds (concluded run)) : run.1.1 = .ok () := by
  obtain ⟨result, hok, hsuccess⟩ := h
  rcases run with ⟨⟨failure | ⟨⟩, result'⟩, w⟩
  · have hfalse : result'.success = false := hresult
    simp only [concluded] at hok
    split_ifs at hok
    cases hok
    rw [hfalse] at hsuccess
    cases hsuccess
  · rfl

theorem succeeds_closed {b : Bundler} {p : Plan} {out : Path} {run : (Except Failure Unit × BundleResult) × World}
    (hresult : run.1.2.success = false) (h : Succeeds (closed b p out run)) : run.1.1 = .ok () := by
  rcases run with ⟨⟨failure | ⟨⟩, result'⟩, w⟩
  · have hresult' : (annotated b p ((.error failure, result'), w)).1.2.success = false := by
      simp only [annotated]
      split_ifs <;> exact hresult
    have herror := succeeds_concluded hresult' h
    cases herror
  · rfl

/-- How a run goes as a function of what its merger does when it is called: it ends before that with the files as they
were, it merges without a session, or it goes through a session. -/
inductive RunsAs (b : Bundler) (source table output : Option String) (args : List String) (dryRun : Bool) (w : World)
    (run : Merge → Except Failure BundleResult × World) : Prop
  | idle {ended : Except Failure BundleResult × World} (hended : Succeeds ended → dryRun = true)
      (hfiles : ended.2.files = w.files) (hrun : ∀ merge, run merge = ended)
  | merged {src out : Path} {w₁ : World} {finish : Except Failure Unit × World → Except Failure BundleResult × World}
      (hhands : Hands source output src out) (hplan : ((b.tablePlan source table).runIn w).1 = .ok [])
      (hfiles : w₁.files = w.files) (hfinish : ∀ ended, (finish ended).2.files = ended.2.files)
      (hrun : ∀ merge, run merge = finish ((merge src out args).runIn w₁))
  | session {src out : Path} {p : Plan} {result : BundleResult} {w₁ : World} (hhands : Hands source output src out)
      (hplan : ((b.tablePlan source table).runIn w).1 = .ok p)
      (hfile : ∀ path ∈ planPaths p, w.files.FileAt path.text) (hresult : result.success = false)
      (hfiles : w₁.files = w.files) (hrun : ∀ merge, run merge = closed b p out
        (((b.withMerge merge).planSession p src out args).runIn result w₁))

/-- What a run without a session makes of the way its merger ends. -/
def finished (result : BundleResult) (out : Path) : Except Failure Unit × World → Except Failure BundleResult × World
  | (.ok (), w) => concluded ((.ok (), result), { w with
      journal := w.journal ++ [.logged ⟨.info, logger, "Bundled source written to " ++ out.text⟩] })
  | (.error failure, w) => concluded ((.error failure, result), w)

theorem bundlePlain_concluded (b : Bundler) (src out : Path) (args : List String) (merge : Merge)
    (result : BundleResult) (w : World) : concluded (((b.withMerge merge).bundlePlain src out args false).runIn result w) =
      finished result out ((merge src out args).runIn w) := by
  change concluded (((liftM (merge src out args) : Work Unit) >>= _).runIn result w) = _
  rw [Work.runIn_lift_bind]
  rcases (merge src out args).runIn w with ⟨failure | ⟨⟩, w'⟩ <;> rfl

section Work

variable {b : Bundler} {source table output : Option String} {args : List String} {dryRun : Bool} {p : Plan}
  {src out : Path} {result : BundleResult} {w w₁ : World}

theorem bundle_of_plain
    (hrun : ∀ merge, ((b.withMerge merge).bundleWork source table output args dryRun).runIn (freshResult dryRun) w =
      ((b.withMerge merge).bundlePlain src out args false).runIn result w₁) (merge : Merge) :
    ((b.withMerge merge).bundle source table output args dryRun).runIn w =
      finished result out ((merge src out args).runIn w₁) := by
  rw [bundle_runIn, hrun, bundlePlain_concluded]

theorem bundle_of_session
    (hrun : ∀ merge, ((b.withMerge merge).bundleWork source table output args dryRun).runIn (freshResult dryRun) w = (do
      (b.withMerge merge).runSession p src out args
      Action.log .info logger ("Bundled source written to " ++ out.text) : Work Unit).runIn result w₁) :
    ∃ w₂ : World, w₂.files = w₁.files ∧ ∀ merge,
      ((b.withMerge merge).bundle source table output args dryRun).runIn w =
        closed b p out (((b.withMerge merge).planSession p src out args).runIn result w₂) := by
  obtain ⟨w₂, hfiles, hclosed⟩ := runSession_closed b p src out args result w₁
  refine ⟨w₂, hfiles, fun merge => ?_⟩
  rw [bundle_runIn, hrun, hclosed]

end Work

theorem bundle_runsAs {b : Bundler} (hquiet : b.Quiet) (source table output : Option String) (args : List String)
    (dryRun : Bool) (w : World) : RunsAs b source table output args dryRun w fun merge =>
      ((b.withMerge merge).bundle source table output args dryRun).runIn w := by
  have hcourse : Course b source table output args dryRun w fun merge =>
      ((b.withMerge merge).bundleWork source table output args dryRun).runIn (freshResult dryRun) w :=
    bundleWork_course hquiet rfl
  cases hcourse with
  | @idle run hended hresult hfiles hrun =>
    exact .idle (fun hsucceeds => hended (succeeds_concluded hresult hsucceeds))
      ((files_concluded run).trans hfiles) fun merge => by rw [bundle_runIn, hrun]
  | @plain src out result w₁ hhands hplan _ hfiles hrun =>
    refine @RunsAs.merged _ _ _ _ _ _ _ _ src out w₁ (finished result out) hhands hplan hfiles ?_ (bundle_of_plain hrun)
    rintro ⟨failure | ⟨⟩, w'⟩
    · exact files_concluded _
    · exact files_concluded _
  | @session src out p result w₁ hhands hplan hfile hresult hfiles hrun =>
    obtain ⟨w₂, hw₂, hall⟩ := bundle_of_session hrun
    exact .session hhands hplan hfile hresult (hw₂.trans hfiles) hall

/-! ### Renaming in the files of a plan -/

theorem renameOne_changesOnly (b : Bundler) (file : String) (entries : List Entry) (result : BundleResult) (w : World) :
    ChangesOnly (· = (Path.ofText file).text) w.files ((b.renameOne file entries).runIn result w).2.files := by
  have hkeeps : (b.renameOne file entries).Keeps (ChangesOnly (· = (Path.ofText file).text) w.files) := by
    refine (Work.Keeps.lift (Action.OnlyReads.log _ _ _).keeps).bind fun _ => ?_
    refine (Work.Keeps.lift fun w' hw' => ?_).bind fun report => .note _
    exact hw'.trans (Rename.renameFile_changesOnly _ _ _ w')
  exact hkeeps result w (.refl _ _)

/-- The renames of a plan, which come between its backup and the call of the merger. -/
def renameAll (b : Bundler) (p : Plan) : Work Unit :=
  p.forM fun (file, entries) => b.renameOne file entries

theorem renameAndMerge_runIn (b : Bundler) (p : Plan) (src out : Path) (args : List String) (merge : Merge)
    (result : BundleResult) (w : World) : ((b.withMerge merge).renameAndMerge p src out args).runIn result w =
      match (b.renameAll p).runIn result w with
      | ((.ok (), result₁), w₁) => ((((merge src out args).runIn w₁).1, result₁), ((merge src out args).runIn w₁).2)
      | ((.error failure, result₁), w₁) => ((.error failure, result₁), w₁) := by
  change (b.renameAll p >>= fun _ => (liftM (merge src out args) : Work Unit)).runIn result w = _
  rw [Work.runIn_bind]
  rcases (b.renameAll p).runIn result w with ⟨⟨failure | ⟨⟩, result₁⟩, w₁⟩ <;> rfl

theorem renameAll_keeps {b : Bundler} {p : Plan} {inv : FileSystem → Prop}
    (hrename : ∀ path ∈ planPaths p, ∀ fs fs', ChangesOnly (· = path.text) fs fs' → inv fs → inv fs') :
    (b.renameAll p).Keeps inv :=
  Work.Keeps.forM fun group hgroup result w hw => hrename (Path.ofText group.1) (List.mem_map_of_mem hgroup) _ _
    (renameOne_changesOnly b group.1 group.2 result w) hw

/-- Carrying out a plan notes renames and warnings in the result. -/
theorem renameAndMerge_keepsResult {prop : BundleResult → Prop} (hnote : ∀ (result : BundleResult) renames warnings,
      prop result → prop { result with renames := renames, warnings := warnings })
    (b : Bundler) (p : Plan) (src out : Path) (args : List String) :
    (b.renameAndMerge p src out args).KeepsResult prop := by
  refine (Work.KeepsResult.forM fun group => ?_).bind fun _ => .lift _
  refine (Work.KeepsResult.lift _).bind fun _ => (Work.KeepsResult.lift _).bind fun report => .note fun result h => ?_
  exact hnote result _ _ h

/-- Only the run itself reports success. -/
theorem planSession_success (b : Bundler) (p : Plan) (src out : Path) (args : List String) :
    (b.planSession p src out args).KeepsResult (BundleResult.success · = false) :=
  session_keepsResult _ _ fun _ => renameAndMerge_keepsResult (fun _ _ _ h => h) b p src out args

/-- Carrying out a plan leads from what the renames in its files keep to what its merger makes of it. -/
theorem renameAndMerge_leads {b : Bundler} {p : Plan} {src out : Path} {args : List String}
    (inv post : FileSystem → Prop)
    (hrename : ∀ path ∈ planPaths p, ∀ fs fs', ChangesOnly (· = path.text) fs fs' → inv fs → inv fs')
    (hpost : ∀ fs, inv fs → post fs)
    (hmerge : ∀ w : World, inv w.files → post ((b.merger.merge src out args).runIn w).2.files)
    (result : BundleResult) (w : World) (hw : inv w.files) :
    post ((b.renameAndMerge p src out args).runIn result w).2.files := by
  have hkeeps : (b.renameAll p).Keeps inv := renameAll_keeps hrename
  have hrun := hkeeps result w hw
  rw [← withMerge_self b, renameAndMerge_runIn]
  rcases h : (b.renameAll p).runIn result w with ⟨⟨failure | ⟨⟩, result₁⟩, w₁⟩
  · rw [h] at hrun
    exact hpost _ hrun
  · rw [h] at hrun
    exact hmerge w₁ hrun

/-- No file of a session is where a backup of the session goes, so changes of the files keep them guarded. -/
theorem guarded_of_rename {suffix : Value} {xs : List Site} {fs mid fs' : FileSystem} {named : String → Prop}
    (hready : Ready suffix fs xs) (hnamed : ∀ path, named path → ∃ x ∈ xs, path = x.path.text)
    (hchange : ChangesOnly named mid fs') (h : Guarded suffix xs fs mid) : Guarded suffix xs fs fs' := by
  refine h.of_changesOnly hchange ?_
  rintro path hpath x hx ⟨r, hr, hspot⟩
  obtain ⟨y, hy, rfl⟩ := hnamed path hpath
  rw [(h.isIn y hy).locate, Except.ok.injEq] at hr
  rw [(h.isIn x hx).locate_sibling, Except.ok.injEq] at hspot
  exact hready.apart y hy x hx (hr.trans hspot.symm)

/-- How the session of a plan ends, when its merger keeps the files of the plan guarded. -/
theorem planSession_ends {b : Bundler} {p : Plan} {src out : Path} {args : List String} (result : BundleResult)
    (w : World) (hfile : ∀ path ∈ planPaths p, w.files.FileAt path.text)
    (hsep : Separate b.settings.rename.backupSuffix w.files (planPaths p))
    (hmerge : ∀ xs, xs.map Site.path = planPaths p → Ready b.settings.rename.backupSuffix w.files xs →
      ∀ w₁ : World, SameFolders w.files w₁.files → Guarded b.settings.rename.backupSuffix xs w.files w₁.files →
        Guarded b.settings.rename.backupSuffix xs w.files ((b.merger.merge src out args).runIn w₁).2.files) :
    SessionEnds b.settings.rename.backupSuffix w.files (planPaths p) b.restoresOnFailure
      ((b.planSession p src out args).runIn result w).1.1 ((b.planSession p src out args).runIn result w).2.files := by
  refine session_ends result w (fun path hpath => plain_of_mem_planPaths hpath) hfile hsep ?_
  intro xs hpaths hready _ result w₁ hbacked
  let guarded := Guarded b.settings.rename.backupSuffix xs w.files
  refine renameAndMerge_leads (fun fs => SameFolders w.files fs ∧ guarded fs) guarded
    (fun path hpath fs fs' hchange hinv => ?_) (fun _ hinv => hinv.2)
    (fun w₂ hinv => hmerge xs hpaths hready w₂ hinv.1 hinv.2) result w₁
    ⟨hbacked.sameFolders hready, hbacked.guarded hready⟩
  refine ⟨hinv.1.trans hchange.sameFolders, guarded_of_rename hready ?_ hchange hinv.2⟩
  rintro _ rfl
  rw [← hpaths] at hpath
  obtain ⟨x, hx, rfl⟩ := List.mem_map.mp hpath
  exact ⟨x, hx, rfl⟩

/-! ### Small runs -/

def smallBundler (policy : RestorePolicy) (merge : Merge) : Bundler where
  settings := { bundle := { restorePolicy := .known policy } }
  source := Source.ofLibrary .null
  merger := ⟨.null, pure true, merge⟩

theorem smallBundler_quiet (policy : RestorePolicy) (merge : Merge) : (smallBundler policy merge).Quiet :=
  fun _ => rfl

end Bundler

end Amalgam
