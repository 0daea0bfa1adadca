import Amalgam.Proofs.Backup.Vacancy
import Amalgam.Proofs.Bundle.Session
/-!
# The frame of a run

With a merger that writes the bundle only, a run changes nothing but the bundle, the files of its plan and the places
where their backups go. If it always restores its files, a backup path at which nothing stood leads nowhere again; what
did stand at a backup path is lost.
-/

namespace Amalgam

open FileSystem Backup

namespace Bundler

/-- What a run may touch: the files of its plan, the places where their backups go, and the bundle. -/
inductive Touched (b : Bundler) (source table output : Option String) (w : World) : String → Prop
  | file {path : Path} (h : path ∈ planPaths (b.renamePlan source table w)) : Touched b source table output w path.text
  | backup {path s : Path} (h : path ∈ planPaths (b.renamePlan source table w))
      (hs : siblingPath b.settings.rename.backupSuffix path = .ok s) :
      Touched b source table output w (w.files.copyTarget path s).path
  | bundle {src out : Path} (h : Hands source output src out) : Touched b source table output w out.text

/-- The merger changes nothing but the bundle. -/
def WritesBundleOnly (b : Bundler) (source output : Option String) (args : List String) : Prop :=
  ∀ src out, Hands source output src out → ∀ w : World,
    ChangesOnly (· = out.text) w.files ((b.merger.merge src out args).runIn w).2.files

/-- A merger that writes a bundle and then ends in some way. -/
def bundlesThen (ended : Except Failure Unit) : Merge := fun _ out _ => do
  Action.writeText out.text .null (Text.glyphs "f")
  Action.ofExcept id ended

theorem bundlesThen_writes (policy : Config.RestorePolicy) (ended : Except Failure Unit) (source output : Option String)
    (args : List String) : (smallBundler policy (bundlesThen ended)).WritesBundleOnly source output args := by
  intro src out _ w
  have hkeeps : (bundlesThen ended src out args).Keeps (ChangesOnly (· = out.text) w.files) := by
    refine Action.Keeps.bind (fun w' hw' => ?_) fun _ => (Action.OnlyReads.ofExcept _ _).keeps
    exact hw'.trans (Action.writeText_changesOnly _ _ _ w')
  exact hkeeps w (.refl _ _)

theorem bundle_changesOnly {b : Bundler} {source table output : Option String} {args : List String} (hquiet : b.Quiet)
    (hmerge : b.WritesBundleOnly source output args) (dryRun : Bool) (w : World) :
    ChangesOnly (b.Touched source table output w) w.files
      ((b.bundle source table output args dryRun).runIn w).2.files := by
  have hwrites : ∀ src out, Hands source output src out →
      (b.merger.merge src out args).Keeps (ChangesOnly (b.Touched source table output w) w.files) := by
    intro src out hhands w' hw'
    refine hw'.trans ((hmerge src out hhands w').mono ?_)
    rintro _ rfl
    exact .bundle hhands
  change ChangesOnly _ _ (((b.withMerge b.merger.merge).bundle source table output args dryRun).runIn w).2.files
  cases bundle_runsAs hquiet source table output args dryRun w with
  | idle _ hfiles hrun =>
    rw [hrun, hfiles]
    exact .refl _ _
  | @merged src out w₁ finish hhands hplan hfiles hfinish hrun =>
    rw [hrun, hfinish]
    exact hwrites src out hhands w₁ (hfiles ▸ .refl _ _)
  | @session src out p result w₁ hhands hplan hfile hresult hfiles hrun =>
    obtain rfl := renamePlan_eq hplan
    rw [hrun, files_closed]
    have hcovers : Covers (b.Touched source table output w) b.settings.rename.backupSuffix w.files
        (planPaths (b.renamePlan source table w)) :=
      ⟨fun path hpath => not_isDirectory_of_fileAt (hfile path hpath), fun _ hpath => .file hpath,
        fun _ hpath _ hs => .backup hpath hs⟩
    refine session_keeps hcovers _ (fun _ => ?_) result w₁ (hfiles ▸ .refl _ _)
    refine renameAndMerge_leads _ _ (fun path hpath fs fs' hchange hbefore => ?_) (fun _ hbefore => hbefore)
      (hwrites src out hhands)
    refine hbefore.trans (hchange.mono ?_)
    rintro _ rfl
    exact .file hpath

/-- A run that always restores its files leaves no backup where nothing stood at the backup path. -/
theorem bundle_vacates {b : Bundler} {source table output : Option String} {args : List String} {w : World} {r : Route}
    (hquiet : b.Quiet) (hpolicy : b.settings.bundle.restorePolicy = .known .always)
    (hmerge : b.WritesBundleOnly source output args)
    (hbundle : ∀ src out, Hands source output src out → w.files.locate out.text ≠ .ok r)
    (hbackup : ∀ p ∈ planPaths (b.renamePlan source table w), ∀ s,
      siblingPath b.settings.rename.backupSuffix p = .ok s → w.files.locate (w.files.copyTarget p s).path = .ok r →
        w.files.leadsSomewhere s.text = false)
    {p s : Path} (hp : p ∈ planPaths (b.renamePlan source table w))
    (hs : siblingPath b.settings.rename.backupSuffix p = .ok s)
    (hloc : w.files.locate (w.files.copyTarget p s).path = .ok r) (dryRun : Bool) :
    w.files.node? r = none ∧ ((b.bundle source table output args dryRun).runIn w).2.files.node? r = none := by
  have hnowhere := hbackup p hp s hs hloc
  rw [copyTarget_of_nowhere hnowhere] at hloc
  have hempty := node?_of_nowhere hs hnowhere hloc
  refine ⟨hempty, ?_⟩
  change (((b.withMerge b.merger.merge).bundle source table output args dryRun).runIn w).2.files.node? r = none
  cases bundle_runsAs hquiet source table output args dryRun w with
  | idle _ hfiles hrun =>
    rw [hrun, hfiles]
    exact hempty
  | merged _ hplan =>
    rw [renamePlan_eq hplan] at hp
    cases hp
  | @session src out plan result w₁ hhands hplan hfile hresult hfiles hrun =>
    obtain rfl := renamePlan_eq hplan
    have hplain : ∀ q ∈ planPaths (b.renamePlan source table w), q.Plain := fun q hq => plain_of_mem_planPaths hq
    obtain ⟨x, rfl, rfl, hin, rfl⟩ := exists_site_of_locate (hplain p hp) (hfile p hp) hs hnowhere hloc
    obtain ⟨text, hsuffix, hmade⟩ := hin.made
    have hvacant : Vacant text w₁.files (planPaths (b.renamePlan source table w)) x.spot := by
      rw [hfiles]
      refine ⟨hmade.usable, hplain, hfile, hempty, fun q hq hplace => hbackup q hq _ ?_ hplace⟩
      rw [hsuffix]
      exact siblingPath_text (hplain q hq) (named_of_fileAt (hplain q hq) (hfile q hq)) hmade.usable.no_slash
    have hrestores : b.restoresOnFailure = true := by simp [restoresOnFailure, hpolicy]
    rw [hrun, files_closed, withMerge_self, planSession, hsuffix, hrestores]
    refine session_vacates result w₁ hvacant fun _ => ?_
    refine renameAndMerge_leads _ _ (fun q hq fs fs' hchange howed => ?_) (fun _ howed => howed) fun w₂ howed => ?_
    · refine howed.of_changesOnly hchange ?_
      rintro _ rfl
      exact hvacant.locate_path_ne hq
    · refine howed.of_changesOnly (hmerge src out hhands w₂) ?_
      rintro _ rfl
      rw [hfiles]
      exact hbundle src out hhands

/-- Elsewhere than at the bundle and at its files, a run that always restores them changes nothing, as long as nothing
stood at their backup paths. -/
theorem bundle_frame {b : Bundler} {source table output : Option String} {args : List String} {w : World}
    (hquiet : b.Quiet) (hpolicy : b.settings.bundle.restorePolicy = .known .always)
    (hmerge : b.WritesBundleOnly source output args) {path : String}
    (hfile : ∀ p ∈ planPaths (b.renamePlan source table w), ¬ w.files.SamePlace path p.text)
    (hbundle : ∀ src out, Hands source output src out → ¬ w.files.SamePlace path out.text)
    (hbackup : ∀ p ∈ planPaths (b.renamePlan source table w), ∀ s,
      siblingPath b.settings.rename.backupSuffix p = .ok s → w.files.SamePlace path (w.files.copyTarget p s).path →
        w.files.leadsSomewhere s.text = false) (dryRun : Bool) :
    ((b.bundle source table output args dryRun).runIn w).2.files.probe path = w.files.probe path := by
  have hchange : ChangesOnly (b.Touched source table output w) w.files _ := bundle_changesOnly hquiet hmerge dryRun w
  refine hchange.sameFolders.probe_eq fun r hr => ?_
  by_cases htouched : ∃ p ∈ planPaths (b.renamePlan source table w), ∃ s,
      siblingPath b.settings.rename.backupSuffix p = .ok s ∧ w.files.locate (w.files.copyTarget p s).path = .ok r
  · obtain ⟨p, hp, s, hs, hplace⟩ := htouched
    obtain ⟨hbefore, hafter⟩ := bundle_vacates hquiet hpolicy hmerge
      (fun src out hhands hout => hbundle src out hhands ⟨r, hr, hout⟩)
      (fun q hq s hs hq' => hbackup q hq s hs ⟨r, hr, hq'⟩) hp hs hplace dryRun
    rw [hbefore, hafter]
  · refine hchange.node_eq fun other hother hloc => ?_
    cases hother with
    | file hp => exact hfile _ hp ⟨r, hr, hloc⟩
    | backup hp hs => exact htouched ⟨_, hp, _, hs, hloc⟩
    | bundle hhands => exact hbundle _ _ hhands ⟨r, hr, hloc⟩

/-- No backup is left of a file whose merger fails. -/
theorem bundle_frame_no_backup :
    let b := smallBundler .always (bundlesThen (.error (.raised .merge "")))
    let w := smallWorld [(["a.c"], textFile "f"), (["t.csv"], tableFile "a.c:1,f,g\n")]
    planPaths (b.renamePlan (some "a.c") (some "t.csv") w) = [Path.ofText "a.c"] ∧
      ((b.bundle (some "a.c") (some "t.csv") (some "out.c") [] false).runIn w).2.files.probe "a.c.bak" =
        w.files.probe "a.c.bak" := by
  intro b w
  have hplan : planPaths (b.renamePlan (some "a.c") (some "t.csv") w) = [Path.ofText "a.c"] := by decide +kernel
  have hfile : ∀ p ∈ [Path.ofText "a.c"], ¬ w.files.SamePlace "a.c.bak" p.text := by decide +kernel
  have hbackup : ∀ p ∈ [Path.ofText "a.c"], ∀ s, siblingPath (.text ".bak") p = .ok s →
      w.files.SamePlace "a.c.bak" (w.files.copyTarget p s).path → w.files.leadsSomewhere s.text = false := by
    decide +kernel
  have hbundle : ∀ src out, Hands (some "a.c") (some "out.c") src out → ¬ w.files.SamePlace "a.c.bak" out.text := by
    intro src out hhands
    rw [hhands.out_eq (by decide)]
    decide +kernel
  rw [← hplan] at hfile hbackup
  exact ⟨hplan, @bundle_frame b (some "a.c") (some "t.csv") (some "out.c") [] w (smallBundler_quiet _ _) rfl
    (bundlesThen_writes _ _ _ _ _) "a.c.bak" hfile hbundle hbackup false⟩

/-- What stood at the backup path of a file is gone after the run. -/
theorem backup_in_the_way_lost :
    let b := smallBundler .always (bundlesThen (.ok ()))
    let w := smallWorld [(["a.c"], textFile "f"), (["a.c.bak"], textFile "kept"), (["t.csv"], tableFile "a.c:1,f,g\n")]
    b.Quiet ∧ b.settings.bundle.restorePolicy = .known .always ∧
      b.WritesBundleOnly (some "a.c") (some "out.c") [] ∧
      (∀ p ∈ planPaths (b.renamePlan (some "a.c") (some "t.csv") w), ¬ w.files.SamePlace "a.c.bak" p.text) ∧
      (∀ src out, Hands (some "a.c") (some "out.c") src out → ¬ w.files.SamePlace "a.c.bak" out.text) ∧
      w.files.probe "a.c.bak" = .ok (some (textFile "kept")) ∧
      ((b.bundle (some "a.c") (some "t.csv") (some "out.c") [] false).runIn w).2.files.probe "a.c.bak" = .ok none := by
  intro b w
  obtain ⟨hnames, hout, hbefore, hafter⟩ :
      (∀ p ∈ planPaths (b.renamePlan (some "a.c") (some "t.csv") w), ¬ w.files.SamePlace "a.c.bak" p.text) ∧
      ¬ w.files.SamePlace "a.c.bak" (Path.ofText "out.c").text ∧
      w.files.probe "a.c.bak" = .ok (some (textFile "kept")) ∧
      ((b.bundle (some "a.c") (some "t.csv") (some "out.c") [] false).runIn w).2.files.probe "a.c.bak" =
        .ok none := by
    decide +kernel
  refine ⟨smallBundler_quiet _ _, rfl, bundlesThen_writes _ _ _ _ _, hnames, fun src out hhands => ?_, hbefore, hafter⟩
  rwa [hhands.out_eq (by decide)]

end Bundler

end Amalgam
