import Amalgam.Proofs.Bundle.Session
/-!
# Restoration

A run that restores its files always leaves every file of its plan as it was and no backup that was not there before,
however it ends: before its session, in the middle of the backup, in the middle of the renames, in the merger, or well.
-/

namespace Amalgam

open FileSystem Backup

namespace Bundler

/-- The paths lead to what they led to, and no backup of them has come. -/
def Unharmed (suffix : Value) (paths : List Path) (fs fs' : FileSystem) : Prop :=
  ∀ path ∈ paths, fs'.probe path.text = fs.probe path.text ∧
    ∀ s, siblingPath suffix path = .ok s → fs'.leadsSomewhere s.text = true → fs.leadsSomewhere s.text = true

variable {suffix : Value} {paths : List Path} {xs : List Site} {fs fs' : FileSystem}

theorem Unharmed.refl (suffix : Value) (paths : List Path) (fs : FileSystem) : Unharmed suffix paths fs fs :=
  fun _ _ => ⟨rfl, fun _ _ hleads => hleads⟩

/-- Taking back the backups that were made leaves the files alone. -/
theorem Unharmed.of_cleared (hpaths : ∀ x ∈ xs, x.path ∈ paths) (hready : Ready suffix fs xs)
    (hsep : Separate suffix fs paths) (h : Cleared xs fs fs') : Unharmed suffix paths fs fs' := by
  have hsame := h.sameFolders hready.free
  intro path hpath
  refine ⟨hsame.probe_eq fun r hr => h.rest r ?_, fun s _ hleads => ?_⟩
  · rintro x hx rfl
    have hin := hready.isIn x hx
    by_cases heq : path = x.path
    · rw [heq, hin.locate, Except.ok.injEq] at hr
      exact hin.route_ne_spot hr
    · exact hsep.apart path hpath x.path (hpaths x hx) heq x.sibling hin.siblingPath_eq ⟨x.spot, hr, hin.locate_sibling⟩
  · obtain ⟨node, hstat⟩ := leadsSomewhere_iff.mp hleads
    obtain ⟨⟨r, hloc, hnode⟩, hslash⟩ := stat_ok_iff.mp hstat
    have hrest : fs'.node? r = fs.node? r := by
      refine h.rest r ?_
      rintro x hx rfl
      rw [h.spot x hx] at hnode
      cases hnode
    rw [hrest] at hnode
    exact leadsSomewhere_iff.mpr ⟨node, stat_ok_iff.mpr ⟨⟨r, hsame.locate_ok.mp hloc, hnode⟩, hslash⟩⟩

/-- So does restoring all of them. -/
theorem Unharmed.of_restored {mid : FileSystem} (hpaths : xs.map Site.path = paths) (hready : Ready suffix fs xs)
    (h : Restored suffix xs xs fs mid fs') : Unharmed suffix paths fs fs' := by
  subst hpaths
  intro path hpath
  obtain ⟨x, hx, rfl⟩ := List.mem_map.mp hpath
  have hin := hready.isIn x hx
  have hin' := h.held.isIn x hx
  obtain ⟨bytes, executable, hfile⟩ := hready.file x hx
  refine ⟨?_, fun s hs hleads => ?_⟩
  · have hprobe := probe_eq_some_iff.mpr (hin.stat_eq_ok_iff.mpr hfile)
    rw [hprobe, probe_eq_some_iff, hin'.stat_eq_ok_iff, h.route hready hx hx, hfile]
  · rw [hin.siblingPath_eq, Except.ok.injEq] at hs
    obtain ⟨node, hstat⟩ := leadsSomewhere_iff.mp hleads
    rw [← hs, hin'.stat_sibling_eq_ok_iff, h.spot x hx] at hstat
    cases hstat

/-- Whatever else it does, the merger leaves the backups of the paths as they are and makes no directory at a path. -/
structure Spares (suffix : Value) (paths : List Path) (merge : Action Unit) : Prop where
  here : ∀ w : World, (merge.runIn w).2.files.here = w.files.here
  backup : ∀ w : World, ∀ path ∈ paths, ∀ s, siblingPath suffix path = .ok s → ∀ node,
    w.files.stat s.text = .ok node → (merge.runIn w).2.files.stat s.text = .ok node
  path : ∀ w : World, ∀ path ∈ paths, w.files.isDirectory path.text = false →
    (merge.runIn w).2.files.isDirectory path.text = false

theorem Spares.guarded {merge : Action Unit} (h : Spares suffix paths merge) (hpaths : xs.map Site.path = paths)
    (hready : Ready suffix fs xs) {w : World} (hguarded : Guarded suffix xs fs w.files) :
    Guarded suffix xs fs (merge.runIn w).2.files := by
  subst hpaths
  refine hguarded.of_siblings hready (h.here w) (fun x hx node hstat => ?_) fun x hx => ?_
  · exact h.backup w x.path (List.mem_map_of_mem hx) x.sibling (hready.isIn x hx).siblingPath_eq node hstat
  · exact h.path w x.path (List.mem_map_of_mem hx)

/-- Restoration on every way out. -/
theorem bundle_unharmed {b : Bundler} {source table output : Option String} {args : List String} {dryRun : Bool}
    {w : World} (hquiet : b.Quiet) (hpolicy : b.settings.bundle.restorePolicy = .known .always)
    (hsep : Separate b.settings.rename.backupSuffix w.files (planPaths (b.renamePlan source table w)))
    (hspares : ∀ src out, Hands source output src out →
      Spares b.settings.rename.backupSuffix (planPaths (b.renamePlan source table w)) (b.merger.merge src out args)) :
    Unharmed b.settings.rename.backupSuffix (planPaths (b.renamePlan source table w)) w.files
      ((b.bundle source table output args dryRun).runIn w).2.files := by
  change Unharmed _ _ _ (((b.withMerge b.merger.merge).bundle source table output args dryRun).runIn w).2.files
  cases bundle_runsAs hquiet source table output args dryRun w with
  | idle _ hfiles hrun =>
    rw [hrun, hfiles]
    exact Unharmed.refl _ _ _
  | merged hhands hplan hfiles hfinish hrun =>
    rw [renamePlan_eq hplan]
    exact fun path hpath => absurd hpath (List.not_mem_nil)
  | @session src out p result w₁ hhands hplan hfile hresult hfiles hrun =>
    obtain rfl := renamePlan_eq hplan
    rw [hrun, files_closed, ← hfiles]
    rw [← hfiles] at hsep hfile
    have hrestores : b.restoresOnFailure = true := by simp [restoresOnFailure, hpolicy]
    have hends := planSession_ends result w₁ hfile hsep fun xs hpaths hready w₂ _ hguarded =>
      (hspares src out hhands).guarded hpaths hready hguarded
    cases hends with
    | undone _ hpaths hready hcleared => exact .of_cleared hpaths hready hsep hcleared
    | restored hpaths hready hrestored => exact .of_restored hpaths hready hrestored
    | left _ hleft =>
      rw [hrestores] at hleft
      cases hleft

/-- Two files in three spellings, and a merger that is interrupted. -/
theorem bundle_unharmed_interrupted :
    let b := smallBundler .always fun _ _ _ => throw (.raised .interrupt "")
    let w := smallWorld [(["a.c"], textFile "f"), (["b.c"], textFile "f"),
      (["t.csv"], tableFile "a.c:1,f,g\nb.c:1,f,g\n./a.c:1,f,h\n")]
    planPaths (b.renamePlan (some "a.c") (some "t.csv") w) = [Path.ofText "a.c", Path.ofText "b.c", Path.ofText "a.c"] ∧
      Unharmed (.text ".bak") [Path.ofText "a.c", Path.ofText "b.c", Path.ofText "a.c"] w.files
        ((b.bundle (some "a.c") (some "t.csv") (some "out.c") [] false).runIn w).2.files := by
  intro b w
  have hplan : planPaths (b.renamePlan (some "a.c") (some "t.csv") w) =
      [Path.ofText "a.c", Path.ofText "b.c", Path.ofText "a.c"] := by decide +kernel
  have hsep : Separate (.text ".bak") w.files [Path.ofText "a.c", Path.ofText "b.c", Path.ofText "a.c"] := by
    decide +kernel
  refine ⟨hplan, ?_⟩
  rw [← hplan] at hsep ⊢
  refine bundle_unharmed (smallBundler_quiet _ _) rfl hsep fun src out _ => ⟨fun _ => rfl, ?_, ?_⟩
  · exact fun w _ _ _ _ node hnode => hnode
  · exact fun w _ _ hfree => hfree

end Bundler

end Amalgam
