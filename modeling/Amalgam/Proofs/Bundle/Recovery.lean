import Amalgam.Proofs.Backup.Undo
import Amalgam.Proofs.Bundle.TableFaults
/-!
# Failed runs that leave their files changed

Under the policy that restores on success only, a run whose merger fails keeps the renamed files and their backups. The
three passes over the plan meet in one statement about the sites of the plan: the backup puts every original at its
spot, the renames keep it there because no file of the plan is the spot of another, and a restore later finds it there
and puts it back. Since the files are different, each backup is found, and the restore reports all of them.
-/

namespace Amalgam

open Amalgam.Text Amalgam.Symbols FileSystem Backup

namespace Bundler

/-- A merger leaves the files of a plan and their backups alone; it may change anything else. -/
structure Untouched (suffix : Value) (paths : List Path) (fs fs' : FileSystem) : Prop where
  here : fs'.here = fs.here
  file : ∀ p ∈ paths, fs'.stat p.text = fs.stat p.text
  backup : ∀ p ∈ paths, ∀ s, siblingPath suffix p = .ok s → fs'.stat s.text = fs.stat s.text

theorem Untouched.spared {suffix : Value} {paths : List Path} {fs fs' : FileSystem}
    (h : Untouched suffix paths fs fs') : Spared suffix paths fs fs' where
  here := h.here
  backup := fun p hp s hs _ hnode => (h.backup p hp s hs).trans hnode
  path := fun p hp hfree => by rwa [isDirectory, h.file p hp]

/-- What a failed run leaves: every file of the plan renamed, its backup as the file was, a warning that names the
files, and a restore that undoes the renames and processes all files in order. -/
structure Recoverable (b : Bundler) (p : Plan) (failure : Failure) (before : FileSystem) (result : BundleResult)
    (left : FileSystem) : Prop where
  success : result.success = false
  errors : result.errors = [failure.message]
  file : ∀ group ∈ p, ∃ original bytes executable,
    before.stat (Path.ofText group.1).text = .ok (.file original executable) ∧
    Rename.Renamed b.settings.rename group.2 original bytes ∧
    left.stat (Path.ofText group.1).text = .ok (.file bytes executable)
  backup : ∀ path ∈ planPaths p, ∃ s, siblingPath b.settings.rename.backupSuffix path = .ok s ∧
    left.stat s.text = before.stat path.text
  restore : ∀ w : World, w.files = left → ∃ w',
    (Backup.restore b.settings.rename.backupSuffix (planPaths p)).runIn w =
      (.ok { processed := planPaths p, missing := [], failed := [] }, w') ∧
    Undone b.settings.rename.backupSuffix (planPaths p) before left w'.files

theorem pairwise_routes {suffix : Value} {xs : List Site} {fs : FileSystem} (hin : ∀ x ∈ xs, x.In suffix fs)
    (hplaces : (xs.map Site.path).Pairwise fun x y => ¬ fs.SamePlace x.text y.text) :
    xs.Pairwise fun x y => x.route ≠ y.route := by
  refine (List.pairwise_map.mp hplaces).imp_of_mem fun {x y} hx hy hnot hroute => hnot ⟨x.route, (hin x hx).locate, ?_⟩
  rw [hroute]
  exact (hin y hy).locate

section Session

variable {b : Bundler} {p : Plan} {summary : Summary}
  {result result₁ : BundleResult} {failure : Failure} {w w₁ w₂ left : World}

/-- The files of a plan that a merger leaves untouched can be restored from their backups. -/
theorem restore_of_untouched (hfile : ∀ path ∈ planPaths p, w.files.FileAt path.text)
    (hsep : Separate b.settings.rename.backupSuffix w.files (planPaths p))
    (hplaces : (planPaths p).Pairwise fun x y => ¬ w.files.SamePlace x.text y.text)
    (hbackUp : (backUp b.settings.rename.backupSuffix (planPaths p)).runIn w = (.ok summary, w₁))
    (hrename : (b.renameAll p).runIn result w₁ = ((.ok (), result₁), w₂))
    (huntouched : Untouched b.settings.rename.backupSuffix (planPaths p) w₂.files left.files) :
    ∃ w', (restore b.settings.rename.backupSuffix (planPaths p)).runIn left =
        (.ok { processed := planPaths p, missing := [], failed := [] }, w') ∧
      Undone b.settings.rename.backupSuffix (planPaths p) w.files left.files w'.files := by
  obtain ⟨xs, hpaths, hready, hguarded⟩ := guarded_of_renameAll hfile hsep hbackUp hrename
  rw [← hpaths] at hplaces huntouched ⊢
  exact restore_undoes left hready (huntouched.spared.guarded hready hguarded) (pairwise_routes hready.isIn hplaces)

/-- A session of a plan is over before its merger is called, or a merger that fails and leaves the files of the plan
untouched ends it, and the files can be restored. -/
theorem planSession_recoverable (hpolicy : b.restoresOnFailure = false) (src out : Path) (args : List String)
    (result : BundleResult) (hany : ∀ group ∈ p, group.2.any Entry.hasRename = true)
    (hfile : ∀ path ∈ planPaths p, w.files.FileAt path.text)
    (hsep : Separate b.settings.rename.backupSuffix w.files (planPaths p))
    (hplaces : (planPaths p).Pairwise fun x y => ¬ w.files.SamePlace x.text y.text) :
    (∃ run, ∀ merge, ((b.withMerge merge).planSession p src out args).runIn result w = run) ∨
      ∃ (called : World) (finish : Except Failure Unit × World → (Except Failure Unit × BundleResult) × World),
        ReadyToMerge b p w.files called.files ∧
        (∀ merge, ((b.withMerge merge).planSession p src out args).runIn result w =
          finish ((merge src out args).runIn called)) ∧
        ∀ (merge : Merge) (failure : Failure) (left : World), (merge src out args).runIn called = (.error failure, left) →
          (∃ result₁ w', w'.files = left.files ∧
            ((b.withMerge merge).planSession p src out args).runIn result w = ((.error failure, result₁), w')) ∧
          (Untouched b.settings.rename.backupSuffix (planPaths p) called.files left.files →
            ∀ later : World, later.files = left.files → ∃ w',
              (restore b.settings.rename.backupSuffix (planPaths p)).runIn later =
                (.ok { processed := planPaths p, missing := [], failed := [] }, w') ∧
              Undone b.settings.rename.backupSuffix (planPaths p) w.files left.files w'.files) := by
  simp only [planSession_runIn]
  rcases hbackUp : (backUp b.settings.rename.backupSuffix (planPaths p)).runIn w with ⟨failure | summary, w₁⟩
  · exact .inl ⟨_, fun _ => rfl⟩
  · dsimp only
    rcases hrename : (b.renameAll p).runIn result w₁ with ⟨⟨failure | ⟨⟩, result₁⟩, called⟩
    · exact .inl ⟨afterBody b.settings.rename.backupSuffix (planPaths p) b.restoresOnFailure
        ((.error failure, result₁), called), fun _ => rfl⟩
    · refine .inr ⟨called, fun ended => afterBody b.settings.rename.backupSuffix (planPaths p) b.restoresOnFailure
        ((ended.1, result₁), ended.2), readyToMerge_of_renameAll hany hfile hsep hplaces hbackUp hrename,
        fun _ => rfl, fun merge failure left hmerge => ⟨?_, fun huntouched later hlater => ?_⟩⟩
      · -- The end of the session restores nothing, so the body's failure is the session's.
        obtain ⟨w', hfiles, hend⟩ := endSession_leaves b.settings.rename.backupSuffix (planPaths p) left
        refine ⟨result₁, w', hfiles, ?_⟩
        have hfailed : (!(Except.error failure : Except Failure Unit).isOk) = true := rfl
        simp only [hmerge, afterBody, hpolicy, hfailed, hend]
        rfl
      · rw [← hlater] at huntouched ⊢
        exact restore_of_untouched hfile hsep hplaces hbackUp hrename huntouched

/-- The warning about files that are left as they are. -/
def leftWarning (p : Plan) : String :=
  "Modified files left in place with backups: " ++ joined ", " (p.map Prod.fst)

/-- What a failed session makes of the result. -/
theorem closed_failed (p : Plan) (out : Path) (hpolicy : b.restoresOnFailure = false) (htold : Told failure) :
    ∃ w' : World, w'.files = w.files ∧ closed b p out ((.error failure, result), w) =
      (.ok { result with
        warnings := result.warnings ++ [leftWarning p]
        errors := result.errors ++ [failure.message] }, w') := by
  have hreported : isReported failure = true := htold
  simp only [closed, annotated, concluded, hreported, hpolicy, Bool.not_false, Bool.and_self, if_true]
  exact ⟨{ w with
    journal := w.journal ++ [.logged ⟨.error, logger, "bundle failed: " ++ failure.message⟩] }, rfl, rfl⟩

end Session

/-- A run that adds an error to its result has failed with this error alone. -/
theorem failed_of_errors {b : Bundler} {source table output : Option String} {args : List String} {dryRun : Bool}
    {result : BundleResult} {w w' : World} {errors : List String} {message : String}
    (hrun : (b.bundle source table output args dryRun).runIn w = (.ok result, w'))
    (herrors : result.errors = errors ++ [message]) : result.success = false ∧ result.errors = [message] := by
  rcases bundle_settled hrun with ⟨-, hnone⟩ | ⟨hfailed, other, hone⟩
  · simp [hnone] at herrors
  · rw [hone] at herrors
    obtain ⟨-, hmessage⟩ : errors = [] ∧ [message] = [other] := by
      simpa using List.append_eq_singleton_iff.mp herrors.symm
    exact ⟨hfailed, hone.trans hmessage.symm⟩

theorem Untouched.recoverable {b : Bundler} {p : Plan} {failure : Failure} {result : BundleResult}
    {before called left : FileSystem}
    (h : Untouched b.settings.rename.backupSuffix (planPaths p) called left) (hready : ReadyToMerge b p before called)
    (hresult : result.success = false ∧ result.errors = [failure.message])
    (hrestore : ∀ w : World, w.files = left → ∃ w',
      (Backup.restore b.settings.rename.backupSuffix (planPaths p)).runIn w =
        (.ok { processed := planPaths p, missing := [], failed := [] }, w') ∧
      Undone b.settings.rename.backupSuffix (planPaths p) before left w'.files) :
    Recoverable b p failure before result left where
  success := hresult.1
  errors := hresult.2
  file := by
    intro group hgroup
    obtain ⟨original, bytes, executable, hbefore, hrenamed, hcalled⟩ := hready.file group hgroup
    exact ⟨original, bytes, executable, hbefore, hrenamed, (h.file _ (List.mem_map_of_mem hgroup)).trans hcalled⟩
  backup := by
    intro path hpath
    obtain ⟨s, hs, hcalled⟩ := hready.backup path hpath
    exact ⟨s, hs, (h.backup path hpath s hs).trans hcalled⟩
  restore := hrestore

/-- Under the policy that restores on success only, a run calls its merger or not; if the merger then fails with a cause
that is reported and leaves the files of the plan and their backups untouched, the run is recoverable, and with a table
the last warning names the files of the plan. -/
theorem failed_run_recoverable {b : Bundler} {source table output : Option String} {args : List String} {w : World}
    (hquiet : b.Quiet) (hpolicy : b.settings.bundle.restorePolicy = .known .onSuccess)
    (hplaces : (planPaths (b.renamePlan source table w)).Pairwise fun x y => ¬ w.files.SamePlace x.text y.text)
    (hsep : Separate b.settings.rename.backupSuffix w.files (planPaths (b.renamePlan source table w))) (dryRun : Bool) :
    NeverCalls (fun merge => ((b.withMerge merge).bundle source table output args dryRun).runIn w) ∨
      ∃ (src out : Path) (w₁ : World), Hands source output src out ∧
        CallsIn w₁ src out args (fun merge => ((b.withMerge merge).bundle source table output args dryRun).runIn w) ∧
        ∀ (merge : Merge) (failure : Failure) (left : World), (merge src out args).runIn w₁ = (.error failure, left) →
          Told failure →
          Untouched b.settings.rename.backupSuffix (planPaths (b.renamePlan source table w)) w₁.files left.files →
          ∃ result w', ((b.withMerge merge).bundle source table output args dryRun).runIn w = (.ok result, w') ∧
            Recoverable b (b.renamePlan source table w) failure w.files result w'.files ∧
            (((b.tableOf source table).runIn w).1 ≠ .ok none →
              result.warnings.getLast? = some (leftWarning (b.renamePlan source table w))) := by
  have hleaves : b.restoresOnFailure = false := by simp [restoresOnFailure, hpolicy]
  have hcourse : Course b source table output args dryRun w fun merge =>
      ((b.withMerge merge).bundleWork source table output args dryRun).runIn (freshResult dryRun) w :=
    bundleWork_course hquiet rfl
  cases hcourse with
  | @idle run _ _ _ hrun =>
    refine .inl fun merge merge' => ?_
    dsimp only
    rw [bundle_runIn, bundle_runIn, hrun, hrun]
  | @plain src out result w₁ hhands hplan hnone hfiles hrun =>
    rw [renamePlan_eq hplan]
    refine .inr ⟨src, out, w₁, hhands, ⟨finished result out, bundle_of_plain hrun⟩, ?_⟩
    intro merge failure left hmerge htold huntouched
    have hreturns := bundle_of_plain hrun merge
    rw [hmerge, finished, concluded, if_pos htold] at hreturns
    refine ⟨_, _, hreturns, ?_, fun hsome => absurd hnone hsome⟩
    refine huntouched.recoverable (hfiles ▸ readyToMerge_nil b w.files) (failed_of_errors hreturns rfl) fun w' hw' => ?_
    exact ⟨w', rfl, ⟨by simp [planPaths], by simp [planPaths], fun _ _ => by rw [hw']⟩⟩
  | @session src out p result w₁ hhands hplan hfile hresult hfiles hrun =>
    obtain rfl := renamePlan_eq hplan
    have hany : ∀ group ∈ b.renamePlan source table w, group.2.any Entry.hasRename = true :=
      fun group hgroup => (isPlan_of_tablePlan hplan).any_hasRename hgroup
    obtain ⟨w₂, hw₂, hsession⟩ := bundle_of_session hrun
    rw [← hfiles, ← hw₂] at hplaces hsep hfile
    rw [← hfiles, ← hw₂]
    rcases planSession_recoverable hleaves src out args result hany hfile hsep hplaces with
      ⟨ended, hconst⟩ | ⟨called, finish, hready, hcalls, hfailed⟩
    · refine .inl fun merge merge' => ?_
      simp only [hsession, hconst]
    · refine .inr ⟨src, out, called, hhands, ⟨fun ended => closed b (b.renamePlan source table w) out (finish ended),
        fun merge => (hsession merge).trans (by rw [hcalls])⟩, fun merge failure left hmerge htold huntouched => ?_⟩
      obtain ⟨⟨result₁, w₃, hw₃, hrun₃⟩, hrestore⟩ := hfailed merge failure left hmerge
      obtain ⟨w', hw', hclosed'⟩ := closed_failed (b.renamePlan source table w) out hleaves htold
      have hreturns := (hsession merge).trans ((congrArg _ hrun₃).trans hclosed')
      have hleft : w'.files = left.files := hw'.trans hw₃
      refine ⟨_, w', hreturns, ?_, fun _ => by simp⟩
      rw [hleft]
      exact huntouched.recoverable hready (failed_of_errors hreturns rfl) (hrestore huntouched)

/-- Two files, and a merger that fails at once. -/
theorem failed_run_recoverable_two_files :
    let b := smallBundler .onSuccess fun _ _ _ => throw (.raised .merge "no")
    let w := smallWorld [(["a.c"], textFile "f"), (["b.c"], textFile "f"),
      (["t.csv"], tableFile "a.c:1,f,g\nb.c:1,f,h\n")]
    let p := b.renamePlan (some "a.c") (some "t.csv") w
    p.map Prod.fst = ["a.c", "b.c"] ∧ ∃ result w',
      (b.bundle (some "a.c") (some "t.csv") (some "out.c") [] false).runIn w = (.ok result, w') ∧
      Recoverable b p (.raised .merge "no") w.files result w'.files ∧
      result.warnings.getLast? = some (leftWarning p) := by
  intro b w p
  obtain ⟨hnames, hplaces, hsep, htable, hsucceeds, hfailed⟩ : p.map Prod.fst = ["a.c", "b.c"] ∧
      ((planPaths p).Pairwise fun x y => ¬ w.files.SamePlace x.text y.text) ∧
      Separate b.settings.rename.backupSuffix w.files (planPaths p) ∧
      ((b.tableOf (some "a.c") (some "t.csv")).runIn w).1.toOption.join.isSome = true ∧
      Succeeds (((b.withMerge fun _ _ _ => pure ()).bundle (some "a.c") (some "t.csv") (some "out.c") [] false).runIn
        w) ∧
      ¬ Succeeds (((b.withMerge fun _ _ _ => throw (.raised .interrupt "")).bundle (some "a.c") (some "t.csv")
        (some "out.c") [] false).runIn w) := by
    decide +kernel
  have hcalls : ¬ NeverCalls fun merge =>
      ((b.withMerge merge).bundle (some "a.c") (some "t.csv") (some "out.c") [] false).runIn w  :=
    not_neverCalls hsucceeds hfailed
  have hfails : ∀ src out args w₁, (b.merger.merge src out args).runIn w₁ = (.error (.raised .merge "no"), w₁) :=
    fun _ _ _ _ => rfl
  have hquiet : b.Quiet := smallBundler_quiet _ _
  have hpolicy : b.settings.bundle.restorePolicy = .known .onSuccess := rfl
  clear_value w b
  refine ⟨hnames, ?_⟩
  rcases failed_run_recoverable hquiet hpolicy hplaces hsep false with hnever | ⟨src, out, w₁, _, _, hrecovers⟩
  · exact absurd hnever hcalls
  · obtain ⟨result, w', hrun, hrecoverable, hwarning⟩ :=
      hrecovers b.merger.merge _ w₁ (hfails src out [] w₁) rfl ⟨rfl, fun _ _ => rfl, fun _ _ _ _ => rfl⟩
    refine ⟨result, w', hrun, hrecoverable, hwarning fun hnone => ?_⟩
    rw [hnone] at htable
    cases htable

end Bundler

end Amalgam
