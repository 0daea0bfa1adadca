import Amalgam.Proofs.Bundle.Session
import Amalgam.Proofs.Symbols.Grouping
/-!
# What the merger sees

A run calls its merger once, if at all, and then every file of the plan holds its renamed text, every backup holds the
file as it was, and all else is as it was before the run. The plan is read off the table: its files are those with a new
name in some row, and the entries of a file are all its rows in their order.
-/

namespace Amalgam

open Amalgam.Symbols FileSystem Backup

namespace Bundler

/-! ### The plan of a table -/

/-- The rows of the table that a run reads, none if there is no table. -/
def tableRows (b : Bundler) (source table : Option String) (w : World) : List Entry :=
  let rows : Action (List Entry) := do
    let path ← requireSource source
    match ← b.findTable path table with
    | none => return []
    | some csv => readTable csv.text b.settings.rename.encoding
  match (rows.runIn w).1 with
  | .ok rows => rows
  | .error _ => []

/-- A plan is made of the rows of its table. -/
theorem grouped_of_plan {b : Bundler} {csv : String} {w : World} {p : Plan} (h : ((b.plan csv).runIn w).1 = .ok p) :
    ∃ rows groups, ((readTable csv b.settings.rename.encoding).runIn w).1 = .ok rows ∧ Grouped rows groups ∧
      p = withRenames groups := by
  obtain ⟨rows, w₁, hread, hrest⟩ := Action.runIn_bind_eq_ok (Prod.ext h rfl)
  obtain ⟨_, w₂, _, hrest⟩ := Action.runIn_bind_eq_ok hrest
  obtain ⟨groups, w₃, hgroups, hrest⟩ := Action.runIn_bind_eq_ok hrest
  exact ⟨rows, groups, by rw [hread], grouped_groupByFile (Action.runIn_ofExcept_eq_ok hgroups).1,
    by simpa using (congrArg Prod.fst hrest).symm⟩

/-- The rows of the plan of a run, grouped by file. -/
theorem grouped_of_tablePlan {b : Bundler} {source table : Option String} {w : World} {p : Plan}
    (h : ((b.tablePlan source table).runIn w).1 = .ok p) :
    ∃ groups, Grouped (b.tableRows source table w) groups ∧ p = withRenames groups := by
  obtain ⟨src, w₁, hsource, hrest⟩ := Action.runIn_bind_eq_ok (Prod.ext h rfl)
  obtain ⟨found, w₂, hfound, hrest⟩ := Action.runIn_bind_eq_ok hrest
  simp only [tableRows]
  rw [Action.runIn_bind_ok hsource, Action.runIn_bind_ok hfound]
  cases found with
  | none =>
    have hp : p = [] := by simpa using (congrArg Prod.fst hrest).symm
    exact ⟨[], ⟨by simp, rfl, List.nodup_nil, by simp⟩, hp⟩
  | some csv =>
    obtain ⟨rows, groups, hread, hgrouped, hp⟩ := grouped_of_plan (congrArg Prod.fst hrest)
    dsimp only
    rw [hread]
    exact ⟨groups, hgrouped, hp⟩

theorem isPlan_of_tablePlan {b : Bundler} {source table : Option String} {w : World} {p : Plan}
    (h : ((b.tablePlan source table).runIn w).1 = .ok p) : IsPlan (b.tableRows source table w) p := by
  obtain ⟨groups, hgrouped, rfl⟩ := grouped_of_tablePlan h
  exact hgrouped.isPlan

/-! ### The rename loop -/

theorem renameOne_ok {b : Bundler} {file : String} {entries : List Entry} {result result' : BundleResult} {w w' : World}
    (hany : entries.any Entry.hasRename = true)
    (h : (b.renameOne file entries).runIn result w = ((.ok (), result'), w')) :
    ∃ r original bytes executable, w.files.locate (Path.ofText file).text = .ok r ∧
      w.files.node? r = some (.file original executable) ∧ Rename.Renamed b.settings.rename entries original bytes ∧
      w'.files = w.files.put r (.file bytes executable) := by
  obtain ⟨_, result₁, w₁, hlog, h⟩ := Work.runIn_bind_eq_ok h
  obtain ⟨report, result₂, w₂, hrename, hnote⟩ := Work.runIn_bind_eq_ok h
  cases hlog
  cases hnote
  simp only [Work.runIn_lift, Prod.mk.injEq] at hrename
  have hok := Rename.renameFile_ok hany (Prod.ext hrename.1.1 hrename.2)
  exact hok

/-- Every file of the plan holds its renamed text, and nothing else has changed. -/
structure RenamedIn (b : Bundler) (p : Plan) (fs fs' : FileSystem) : Prop where
  file : ∀ group ∈ p, ∃ r original bytes executable, fs.locate (Path.ofText group.1).text = .ok r ∧
    fs.node? r = some (.file original executable) ∧ Rename.Renamed b.settings.rename group.2 original bytes ∧
    fs'.node? r = some (.file bytes executable)
  changes : ChangesOnly (fun path => ∃ q ∈ planPaths p, path = q.text) fs fs'

theorem renameAll_ok {b : Bundler} {p : Plan} {result result' : BundleResult} {w w' : World}
    (hany : ∀ group ∈ p, group.2.any Entry.hasRename = true)
    (hplaces : (planPaths p).Pairwise fun x y => ¬ w.files.SamePlace x.text y.text)
    (h : (p.forM fun (file, entries) => b.renameOne file entries : Work Unit).runIn result w =
      ((.ok (), result'), w')) :
    RenamedIn b p w.files w'.files := by
  induction p generalizing result w with
  | nil =>
    cases h
    exact ⟨by simp, .refl _ _⟩
  | cons group rest ih =>
    obtain ⟨_, result₁, w₁, hfirst, hrest⟩ := Work.runIn_bind_eq_ok h
    obtain ⟨r, original, bytes, executable, hloc, hnode, hrenamed, hput⟩ :=
      renameOne_ok (hany group List.mem_cons_self) hfirst
    have hdir : w.files.node? r ≠ some .directory := by simp [hnode]
    have hchange : ChangesOnly (· = (Path.ofText group.1).text) w.files w₁.files := by
      rw [hput]
      exact changesOnly_put hloc hdir bytes executable
    have hsame := hchange.sameFolders
    obtain ⟨hapart, hplaces⟩ := List.pairwise_cons.mp hplaces
    have hplaces₁ : (planPaths rest).Pairwise fun x y => ¬ w₁.files.SamePlace x.text y.text := by
      refine hplaces.imp ?_
      rintro x y hnot ⟨place, hx, hy⟩
      exact hnot ⟨place, hsame.locate_ok.mp hx, hsame.locate_ok.mp hy⟩
    have hrestRenamed := ih (fun g hg => hany g (List.mem_cons_of_mem _ hg)) hplaces₁ hrest
    -- No later file of the plan is where this one is.
    have hother : ∀ q ∈ planPaths rest, w.files.locate q.text ≠ .ok r := fun q hq hr => hapart q hq ⟨r, hloc, hr⟩
    refine ⟨fun g hg => ?_, ?_⟩
    · rcases List.mem_cons.mp hg with rfl | hg
      · refine ⟨r, original, bytes, executable, hloc, hnode, hrenamed, ?_⟩
        have hkept : w'.files.node? r = w₁.files.node? r := by
          refine hrestRenamed.changes.node_eq ?_
          rintro _ ⟨q, hq, rfl⟩ hr
          exact hother q hq (hsame.locate_ok.mp hr)
        rw [hkept, hput, node?_put_self _ _ (ne_nil_of_node? hdir)]
      · obtain ⟨r', original', bytes', executable', hloc', hnode', hrenamed', hafter⟩ := hrestRenamed.file g hg
        have hne : r' ≠ r := by
          rintro rfl
          exact hother _ (List.mem_map_of_mem hg) (hsame.locate_ok.mp hloc')
        rw [hput, node?_put_other _ _ hne] at hnode'
        exact ⟨r', original', bytes', executable', hsame.locate_ok.mp hloc', hnode', hrenamed', hafter⟩
    · refine (hchange.mono ?_).trans (hrestRenamed.changes.mono ?_)
      · rintro _ rfl
        exact ⟨_, List.mem_cons_self, rfl⟩
      · rintro _ ⟨q, hq, rfl⟩
        exact ⟨q, List.mem_cons_of_mem _ hq, rfl⟩

/-! ### The call of the merger -/

/-- What the files are like when the merger is called: files of the plan renamed, backups as the files were, and all
else as it was. -/
structure ReadyToMerge (b : Bundler) (p : Plan) (fs fs' : FileSystem) : Prop where
  file : ∀ group ∈ p, ∃ original bytes executable,
    fs.stat (Path.ofText group.1).text = .ok (.file original executable) ∧
    Rename.Renamed b.settings.rename group.2 original bytes ∧
    fs'.stat (Path.ofText group.1).text = .ok (.file bytes executable)
  backup : ∀ path ∈ planPaths p, ∃ s, siblingPath b.settings.rename.backupSuffix path = .ok s ∧
    fs'.stat s.text = fs.stat path.text
  rest : ∀ path, (∀ q ∈ planPaths p, ¬ fs.SamePlace path q.text ∧
    ∀ s, siblingPath b.settings.rename.backupSuffix q = .ok s → ¬ fs.SamePlace path s.text) →
    fs'.probe path = fs.probe path
  untouched : p = [] → fs' = fs

theorem readyToMerge_nil (b : Bundler) (fs : FileSystem) : ReadyToMerge b [] fs fs :=
  ⟨by simp, by simp [planPaths], fun _ _ => rfl, fun _ => rfl⟩

/-- A backup followed by the renames makes the files ready. -/
theorem RenamedIn.readyToMerge {b : Bundler} {p : Plan} {xs : List Site} {fs mid fs' : FileSystem}
    (hpaths : xs.map Site.path = planPaths p) (hready : Ready b.settings.rename.backupSuffix fs xs)
    (hbacked : Backed xs fs mid) (h : RenamedIn b p mid fs') (hne : p ≠ []) : ReadyToMerge b p fs fs' := by
  have hsame := hbacked.sameFolders hready
  have hsame' := h.changes.sameFolders
  have hsite : ∀ path ∈ planPaths p, ∃ x ∈ xs, x.path = path := fun path hpath => List.mem_map.mp (hpaths ▸ hpath)
  have hguarded : Guarded b.settings.rename.backupSuffix xs fs fs' := by
    refine guarded_of_rename hready ?_ h.changes (hbacked.guarded hready)
    rintro _ ⟨q, hq, rfl⟩
    obtain ⟨x, hx, rfl⟩ := hsite q hq
    exact ⟨x, hx, rfl⟩
  refine ⟨fun group hgroup => ?_, fun path hpath => ?_, fun path hpath => ?_, fun hnil => absurd hnil hne⟩
  · obtain ⟨r, original, bytes, executable, hloc, hnode, hrenamed, hafter⟩ := h.file group hgroup
    obtain ⟨x, hx, hxpath⟩ := hsite _ (List.mem_map_of_mem hgroup)
    rw [← hxpath] at hloc ⊢
    obtain rfl : x.route = r := by simpa [((hready.isIn x hx).of_sameFolders hsame).locate] using hloc
    rw [hbacked.route hready hx] at hnode
    exact ⟨original, bytes, executable, (hready.isIn x hx).stat_eq_ok_iff.mpr hnode, hrenamed,
      (hguarded.isIn x hx).stat_eq_ok_iff.mpr hafter⟩
  · obtain ⟨x, hx, rfl⟩ := hsite path hpath
    obtain ⟨bytes, executable, hfile⟩ := hready.file x hx
    refine ⟨x.sibling, (hready.isIn x hx).siblingPath_eq, ?_⟩
    rw [(hready.isIn x hx).stat_eq_ok_iff.mpr hfile, (hguarded.isIn x hx).stat_sibling_eq_ok_iff,
      hguarded.spot x hx, hfile]
  · have hrenames : fs'.probe path = mid.probe path := by
      refine h.changes.probe_eq ?_
      rintro _ ⟨q, hq, rfl⟩ ⟨r, hr, hq'⟩
      exact (hpath q hq).1 ⟨r, hsame.locate_ok.mp hr, hsame.locate_ok.mp hq'⟩
    refine hrenames.trans (hsame.probe_eq fun r hr => hbacked.rest r ?_)
    rintro x hx rfl
    have hin := hready.isIn x hx
    exact (hpath x.path (hpaths ▸ List.mem_map_of_mem hx)).2 x.sibling hin.siblingPath_eq
      ⟨x.spot, hr, hin.locate_sibling⟩

/-- The files are ready after a backup of the plan and the renames. -/
theorem readyToMerge_of_renameAll {b : Bundler} {p : Plan} {summary : Summary} {result result₁ : BundleResult}
    {w w₁ w₂ : World} (hany : ∀ group ∈ p, group.2.any Entry.hasRename = true)
    (hfile : ∀ path ∈ planPaths p, w.files.FileAt path.text)
    (hsep : Separate b.settings.rename.backupSuffix w.files (planPaths p))
    (hplaces : (planPaths p).Pairwise fun x y => ¬ w.files.SamePlace x.text y.text)
    (hbackUp : (backUp b.settings.rename.backupSuffix (planPaths p)).runIn w = (.ok summary, w₁))
    (hrename : (b.renameAll p).runIn result w₁ = ((.ok (), result₁), w₂)) : ReadyToMerge b p w.files w₂.files := by
  by_cases hnil : p = []
  · subst hnil
    cases hbackUp
    cases hrename
    exact readyToMerge_nil b w.files
  · have hends := backUp_ends w (fun path hpath => plain_of_mem_planPaths hpath) hfile hsep
    rw [hbackUp] at hends
    cases hends with
    | backed hpaths hready hbacked =>
      have hsame := hbacked.sameFolders hready
      refine (renameAll_ok hany (hplaces.imp ?_) hrename).readyToMerge hpaths hready hbacked hnil
      rintro x y hnot ⟨r, hx, hy⟩
      exact hnot ⟨r, hsame.locate_ok.mp hx, hsame.locate_ok.mp hy⟩

theorem planSession_runIn (b : Bundler) (p : Plan) (src out : Path) (args : List String) (result : BundleResult)
    (w : World) (merge : Merge) : ((b.withMerge merge).planSession p src out args).runIn result w =
      match (backUp b.settings.rename.backupSuffix (planPaths p)).runIn w with
      | (.error failure, w₁) => ((.error failure, result), w₁)
      | (.ok _, w₁) => afterBody b.settings.rename.backupSuffix (planPaths p) b.restoresOnFailure
        (match (b.renameAll p).runIn result w₁ with
          | ((.ok (), result₁), w₂) => ((((merge src out args).runIn w₂).1, result₁), ((merge src out args).runIn w₂).2)
          | ((.error failure, result₁), w₂) => ((.error failure, result₁), w₂)) := by
  rw [planSession, session_runIn]
  simp only [renameAndMerge_runIn]
  rfl

theorem planSession_calls {b : Bundler} {p : Plan} {src out : Path} {args : List String} (result : BundleResult)
    (w : World) (hany : ∀ group ∈ p, group.2.any Entry.hasRename = true)
    (hfile : ∀ path ∈ planPaths p, w.files.FileAt path.text)
    (hsep : Separate b.settings.rename.backupSuffix w.files (planPaths p))
    (hplaces : (planPaths p).Pairwise fun x y => ¬ w.files.SamePlace x.text y.text) :
    (∃ run, ∀ merge, ((b.withMerge merge).planSession p src out args).runIn result w = run) ∨
      ∃ (w₁ : World) (finish : Except Failure Unit × World → (Except Failure Unit × BundleResult) × World),
        ReadyToMerge b p w.files w₁.files ∧
          ∀ merge, ((b.withMerge merge).planSession p src out args).runIn result w =
            finish ((merge src out args).runIn w₁) := by
  simp only [planSession_runIn]
  rcases hbackUp : (backUp b.settings.rename.backupSuffix (planPaths p)).runIn w with ⟨failure | summary, w₁⟩
  · exact Or.inl ⟨_, fun _ => rfl⟩
  · dsimp only
    rcases hrename : (b.renameAll p).runIn result w₁ with ⟨⟨failure | ⟨⟩, result₁⟩, w₂⟩
    · exact Or.inl ⟨afterBody b.settings.rename.backupSuffix (planPaths p) b.restoresOnFailure
        ((.error failure, result₁), w₂), fun _ => rfl⟩
    · have hready := readyToMerge_of_renameAll hany hfile hsep hplaces hbackUp hrename
      exact Or.inr ⟨w₂, fun ended => afterBody b.settings.rename.backupSuffix (planPaths p) b.restoresOnFailure
        ((ended.1, result₁), ended.2), hready, fun _ => rfl⟩

/-- The run does not depend on what its merger would do. -/
def NeverCalls (run : Merge → Except Failure BundleResult × World) : Prop :=
  ∀ merge merge', run merge = run merge'

theorem not_neverCalls {run : Merge → Except Failure BundleResult × World} {merge merge' : Merge}
    (hsucceeds : Succeeds (run merge)) (hfails : ¬ Succeeds (run merge')) : ¬ NeverCalls run := by
  intro hnever
  rw [hnever merge merge'] at hsucceeds
  exact hfails hsucceeds

/-- All that the run takes from its merger is one call with these paths and arguments in this world. -/
def CallsIn (w : World) (src out : Path) (args : List String) (run : Merge → Except Failure BundleResult × World) :
    Prop :=
  ∃ finish : Except Failure Unit × World → Except Failure BundleResult × World,
    ∀ merge, run merge = finish ((merge src out args).runIn w)

/-- Either the run is over before its merger is called, or it calls it once with the source, the bundle and the
arguments, and the files are then ready by the plan of the table. -/
theorem merger_view {b : Bundler} {source table output : Option String} {args : List String} {w : World}
    (hquiet : b.Quiet)
    (hplaces : (planPaths (b.renamePlan source table w)).Pairwise fun x y => ¬ w.files.SamePlace x.text y.text)
    (hsep : Separate b.settings.rename.backupSuffix w.files (planPaths (b.renamePlan source table w))) (dryRun : Bool) :
    NeverCalls (fun merge => ((b.withMerge merge).bundle source table output args dryRun).runIn w) ∨
      ∃ (src out : Path) (w₁ : World), Hands source output src out ∧
        CallsIn w₁ src out args (fun merge => ((b.withMerge merge).bundle source table output args dryRun).runIn w) ∧
        ReadyToMerge b (b.renamePlan source table w) w.files w₁.files ∧
        IsPlan (b.tableRows source table w) (b.renamePlan source table w) ∧
        ((∀ row ∈ b.tableRows source table w, row.hasRename = false) → w₁.files = w.files) := by
  cases bundle_runsAs hquiet source table output args dryRun w with
  | idle _ hfiles hrun => exact Or.inl fun merge merge' => (hrun merge).trans (hrun merge').symm
  | @merged src out w₁ finish hhands hplan hfiles hfinish hrun =>
    rw [renamePlan_eq hplan]
    exact Or.inr ⟨src, out, w₁, hhands, ⟨finish, hrun⟩, hfiles ▸ readyToMerge_nil b w.files, isPlan_of_tablePlan hplan,
      fun _ => hfiles⟩
  | @session src out p result w₁ hhands hplan hfile hresult hfiles hrun =>
    obtain rfl := renamePlan_eq hplan
    have hisPlan := isPlan_of_tablePlan hplan
    rw [← hfiles] at hplaces hsep hfile
    rcases planSession_calls result w₁ (fun group hgroup => hisPlan.any_hasRename hgroup) hfile hsep hplaces with
      ⟨run, hconst⟩ | ⟨w₂, finish, hready, hcalls⟩
    · refine Or.inl fun merge merge' => ?_
      dsimp only
      rw [hrun, hrun, hconst, hconst]
    · rw [hfiles] at hready
      refine Or.inr ⟨src, out, w₂, hhands, ⟨fun ended => closed b (b.renamePlan source table w) out (finish ended),
        fun merge => ?_⟩, hready, hisPlan, fun hnone => hready.untouched (hisPlan.eq_nil hnone)⟩
      dsimp only
      rw [hrun, hcalls]

/-- Two files of which each has its own new name. -/
theorem merger_view_two_files :
    let b := smallBundler .always fun _ _ _ => pure ()
    let w := smallWorld [(["a.c"], textFile "f"), (["b.c"], textFile "f"),
      (["t.csv"], tableFile "a.c:1,f,g\nb.c:1,f,h\n")]
    let run := fun merge => ((b.withMerge merge).bundle (some "a.c") (some "t.csv") (some "out.c") [] false).runIn w
    ¬ NeverCalls run ∧ ∃ (src out : Path) (w₁ : World), Hands (some "a.c") (some "out.c") src out ∧
      CallsIn w₁ src out [] run ∧ ReadyToMerge b (b.renamePlan (some "a.c") (some "t.csv") w) w.files w₁.files := by
  intro b w run
  obtain ⟨hsucceeds, hfails, hplan, hplaces, hsep⟩ : Succeeds (run fun _ _ _ => pure ()) ∧
      ¬ Succeeds (run fun _ _ _ => throw (.raised .interrupt "")) ∧
      planPaths (b.renamePlan (some "a.c") (some "t.csv") w) = [Path.ofText "a.c", Path.ofText "b.c"] ∧
      ([Path.ofText "a.c", Path.ofText "b.c"].Pairwise fun x y => ¬ w.files.SamePlace x.text y.text) ∧
      Separate (.text ".bak") w.files [Path.ofText "a.c", Path.ofText "b.c"] := by
    decide +kernel
  have hcalls : ¬ NeverCalls run := not_neverCalls hsucceeds hfails
  rw [← hplan] at hplaces hsep
  refine ⟨hcalls, ?_⟩
  rcases merger_view (smallBundler_quiet _ _) hplaces hsep false with hnever | ⟨src, out, w₁, hhands, hin, hready, _⟩
  · exact absurd hnever hcalls
  · exact ⟨src, out, w₁, hhands, hin, hready⟩

end Bundler

end Amalgam
