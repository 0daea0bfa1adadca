import Amalgam.Proofs.Bundle.Preconditions
/-!
# What a result tells of its run

A run fills its result step by step and may end at each of them: before its plan is known, between two passes, in its
merger, or when its files are restored. Whatever the end, the result tells of the passes that were completed and of no
other, because a pass is noted only after its file is written; and it tells of restored files only after the session has
ended well. Nothing is assumed of the merger here. Asking whether it is there may change the files, so the plan is that
of the table as the run reads it, after it has asked.
-/

namespace Amalgam

open Amalgam.Text Amalgam.Symbols FileSystem Backup

namespace Bundler

/-! ### The table as a run reads it -/

/-- The rows of the table for a source, none if there is no table. -/
def rowsFor (b : Bundler) (src : Path) (table : Option String) : Action (List Entry) := do
  match ← b.findTable src table with
  | none => return []
  | some csv => readTable csv.text b.settings.rename.encoding

/-- The first questions of a run, up to the rows of its table. -/
def askedRows (b : Bundler) (source table : Option String) (dryRun : Bool) : Action (List Entry) := do
  let src ← requireSource source
  if !dryRun then b.requireTools .bundle
  b.rowsFor src table

/-- The rows that reading a table gives, none if it fails. -/
def rowsOf : Except Failure (List Entry) × World → List Entry
  | (.ok rows, _) => rows
  | (.error _, _) => []

/-! ### Completed passes -/

/-- A pass over one file has come to its end: the file holds its renamed text, and nothing else has changed. -/
structure Completed (b : Bundler) (file : String) (entries : List Entry) (w : World) (report : Rename.Report)
    (w' : World) : Prop where
  run : (Rename.renameFile b.settings.rename file entries).runIn w = (.ok report, w')
  written : report.written = true
  file : ∃ r original bytes executable, w.files.locate (Path.ofText file).text = .ok r ∧
    w.files.node? r = some (.file original executable) ∧ Rename.Renamed b.settings.rename entries original bytes ∧
    w'.files = w.files.put r (.file bytes executable)

/-- The world in which a pass begins: the run has said so. -/
def announced (file : String) (w : World) : World :=
  { w with journal := w.journal ++ [.logged ⟨.info, logger, "Renaming symbols in file " ++ file ++ " ..."⟩] }

/-- Completed passes over the files of a plan, one after the other, and the counts of each. -/
inductive Passed (b : Bundler) : World → Plan → Renames → World → Prop
  | nil (w : World) : Passed b w [] [] w
  | cons {file : String} {entries : List Entry} {report : Rename.Report} {rest : Plan} {renames : Renames}
      {w w₁ w₂ : World} (hpass : Completed b file entries (announced file w) report w₁)
      (hrest : Passed b w₁ rest renames w₂) :
      Passed b w ((file, entries) :: rest) ((file, report.replacements) :: renames) w₂

/-- How a run comes by the renames that it tells of: there are none, or they are the completed passes over the first
files of its plan, which follow a backup of all its files. -/
inductive Accounted (b : Bundler) (fs : FileSystem) (p : Plan) : Renames → Prop
  | none : Accounted b fs p []
  | passed {w w₁ w₂ : World} {summary : Summary} {done : Plan} {renames : Renames} (hfiles : w.files = fs)
      (hbackUp : (backUp b.settings.rename.backupSuffix (planPaths p)).runIn w = (.ok summary, w₁))
      (hdone : done <+: p) (hpassed : Passed b w₁ done renames w₂) : Accounted b fs p renames

section

variable {b : Bundler} {source table output : Option String} {args : List String} {dryRun : Bool} {w w' : World}
  {src out csv : Path} {p : Plan} {rows : List Entry} {fs : FileSystem} {renames : Renames} {result : BundleResult}

theorem Passed.names (h : Passed b w p renames w') : renames.map Prod.fst = p.map Prod.fst := by
  induction h with
  | nil => rfl
  | cons _ _ ih => rw [List.map_cons, List.map_cons, ih]

theorem Accounted.names_prefix (h : Accounted b fs p renames) : renames.map Prod.fst <+: p.map Prod.fst := by
  cases h with
  | none => exact List.nil_prefix
  | passed _ _ hdone hpassed =>
    rw [hpassed.names]
    exact hdone.map Prod.fst

theorem renameOne_runIn (b : Bundler) (file : String) (entries : List Entry) (result : BundleResult) (w : World) :
    (b.renameOne file entries).runIn result w =
      match (Rename.renameFile b.settings.rename file entries).runIn (announced file w) with
      | (.ok report, w') => ((.ok (), { result with
          renames := result.renames ++ [(file, report.replacements)]
          warnings := result.warnings ++ report.skipped.map fun s => file ++ ": no identifier in " ++ quoted s }), w')
      | (.error failure, w') => ((.error failure, result), w') := by
  have hlog : (Action.log .info logger ("Renaming symbols in file " ++ file ++ " ...")).runIn w =
      (.ok (), announced file w) := rfl
  rw [renameOne, Work.runIn_lift_bind, hlog]
  dsimp only
  rw [Work.runIn_lift_bind]
  rcases (Rename.renameFile b.settings.rename file entries).runIn (announced file w) with ⟨failure | report, w'⟩ <;> rfl

/-- Renaming notes the passes that it completes, also when it ends before the last. -/
theorem renameAll_passed (hany : ∀ group ∈ p, group.2.any Entry.hasRename = true) (result : BundleResult) (w : World) :
    ∃ done renames warnings w₁ ended w₂, (b.renameAll p).runIn result w =
        ((ended, { result with renames := result.renames ++ renames, warnings := warnings }), w₂) ∧
      Passed b w done renames w₁ ∧ done <+: p ∧ (ended = .ok () → done = p) := by
  induction p generalizing result w with
  | nil =>
    refine ⟨[], [], result.warnings, w, .ok (), w, ?_, .nil w, List.nil_prefix, fun _ => rfl⟩
    rw [List.append_nil]
    rfl
  | cons group rest ih =>
    obtain ⟨file, entries⟩ := group
    have hfirst : entries.any Entry.hasRename = true := hany (file, entries) List.mem_cons_self
    have hbind : b.renameAll ((file, entries) :: rest) = b.renameOne file entries >>= fun _ => b.renameAll rest := rfl
    rw [hbind, Work.runIn_bind, renameOne_runIn]
    rcases hpass : (Rename.renameFile b.settings.rename file entries).runIn (announced file w) with
      ⟨failure | report, w₁⟩
    · refine ⟨[], [], result.warnings, w, .error failure, w₁, ?_, .nil w, List.nil_prefix, fun h => nomatch h⟩
      rw [List.append_nil]
    · dsimp only
      obtain ⟨done, renames, warnings, w₂, ended, w₃, hrun, hpassed, hdone, hall⟩ :=
        ih (fun group hgroup => hany group (List.mem_cons_of_mem _ hgroup)) { result with
          renames := result.renames ++ [(file, report.replacements)]
          warnings := result.warnings ++ report.skipped.map fun s => file ++ ": no identifier in " ++ quoted s } w₁
      have hcompleted : Completed b file entries (announced file w) report w₁ :=
        ⟨hpass, Rename.renameFile_written hfirst hpass, Rename.renameFile_ok hfirst hpass⟩
      refine ⟨(file, entries) :: done, (file, report.replacements) :: renames, warnings, w₂, ended, w₃, ?_,
        .cons hcompleted hpassed, List.cons_prefix_cons.mpr ⟨rfl, hdone⟩, fun hok => by rw [hall hok]⟩
      rw [hrun, List.append_assoc]
      rfl

/-! ### The ends of a run -/

/-- Nothing is noted yet of what a session does. -/
def Blank (result : BundleResult) : Prop :=
  result.success = false ∧ result.renames = [] ∧ result.restoredFiles = []

theorem concluded_ok {run : (Except Failure Unit × BundleResult) × World} (h : (concluded run).1 = .ok result) :
    run.1.1 = .ok () ∧ result = { run.1.2 with success := true } ∨
      ∃ failure, run.1.1 = .error failure ∧
        result = { run.1.2 with errors := run.1.2.errors ++ [failure.message] } := by
  rcases run with ⟨⟨failure | ⟨⟩, result₀⟩, w⟩
  · simp only [concluded] at h
    split_ifs at h
    cases h
    exact .inr ⟨failure, rfl, rfl⟩
  · cases h
    exact .inl ⟨rfl, rfl⟩

theorem closed_ok {run : (Except Failure Unit × BundleResult) × World} (h : (closed b p out run).1 = .ok result) :
    result.renames = run.1.2.renames ∧
      (run.1.1 = .ok () ∧ result.success = true ∧ result.restoredFiles = p.map Prod.fst ∨
        run.1.1 ≠ .ok () ∧ result.success = run.1.2.success ∧ result.restoredFiles = run.1.2.restoredFiles) := by
  rcases run with ⟨⟨failure | ⟨⟩, result₀⟩, w⟩
  · rcases concluded_ok h with ⟨hok, _⟩ | ⟨_, _, rfl⟩
    · cases hok
    · have hfailed : (Except.error failure : Except Failure Unit) ≠ .ok () := by simp
      simp only [annotated]
      split_ifs
      · exact ⟨rfl, .inr ⟨hfailed, rfl, rfl⟩⟩
      · exact ⟨rfl, .inr ⟨hfailed, rfl, rfl⟩⟩
  · rcases concluded_ok h with ⟨_, rfl⟩ | ⟨_, herror, _⟩
    · exact ⟨rfl, .inl ⟨rfl, rfl, rfl⟩⟩
    · cases herror

/-- What a result tells of the table of its run and of the files that the run finds. -/
structure Tells (b : Bundler) (rows : List Entry) (fs : FileSystem) (result : BundleResult) : Prop where
  renames : Accounted b fs (planOf rows) result.renames
  restored : result.success = false → result.restoredFiles = []

/-- How a run ends, as a function of what its merger does when it is called. It ends with the same result whatever that
is, or with one that depends on the end of a single call. -/
inductive Concludes (b : Bundler) (source output : Option String) (args : List String) (dryRun : Bool)
    (rows : List Entry) (fs : FileSystem) (run : Merge → Except Failure BundleResult × World) : Prop
  | idle {ended : Except Failure BundleResult × World}
      (htells : ∀ result, ended.1 = .ok result → Tells b rows fs result ∧ (result.success = true → dryRun = true))
      (hrun : ∀ merge, run merge = ended)
  | called {src out : Path} {w₁ : World} {finish : Except Failure Unit × World → Except Failure BundleResult × World}
      (hhands : Hands source output src out)
      (htells : ∀ ended result, (finish ended).1 = .ok result → Tells b rows fs result ∧
        (result.success = true → ended.1 = .ok () ∧ result.restoredFiles = renamedFiles rows ∧
          result.renames.map Prod.fst = renamedFiles rows))
      (hrun : ∀ merge, run merge = finish ((merge src out args).runIn w₁))

theorem Concludes.congr {run run' : Merge → Except Failure BundleResult × World}
    (h : Concludes b source output args dryRun rows fs run) (heq : ∀ merge, run' merge = run merge) :
    Concludes b source output args dryRun rows fs run' := by
  rwa [funext heq]

/-- A run that ends before its session tells of nothing. -/
theorem Concludes.of_blank {run : Merge → Except Failure BundleResult × World}
    {ended : (Except Failure Unit × BundleResult) × World} (hblank : Blank ended.1.2)
    (hended : ended.1.1 = .ok () → dryRun = true) (hrun : ∀ merge, run merge = concluded ended) :
    Concludes b source output args dryRun rows fs run := by
  obtain ⟨hsuccess, hrenames, hrestored⟩ := hblank
  refine .idle (fun result hok => ?_) hrun
  rcases concluded_ok hok with ⟨hdone, rfl⟩ | ⟨failure, _, rfl⟩
  · exact ⟨⟨hrenames ▸ .none, fun h => nomatch h⟩, fun _ => hended hdone⟩
  · refine ⟨⟨hrenames ▸ .none, fun _ => hrestored⟩, fun h => ?_⟩
    rw [hsuccess] at h
    cases h

/-- A run without a table tells of nothing but the end of its call. -/
theorem bundlePlain_concludes (hblank : Blank result) (hhands : Hands source output src out) (w₁ : World) :
    Concludes b source output args false [] fs fun merge =>
      concluded (((b.withMerge merge).bundlePlain src out args false).runIn result w₁) := by
  obtain ⟨hsuccess, hrenames, hrestored⟩ := hblank
  have htells : ∀ ended result', (finished result out ended).1 = .ok result' → Tells b [] fs result' ∧
      (result'.success = true → ended.1 = .ok () ∧ result'.restoredFiles = renamedFiles [] ∧
        result'.renames.map Prod.fst = renamedFiles []) := by
    rintro ⟨failure | ⟨⟩, w₂⟩ result' hok
    · rcases concluded_ok hok with ⟨hdone, _⟩ | ⟨_, _, rfl⟩
      · cases hdone
      · refine ⟨⟨hrenames ▸ .none, fun _ => hrestored⟩, fun h => ?_⟩
        rw [hsuccess] at h
        cases h
    · rcases concluded_ok hok with ⟨_, rfl⟩ | ⟨_, hfailed, _⟩
      · exact ⟨⟨hrenames ▸ .none, fun h => nomatch h⟩, fun _ => ⟨rfl, hrestored, by rw [hrenames]; rfl⟩⟩
      · cases hfailed
  exact .called hhands htells fun merge => bundlePlain_concluded b src out args merge result w₁

/-- A run whose session fails tells of the passes before that, and of no restored file. -/
theorem tells_of_failed {run : (Except Failure Unit × BundleResult) × World} (hfailed : run.1.1 ≠ .ok ())
    (hsuccess : run.1.2.success = false) (hrestored : run.1.2.restoredFiles = [])
    (haccounted : Accounted b fs (planOf rows) run.1.2.renames) (h : (closed b p out run).1 = .ok result) :
    Tells b rows fs result ∧ result.success = false := by
  rcases closed_ok h with ⟨hsame, ⟨hdone, _⟩ | ⟨_, hsame', hsame''⟩⟩
  · exact absurd hdone hfailed
  · exact ⟨⟨hsame ▸ haccounted, fun _ => hsame''.trans hrestored⟩, hsame'.trans hsuccess⟩

theorem Concludes.of_failed {run : Merge → Except Failure BundleResult × World}
    {ended : (Except Failure Unit × BundleResult) × World} (hfailed : ended.1.1 ≠ .ok ())
    (hsuccess : ended.1.2.success = false) (hrestored : ended.1.2.restoredFiles = [])
    (haccounted : Accounted b fs (planOf rows) ended.1.2.renames) (hrun : ∀ merge, run merge = closed b p out ended) :
    Concludes b source output args dryRun rows fs run := by
  refine .idle (fun result hok => ?_) hrun
  obtain ⟨htells, hunsuccessful⟩ := tells_of_failed hfailed hsuccess hrestored haccounted hok
  exact ⟨htells, fun h => nomatch hunsuccessful.symm.trans h⟩

/-- A run with a session tells of the passes that its session completes, and of the restored files if it ends well. -/
theorem planSession_concludes (hblank : Blank result) (hhands : Hands source output src out)
    (hany : ∀ group ∈ planOf rows, group.2.any Entry.hasRename = true) (hfiles : w.files = fs) :
    Concludes b source output args false rows fs fun merge => closed b (planOf rows) out
      (((b.withMerge merge).planSession (planOf rows) src out args).runIn result w) := by
  obtain ⟨hsuccess, hrenames, hrestored⟩ := hblank
  simp only [planSession_runIn]
  rcases hbackUp : (backUp b.settings.rename.backupSuffix (planPaths (planOf rows))).runIn w with
    ⟨failure | summary, w₁⟩
  · exact .of_failed (by simp) hsuccess hrestored (hrenames ▸ .none) fun _ => rfl
  · dsimp only
    obtain ⟨done, renames, warnings, w₂, ended, w₃, hrun, hpassed, hdone, hall⟩ := renameAll_passed hany result w₁
    have haccounted : Accounted b fs (planOf rows) renames := .passed hfiles hbackUp hdone hpassed
    rw [hrun, hrenames, List.nil_append]
    let noted : BundleResult := { result with renames := renames, warnings := warnings }
    cases ended with
    | error failure =>
      have hfailed : (afterBody b.settings.rename.backupSuffix (planPaths (planOf rows)) b.restoresOnFailure
          ((.error failure, noted), w₃)).1.1 ≠ .ok () := by
        intro hok
        cases (afterBody_ok hok).1
      exact .of_failed hfailed hsuccess hrestored haccounted fun _ => rfl
    | ok =>
      let finish := fun called : Except Failure Unit × World => closed b (planOf rows) out
        (afterBody b.settings.rename.backupSuffix (planPaths (planOf rows)) b.restoresOnFailure
          ((called.1, noted), called.2))
      have htells : ∀ called result', (finish called).1 = .ok result' → Tells b rows fs result' ∧
          (result'.success = true → called.1 = .ok () ∧ result'.restoredFiles = renamedFiles rows ∧
            result'.renames.map Prod.fst = renamedFiles rows) := by
        intro called result' hok
        by_cases hended : (afterBody b.settings.rename.backupSuffix (planPaths (planOf rows)) b.restoresOnFailure
            ((called.1, noted), called.2)).1.1 = .ok ()
        · rcases closed_ok hok with ⟨hsame, ⟨_, hdone, hnames⟩ | ⟨hfailed, _⟩⟩
          · refine ⟨⟨hsame ▸ haccounted, fun h => nomatch hdone.symm.trans h⟩, fun _ =>
              ⟨(afterBody_ok hended).1, by rw [hnames, map_fst_planOf], ?_⟩⟩
            rw [hsame, ← map_fst_planOf, ← hall rfl]
            exact hpassed.names
          · exact absurd hended hfailed
        · obtain ⟨htells, hunsuccessful⟩ := tells_of_failed hended hsuccess hrestored haccounted hok
          exact ⟨htells, fun h => nomatch hunsuccessful.symm.trans h⟩
      exact .called hhands htells fun _ => rfl

theorem carryOut_concludes (hblank : Blank result) (hhands : Hands source output src out)
    (hany : ∀ group ∈ planOf rows, group.2.any Entry.hasRename = true) (hfiles : w.files = fs) :
    Concludes b source output args dryRun rows fs fun merge =>
      concluded (((b.withMerge merge).carryOut csv (planOf rows) src out args dryRun).runIn result w) := by
  obtain ⟨found, hmissing, _⟩ := filterM_isMissing ((planOf rows).map Prod.fst) result w
  simp only [carryOut, Work.runIn_bind, hmissing]
  rcases found with failure | _ | ⟨first, others⟩
  · exact .of_blank hblank (by simp) fun _ => rfl
  · cases dryRun with
    | true => exact .of_blank hblank (fun _ => rfl) fun _ => rfl
    | false =>
      obtain ⟨w₁, hw₁, hclosed⟩ := runSession_closed b (planOf rows) src out args result w
      exact (planSession_concludes hblank hhands hany (hw₁.trans hfiles)).congr hclosed
  · exact .of_blank hblank (by simp) fun _ => rfl

theorem bundleByTable_concludes (hblank : Blank result) (hhands : Hands source output src out) (w : World) :
    let read := (readTable csv.text b.settings.rename.encoding).runIn w
    Concludes b source output args dryRun (rowsOf read) read.2.files fun merge =>
      concluded (((b.withMerge merge).bundleByTable csv src out args dryRun).runIn result w) := by
  intro read
  obtain ⟨w₁, hw₁, hstart⟩ := bundleByTable_runIn b csv src out args dryRun result w
  have hread : read.2.files = w.files := (readTable_onlyReads csv.text _).files_eq w
  have hplanned := (plan_onlyReads b csv.text).files_eq w₁
  simp only [hstart]
  rcases hplan : (b.plan csv.text).runIn w₁ with ⟨failure | p, w₂⟩
  · exact .of_blank hblank (by simp) fun _ => rfl
  · rw [hplan] at hplanned
    obtain ⟨rows, groups, hrows, hgrouped, rfl⟩ := grouped_of_plan (by rw [hplan])
    rw [(readTable_onlyReads csv.text _).result_eq hw₁] at hrows
    have hrows' : rowsOf read = rows := by
      rw [show read = (.ok rows, read.2) from Prod.ext hrows rfl]
      rfl
    rw [hrows', hread, hgrouped.withRenames_eq]
    refine carryOut_concludes hblank hhands (fun group hgroup => ?_) (hplanned.trans hw₁)
    rw [← hgrouped.withRenames_eq] at hgroup
    exact hgrouped.isPlan.any_hasRename hgroup

theorem findTable_concludes (hblank : Blank result) (hhands : Hands source output src out) (w : World) :
    let read := (b.rowsFor src table).runIn w
    Concludes b source output args dryRun (rowsOf read) read.2.files fun merge => concluded ((do
      match ← b.findTable src table with
      | none => (b.withMerge merge).bundlePlain src out args dryRun
      | some csv => (b.withMerge merge).bundleByTable csv src out args dryRun : Work Unit).runIn result w) := by
  intro read
  simp only [read, rowsFor, Work.runIn_lift_bind, Action.runIn_bind]
  rcases (b.findTable src table).runIn w with ⟨failure | _ | csv, w₁⟩
  · exact .of_blank hblank (by simp) fun _ => rfl
  · cases dryRun with
    | true => exact .of_blank hblank (fun _ => rfl) fun _ => rfl
    | false => exact bundlePlain_concludes hblank hhands w₁
  · exact bundleByTable_concludes hblank hhands w₁

theorem bundle_concludes (b : Bundler) (source table output : Option String) (args : List String) (dryRun : Bool)
    (w : World) :
    let read := (b.askedRows source table dryRun).runIn w
    Concludes b source output args dryRun (rowsOf read) read.2.files fun merge =>
      ((b.withMerge merge).bundle source table output args dryRun).runIn w := by
  intro read
  have hfresh : Blank (freshResult dryRun) := ⟨rfl, rfl, rfl⟩
  simp only [bundle_runIn]
  rcases bundleWork_runIn b source table output args dryRun (freshResult dryRun) w with
    ⟨failure, w', _, hrun⟩ | ⟨src, out, w', hhands, hs, hrun⟩
  · exact .of_blank hfresh (by simp) fun merge => congrArg concluded (hrun merge)
  · obtain rfl : w = w' := by simpa [hs] using (requireSource_world source w).symm
    have hfound : Blank { freshResult dryRun with outputPath := some out.text } := ⟨rfl, rfl, rfl⟩
    simp only [hrun]
    have hread : read = (do
        if !dryRun then b.requireTools .bundle
        b.rowsFor src table : Action (List Entry)).runIn w := Action.runIn_bind_ok hs
    rw [hread]
    cases dryRun with
    | true => exact findTable_concludes hfound hhands w
    | false =>
      simp only [proceed_runIn, Bool.not_false, if_true, Action.runIn_bind]
      rcases (b.requireTools .bundle).runIn w with ⟨failure | ⟨⟩, w₁⟩
      · exact .of_blank hfound (by simp) fun _ => rfl
      · exact findTable_concludes hfound hhands w₁

/-! ### Results -/

/-- A result is consistent with the run that returns it. It reports success or one error. After a success the merger has
been called once and has returned, and the restored files and the renamed ones are the files of the plan. After a
failure no file is reported as restored, the merger has been called once at most, and the renamed files are the first of
the plan. Each rename that is reported is that of a pass that was completed and written. -/
theorem result_consistent (h : (b.bundle source table output args dryRun).runIn w = (.ok result, w')) :
    let read := (b.askedRows source table dryRun).runIn w
    let files := renamedFiles (rowsOf read)
    let run := fun merge => ((b.withMerge merge).bundle source table output args dryRun).runIn w
    (result.success = true ↔ result.errors = []) ∧
      (result.success = false → ∃ message, result.errors = [message]) ∧
      (result.success = true → dryRun = false →
        (∃ src out w₁ w₂, Hands source output src out ∧ CallsIn w₁ src out args run ∧ ¬ NeverCalls run ∧
          (b.merger.merge src out args).runIn w₁ = (.ok (), w₂)) ∧
        result.restoredFiles = files ∧ result.renames.map Prod.fst = files) ∧
      (result.success = false → result.restoredFiles = [] ∧
        (NeverCalls run ∨ ∃ src out w₁, Hands source output src out ∧ CallsIn w₁ src out args run) ∧
        result.renames.map Prod.fst <+: files) ∧
      Accounted b read.2.files (planOf (rowsOf read)) result.renames := by
  intro read files run
  have hself : run b.merger.merge = (.ok result, w') := h
  have hsettled : (result.success = true ↔ result.errors = []) ∧
      (result.success = false → ∃ message, result.errors = [message]) := by
    rcases bundle_settled h with ⟨hsuccess, herrors⟩ | ⟨hsuccess, message, herrors⟩ <;> simp [hsuccess, herrors]
  have hprefix : Tells b (rowsOf read) read.2.files result → result.renames.map Prod.fst <+: files := by
    intro htells
    have hnames := htells.renames.names_prefix
    rwa [map_fst_planOf] at hnames
  refine ⟨hsettled.1, hsettled.2, ?_⟩
  cases bundle_concludes b source table output args dryRun w with
  | @idle ended htells hrun =>
    have hended : ended = (.ok result, w') := (hrun b.merger.merge).symm.trans hself
    obtain ⟨htells, hdry⟩ := htells result (by rw [hended])
    refine ⟨fun hsuccess hwet => ?_, fun hfailed => ⟨htells.restored hfailed, .inl ?_, hprefix htells⟩, htells.renames⟩
    · rw [hdry hsuccess] at hwet
      cases hwet
    · exact fun merge merge' => (hrun merge).trans (hrun merge').symm
  | @called src out w₁ finish hhands htells hrun =>
    have hcalls : CallsIn w₁ src out args run := ⟨finish, hrun⟩
    have hfinish : finish ((b.merger.merge src out args).runIn w₁) = (.ok result, w') :=
      (hrun b.merger.merge).symm.trans hself
    obtain ⟨htells', hsuccess⟩ := htells _ result (by rw [hfinish])
    refine ⟨fun hdone _ => ?_, fun hfailed => ⟨htells'.restored hfailed, .inr ⟨src, out, w₁, hhands, hcalls⟩,
      hprefix htells'⟩, htells'.renames⟩
    obtain ⟨hreturned, hrestored, hrenamed⟩ := hsuccess hdone
    refine ⟨⟨src, out, w₁, _, hhands, hcalls, fun hnever => ?_, Prod.ext hreturned rfl⟩, hrestored, hrenamed⟩
    -- With a merger that fails the run would not end with a success.
    let failing : Merge := fun _ _ _ => throw (.raised .interrupt "")
    have hsame : finish ((failing src out args).runIn w₁) = (.ok result, w') :=
      (hrun failing).symm.trans ((hnever failing b.merger.merge).trans hself)
    have hended := ((htells _ result (by rw [hsame])).2 hdone).1
    cases hended

/-- The pass over the second of three files fails, because its bytes do not decode. -/
theorem result_consistent_failed_pass :
    let small := smallBundler .always fun _ _ _ => pure ()
    let b := { small with settings := { small.settings with rename := { encoding := .text "utf-7" } } }
    let w := smallWorld [(["a.c"], textFile "f f"), (["b.c"], textFile "f +!"), (["c.c"], textFile "f"),
      (["t.csv"], tableFile "a.c:1,f,g\nb.c:1,f,h\nc.c:1,f,k\n")]
    let read := (b.askedRows (some "a.c") (some "t.csv") false).runIn w
    ∃ result w', (b.bundle (some "a.c") (some "t.csv") none [] false).runIn w = (.ok result, w') ∧
      result.success = false ∧ result.renames = [("a.c", [("f", 2)])] ∧ renamedFiles (rowsOf read) = ["a.c", "b.c", "c.c"] ∧
      (∃ message, result.errors = [message]) ∧ result.restoredFiles = [] ∧
      Accounted b read.2.files (planOf (rowsOf read)) result.renames := by
  intro small b w read
  obtain ⟨hrun, hfiles⟩ : ((b.bundle (some "a.c") (some "t.csv") none [] false).runIn w).1.toOption.map
        (fun result => (result.success, result.renames)) = some (false, [("a.c", [("f", 2)])]) ∧
      renamedFiles (rowsOf read) = ["a.c", "b.c", "c.c"] := by decide +kernel
  clear_value b w
  obtain ⟨result, w', hbundle, hread⟩ := Except.exists_of_map_toOption hrun
  obtain ⟨hsuccess, hrenames⟩ := Prod.mk.inj hread
  obtain ⟨_, hone, _, hfailed, haccounted⟩ := result_consistent hbundle
  exact ⟨result, w', hbundle, hsuccess, hrenames, hfiles, hone hsuccess, (hfailed hsuccess).1, haccounted⟩

end

end Bundler

end Amalgam
