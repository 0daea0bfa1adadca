import Amalgam.Proofs.Backup.Passes
/-!
# The stages of a bundle run

Everything up to the backup only reads, so a run is one of three things, whatever its merger does when it is called: it
ends before the merger is called with the files as they were, it merges without a table, or it goes through a session
over the files that the table renames in. `renamePlan` is the plan of a run as a function of the files it starts with.
-/

namespace Amalgam

open Amalgam.Text Amalgam.Symbols Amalgam.Config FileSystem

/-! ### Reading actions of a run -/

theorem requireFile_onlyReads (path : Path) : (requireFile path).OnlyReads := by
  refine (Action.OnlyReads.isFile path).bind fun found => ?_
  split
  · exact .throw _
  · exact .pure _

theorem readTable_onlyReads (path : String) (encoding : Value) : (readTable path encoding).OnlyReads := by
  refine (Action.OnlyReads.readText _ _ _).attempt.bind fun text => ?_
  extract_lets rest
  have hrest : ∀ glyphs, (rest glyphs).OnlyReads := fun _ =>
    (Action.OnlyReads.ofExcept _ _).bind fun _ => (Action.OnlyReads.log _ _ _).bind fun _ => .pure _
  split
  · exact (Action.OnlyReads.pure _).bind hrest
  · exact (Action.OnlyReads.throw _).bind hrest
  · exact (Action.OnlyReads.throw _).bind hrest

/-- Looking for a tool leaves the files alone. It reads the environment besides them. -/
theorem Tool.find_keeps {inv : FileSystem → Prop} (tool : Value) : (Tool.find tool).Keeps inv := by
  unfold Tool.find
  split
  · exact (Action.OnlyReads.pure _).keeps
  · split
    · refine Action.Keeps.get.bind fun w => (Action.OnlyReads.ofExcept _ _).keeps.bind fun candidate => ?_
      refine (Action.OnlyReads.isFile _).keeps.bind fun found => ?_
      split <;> exact (Action.OnlyReads.pure _).keeps
    · exact (Action.OnlyReads.throw _).keeps
    · exact (Action.OnlyReads.throw _).keeps

namespace Bundler

theorem requireSource_onlyReads (source : Option String) : (requireSource source).OnlyReads := by
  unfold requireSource
  split
  · exact .throw _
  · exact (requireFile_onlyReads _).bind fun _ => .pure _

theorem plan_onlyReads (b : Bundler) (table : String) : (b.plan table).OnlyReads :=
  (readTable_onlyReads _ _).bind fun _ => (Action.OnlyReads.log _ _ _).bind fun _ =>
    (Action.OnlyReads.ofExcept _ _).bind fun _ => .pure _

theorem findTable_onlyReads (b : Bundler) (source : Path) (table : Option String) :
    (b.findTable source table).OnlyReads := by
  unfold findTable
  split
  · exact .pure _
  · refine (Action.OnlyReads.ofExcept _ _).bind fun path => (Action.OnlyReads.leadsSomewhere _).bind fun found => ?_
    split
    · exact .pure _
    · exact .pure _

/-! ### What a run is about -/

/-- The paths of the source and of the bundle, as a run passes them to its merger. -/
structure Hands (source output : Option String) (src out : Path) : Prop where
  source_eq : ∃ s, source = some s ∧ s ≠ "" ∧ src = Path.ofText s
  output_eq : (∃ o, output = some o ∧ o ≠ "" ∧ out = Path.ofText o) ∨
    (output = none ∨ output = some "") ∧ defaultOutputPath src = .ok out

/-- A bundle that is named goes where its name says. -/
theorem Hands.out_eq {source : Option String} {name : String} {src out : Path} (h : Hands source (some name) src out)
    (hname : name ≠ "") : out = Path.ofText name := by
  rcases h.output_eq with ⟨o, ho, _, rfl⟩ | ⟨ho | ho, _⟩
  · rw [Option.some.injEq] at ho
    rw [ho]
  · cases ho
  · exact absurd (Option.some.inj ho) hname

def tableOf (b : Bundler) (source table : Option String) : Action (Option Path) := do
  b.findTable (← requireSource source) table

/-- The plan of the table that a run reads, nothing if there is none. -/
def tablePlan (b : Bundler) (source table : Option String) : Action Plan := do
  let path ← requireSource source
  match ← b.findTable path table with
  | none => return []
  | some csv => b.plan csv.text

/-- The plan of a run; a run that cannot make one names no files. -/
def renamePlan (b : Bundler) (source table : Option String) (w : World) : Plan :=
  match ((b.tablePlan source table).runIn w).1 with
  | .ok p => p
  | .error _ => []

theorem renamePlan_eq {b : Bundler} {source table : Option String} {w : World} {p : Plan}
    (h : ((b.tablePlan source table).runIn w).1 = .ok p) : b.renamePlan source table w = p := by
  rw [renamePlan, h]

def planPaths (p : Plan) : List Path :=
  p.map fun group => Path.ofText group.1

theorem plain_of_mem_planPaths {p : Plan} {path : Path} (h : path ∈ planPaths p) : path.Plain := by
  obtain ⟨group, _, rfl⟩ := List.mem_map.mp h
  exact Path.plain_ofText _

/-- Asking whether the merger is there leaves the files alone. -/
def Quiet (b : Bundler) : Prop :=
  ∀ w : World, (b.merger.isAvailable.runIn w).2.files = w.files

/-- The merger that a configuration asks for is quiet: it looks for its command. -/
theorem quiet_of_settings (s : Settings) : Quiet ⟨s, sourceOf s.tools, mergerOf s⟩ :=
  Action.Keeps.files_eq fun _ => (Tool.find_keeps s.tools.amalgamateCommand).bind fun _ => (Action.OnlyReads.pure _).keeps

/-- What a merger does when it is called. -/
abbrev Merge := (source output : Path) → (args : List String) → Action Unit

/-- The same bundler with a merger that does something else when it is called. -/
def withMerge (b : Bundler) (merge : Merge) : Bundler :=
  { b with merger := { b.merger with merge := merge } }

theorem withMerge_self (b : Bundler) : b.withMerge b.merger.merge = b := rfl

/-! ### The files of a plan -/

theorem isFile_runIn (path : Path) (w : World) : ∃ found, (Action.isFile path).runIn w = (found, w) ∧
    (found = .ok true → w.files.FileAt path.text) := by
  rw [Action.isFile, Action.probe]
  cases hprobe : w.files.probe path.text with
  | error fault => exact ⟨.error (.file fault), by simp [Action.runIn_bind, hprobe, Except.mapError], by simp⟩
  | ok node =>
    cases node with
    | none => exact ⟨.ok false, by simp [Action.runIn_bind, hprobe, Except.mapError], by simp⟩
    | some node =>
      cases node with
      | directory => exact ⟨.ok false, by simp [Action.runIn_bind, hprobe, Except.mapError], by simp⟩
      | file bytes executable =>
        refine ⟨.ok true, by simp [Action.runIn_bind, hprobe, Except.mapError], fun _ => ?_⟩
        exact ⟨bytes, executable, probe_eq_some_iff.mp hprobe⟩

def isMissing (name : String) : Work Bool := do
  return !(← Action.isFile (Path.ofText name))

/-- Looking for missing files changes nothing, and a name that is not among them leads to a file. -/
theorem filterAuxM_isMissing (names acc : List String) (result : BundleResult) (w : World) :
    ∃ found, (names.filterAuxM isMissing acc).runIn result w = ((found, result), w) ∧
      ∀ missing, found = .ok missing → (∀ name ∈ acc, name ∈ missing) ∧
        ∀ name ∈ names, name ∉ missing → w.files.FileAt (Path.ofText name).text := by
  induction names generalizing acc with
  | nil => exact ⟨.ok acc, rfl, by simp⟩
  | cons name rest ih =>
    obtain ⟨found, hfound, hfile⟩ := isFile_runIn (Path.ofText name) w
    rw [List.filterAuxM, isMissing]
    cases found with
    | error failure => exact ⟨.error failure, by simp [Work.runIn_bind, hfound], by simp⟩
    | ok found =>
      obtain ⟨rest', hrest, hmissing⟩ := ih (cond (!found) (name :: acc) acc)
      refine ⟨rest', by simpa [Work.runIn_bind, hfound] using hrest, fun missing heq => ?_⟩
      obtain ⟨hacc, hnames⟩ := hmissing missing heq
      cases found with
      | true =>
        refine ⟨hacc, fun other hother hnot => ?_⟩
        rcases List.mem_cons.mp hother with rfl | hother
        · exact hfile rfl
        · exact hnames other hother hnot
      | false =>
        refine ⟨fun other hother => hacc other (List.mem_cons_of_mem _ hother), fun other hother hnot => ?_⟩
        rcases List.mem_cons.mp hother with rfl | hother
        · exact absurd (hacc other List.mem_cons_self) hnot
        · exact hnames other hother hnot

theorem filterM_isMissing (names : List String) (result : BundleResult) (w : World) :
    ∃ found, (names.filterM isMissing).runIn result w = ((found, result), w) ∧
      (found = .ok [] → ∀ name ∈ names, w.files.FileAt (Path.ofText name).text) := by
  obtain ⟨found, hrun, hmissing⟩ := filterAuxM_isMissing names [] result w
  refine ⟨found.map List.reverse, ?_, fun hnone name hname => ?_⟩
  · rw [List.filterM, Work.runIn_bind, hrun]
    cases found <;> rfl
  · cases found with
    | error failure => cases hnone
    | ok missing =>
      have hnil : missing = [] := by simpa [Except.map] using hnone
      exact (hmissing missing rfl).2 name hname (by simp [hnil])

/-! ### The course of a run -/

/-- The result that a run starts with. -/
def freshResult (dryRun : Bool) : BundleResult :=
  { success := false, dryRun := dryRun }

/-- What a run makes of the way its work ends. -/
def concluded : (Except Failure Unit × BundleResult) × World → Except Failure BundleResult × World
  | ((.ok (), result), w) => (.ok { result with success := true }, w)
  | ((.error failure, result), w) =>
    if isReported failure then
      (.ok { result with errors := result.errors ++ [failure.message] },
        { w with journal := w.journal ++ [.logged ⟨.error, logger, "bundle failed: " ++ failure.message⟩] })
    else (.error failure, w)

theorem bundle_runIn (b : Bundler) (source table output : Option String) (args : List String) (dryRun : Bool)
    (w : World) : (b.bundle source table output args dryRun).runIn w =
      concluded ((b.bundleWork source table output args dryRun).runIn (freshResult dryRun) w) := by
  rw [bundle, Action.runIn_bind_ok (Work.runIn_runFrom _ _ _), ← freshResult]
  rcases (b.bundleWork source table output args dryRun).runIn (freshResult dryRun) w with ⟨⟨failure | ⟨⟩, result⟩, w'⟩
  · by_cases hreported : isReported failure = true
    · simp only [concluded, hreported, if_true]
      rfl
    · simp [concluded, hreported]
  · rfl

theorem files_concluded (run : (Except Failure Unit × BundleResult) × World) :
    (concluded run).2.files = run.2.files := by
  rcases run with ⟨⟨failure | ⟨⟩, result⟩, w⟩
  · simp only [concluded]
    split_ifs <;> rfl
  · rfl

/-- What comes after the paths of a run are known. -/
def proceed (b : Bundler) (src out : Path) (table : Option String) (args : List String) (dryRun : Bool) :
    Work Unit := do
  if !dryRun then b.requireTools .bundle
  match ← b.findTable src table with
  | none => b.bundlePlain src out args dryRun
  | some csv => b.bundleByTable csv src out args dryRun

theorem requireSource_ok {source : Option String} {src : Path} {w w' : World}
    (h : (requireSource source).runIn w = (.ok src, w')) : ∃ s, source = some s ∧ s ≠ "" ∧ src = Path.ofText s := by
  unfold requireSource at h
  split at h
  · simp at h
  · rename_i s hs
    rw [Option.filter_eq_some_iff] at hs
    refine ⟨s, hs.1, by simpa using hs.2, ?_⟩
    rw [Action.runIn_bind] at h
    split at h
    · simp only [Action.runIn_pure, Prod.mk.injEq, Except.ok.injEq] at h
      exact h.1.symm
    · simp at h

theorem bundleWork_runIn (b : Bundler) (source table output : Option String) (args : List String) (dryRun : Bool)
    (result : BundleResult) (w : World) :
    (∃ failure w', w'.files = w.files ∧ ∀ merge, ((b.withMerge merge).bundleWork source table output args dryRun).runIn
        result w = ((.error failure, result), w')) ∨
      ∃ src out w', Hands source output src out ∧ (requireSource source).runIn w = (.ok src, w') ∧
        ∀ merge, ((b.withMerge merge).bundleWork source table output args dryRun).runIn result w =
          ((b.withMerge merge).proceed src out table args dryRun).runIn
            { result with outputPath := some out.text } w' := by
  have hfiles := (requireSource_onlyReads source).files_eq w
  rcases hs : (requireSource source).runIn w with ⟨failure | src, w'⟩
  · refine Or.inl ⟨failure, w', by simpa [hs] using hfiles, fun merge => ?_⟩
    rw [bundleWork, Work.runIn_lift_bind, hs]
  · have hsource := requireSource_ok hs
    cases ho : output.filter (· != "") with
    | some o =>
      have houtput : output = some o ∧ o ≠ "" := by simpa [Option.filter_eq_some_iff] using ho
      refine Or.inr ⟨src, Path.ofText o, w', ⟨hsource, .inl ⟨o, houtput.1, houtput.2, rfl⟩⟩, rfl, fun merge => ?_⟩
      rw [bundleWork, Work.runIn_lift_bind, hs]
      simp only [ho]
      rfl
    | none =>
      have houtput : output = none ∨ output = some "" := by
        cases output with
        | none => exact Or.inl rfl
        | some o => simpa [Option.filter] using ho
      cases hdefault : defaultOutputPath src with
      | error failure =>
        refine Or.inl ⟨failure, w', by simpa [hs] using hfiles, fun merge => ?_⟩
        rw [bundleWork, Work.runIn_lift_bind, hs]
        simp only [ho, hdefault]
        rfl
      | ok out =>
        refine Or.inr ⟨src, out, w', ⟨hsource, .inr ⟨houtput, hdefault⟩⟩, rfl, fun merge => ?_⟩
        rw [bundleWork, Work.runIn_lift_bind, hs]
        simp only [ho, hdefault]
        rfl

section TablePlan

variable {b : Bundler} {source table : Option String} {src : Path} {w w' w₁ : World}

theorem tablePlan_of_found {found : Option Path} (hs : (requireSource source).runIn w = (.ok src, w'))
    (hfiles : w₁.files = w.files) (hfound : ((b.findTable src table).runIn w₁).1 = .ok found) :
    ∃ w₂ : World, w₂.files = w.files ∧ (b.tablePlan source table).runIn w =
      (match found with
        | none => pure []
        | some csv => b.plan csv.text : Action Plan).runIn w₂ := by
  have hw' : w'.files = w.files := by simpa [hs] using (requireSource_onlyReads source).files_eq w
  have hread := findTable_onlyReads b src table
  have hresult := hread.result_eq (hw'.trans hfiles.symm)
  rw [hfound] at hresult
  refine ⟨((b.findTable src table).runIn w').2, (hread.files_eq w').trans hw', ?_⟩
  rw [tablePlan, Action.runIn_bind_ok hs, Action.runIn_bind_ok (Prod.ext hresult rfl)]
  cases found <;> rfl

theorem tablePlan_of_none (hs : (requireSource source).runIn w = (.ok src, w')) (hfiles : w₁.files = w.files)
    (hfound : ((b.findTable src table).runIn w₁).1 = .ok none) : ((b.tablePlan source table).runIn w).1 = .ok [] := by
  obtain ⟨w₂, _, hrun⟩ := tablePlan_of_found hs hfiles hfound
  rw [hrun]
  rfl

theorem tableOf_of_none (hs : (requireSource source).runIn w = (.ok src, w')) (hfiles : w₁.files = w.files)
    (hfound : ((b.findTable src table).runIn w₁).1 = .ok none) : ((b.tableOf source table).runIn w).1 = .ok none := by
  have hw' : w'.files = w.files := by simpa [hs] using (requireSource_onlyReads source).files_eq w
  rw [tableOf, Action.runIn_bind_ok hs, (findTable_onlyReads b src table).result_eq (hw'.trans hfiles.symm), hfound]

theorem tablePlan_of_some {csv : Path} {p : Plan} {w₃ : World} (hs : (requireSource source).runIn w = (.ok src, w'))
    (hfiles : w₁.files = w.files) (hfound : ((b.findTable src table).runIn w₁).1 = .ok (some csv))
    (hfiles' : w₃.files = w.files) (hplan : ((b.plan csv.text).runIn w₃).1 = .ok p) :
    ((b.tablePlan source table).runIn w).1 = .ok p := by
  obtain ⟨w₂, hw₂, hrun⟩ := tablePlan_of_found hs hfiles hfound
  have hresult := (plan_onlyReads b csv.text).result_eq (hw₂.trans hfiles'.symm)
  rw [hrun, hresult, hplan]

end TablePlan

/-- A property of the result that what a run notes before its session does not change. -/
structure Stays (prop : BundleResult → Prop) : Prop where
  output : ∀ (result : BundleResult) path, prop result → prop { result with outputPath := path }
  metadata : ∀ (result : BundleResult) metadata, prop result → prop { result with metadata := metadata }
  noTable : ∀ result : BundleResult, prop result →
    prop { result with warnings := result.warnings ++ ["No symbols table found; nothing to rename"] }

theorem stays_unsuccessful : Stays (BundleResult.success · = false) :=
  ⟨fun _ _ h => h, fun _ _ h => h, fun _ h => h⟩

/-- How the work of a run goes, as a function of what its merger does when it is called, and what it keeps of the result
meanwhile. -/
inductive CourseKeeping (prop : BundleResult → Prop) (b : Bundler) (source table output : Option String)
    (args : List String) (dryRun : Bool) (w : World)
    (work : Merge → (Except Failure Unit × BundleResult) × World) : Prop
  | idle {run : (Except Failure Unit × BundleResult) × World} (hended : run.1.1 = .ok () → dryRun = true)
      (hresult : prop run.1.2) (hfiles : run.2.files = w.files) (hrun : ∀ merge, work merge = run)
  | plain {src out : Path} {result : BundleResult} {w₁ : World} (hhands : Hands source output src out)
      (hplan : ((b.tablePlan source table).runIn w).1 = .ok [])
      (hnone : ((b.tableOf source table).runIn w).1 = .ok none) (hfiles : w₁.files = w.files)
      (hrun : ∀ merge, work merge = ((b.withMerge merge).bundlePlain src out args false).runIn result w₁)
      (hresult : prop result)
  | session {src out : Path} {p : Plan} {result : BundleResult} {w₁ : World} (hhands : Hands source output src out)
      (hplan : ((b.tablePlan source table).runIn w).1 = .ok p)
      (hfile : ∀ path ∈ planPaths p, w.files.FileAt path.text) (hresult : prop result)
      (hfiles : w₁.files = w.files) (hrun : ∀ merge, work merge = (do
        (b.withMerge merge).runSession p src out args
        Action.log .info logger ("Bundled source written to " ++ out.text) : Work Unit).runIn result w₁)

/-- How the work of a run goes that reports no success before its end. -/
abbrev Course : Bundler → (source table output : Option String) → List String → Bool → World →
    (Merge → (Except Failure Unit × BundleResult) × World) → Prop :=
  CourseKeeping (BundleResult.success · = false)

section Course

variable {b : Bundler} {source table output : Option String} {args : List String} {dryRun : Bool} {w w₁ : World}
  {src out : Path} {prop : BundleResult → Prop}

/-- What comes after the plan is known. -/
def carryOut (b : Bundler) (csv : Path) (p : Plan) (src out : Path) (args : List String) (dryRun : Bool) :
    Work Unit := do
  let missing ← (p.map Prod.fst).filterM isMissing
  if !missing.isEmpty then throw (.filesNotFound csv.text missing)
  if dryRun then
    Work.note fun r => { r with metadata := Fields.put r.metadata (.text "planned") (plannedValue p) }
  else
    b.runSession p src out args
    Action.log .info logger ("Bundled source written to " ++ out.text)

theorem carryOut_course (hprop : Stays prop) (csv : Path) {p : Plan} {result : BundleResult} (hresult : prop result)
    (hhands : Hands source output src out)
    (hplan : ((b.tablePlan source table).runIn w).1 = .ok p) (hfiles : w₁.files = w.files) :
    CourseKeeping prop b source table output args dryRun w fun merge =>
      ((b.withMerge merge).carryOut csv p src out args dryRun).runIn result w₁ := by
  obtain ⟨found, hmissing, hfile⟩ := filterM_isMissing (p.map Prod.fst) result w₁
  simp only [carryOut, Work.runIn_bind, hmissing]
  rcases found with failure | _ | ⟨first, others⟩
  · exact .idle (by simp) hresult hfiles fun _ => rfl
  · cases dryRun with
    | true => exact .idle (fun _ => rfl) (hprop.metadata result _ hresult) hfiles fun _ => rfl
    | false =>
      have hall : ∀ path ∈ planPaths p, w.files.FileAt path.text := by
        intro path hpath
        obtain ⟨group, hgroup, rfl⟩ := List.mem_map.mp hpath
        exact hfiles ▸ hfile rfl group.1 (List.mem_map_of_mem hgroup)
      exact .session hhands hplan hall hresult hfiles fun _ => rfl
  · exact .idle (by simp) hresult hfiles fun _ => rfl

theorem bundleByTable_runIn (b : Bundler) (csv src out : Path) (args : List String) (dryRun : Bool)
    (result : BundleResult) (w₁ : World) : ∃ w₂ : World, w₂.files = w₁.files ∧ ∀ merge,
      ((b.withMerge merge).bundleByTable csv src out args dryRun).runIn result w₁ =
        match (b.plan csv.text).runIn w₂ with
        | (.ok p, w₃) => ((b.withMerge merge).carryOut csv p src out args dryRun).runIn
            { result with metadata := Fields.put result.metadata (.text "symbols_path") (.text csv.text) } w₃
        | (.error failure, w₃) => ((.error failure, result), w₃) := by
  obtain ⟨w₂, hw₂, hlog⟩ :=
    Action.exists_runIn_log .info logger ("Reading symbols from " ++ csv.text ++ " ...") w₁
  refine ⟨w₂, hw₂, fun merge => ?_⟩
  rw [bundleByTable, Work.runIn_lift_bind, hlog]
  dsimp only
  rw [Work.runIn_lift_bind, show ((b.withMerge merge).plan csv.text).runIn w₂ = (b.plan csv.text).runIn w₂ from rfl]
  rcases (b.plan csv.text).runIn w₂ with ⟨failure | p, w₃⟩
  · rfl
  · exact Work.runIn_note_bind _ _ _ _

theorem bundleByTable_course (hprop : Stays prop) (csv : Path) {result : BundleResult} (hresult : prop result)
    (hhands : Hands source output src out)
    (hfiles : w₁.files = w.files) (hplan : ∀ p (w₂ : World), w₂.files = w.files →
      ((b.plan csv.text).runIn w₂).1 = .ok p → ((b.tablePlan source table).runIn w).1 = .ok p) :
    CourseKeeping prop b source table output args dryRun w fun merge =>
      ((b.withMerge merge).bundleByTable csv src out args dryRun).runIn result w₁ := by
  obtain ⟨w₂, hw₂, hstart⟩ := bundleByTable_runIn b csv src out args dryRun result w₁
  have hread : ((b.plan csv.text).runIn w₂).2.files = w.files :=
    ((plan_onlyReads b csv.text).files_eq w₂).trans (hw₂.trans hfiles)
  simp only [hstart]
  rcases hp : (b.plan csv.text).runIn w₂ with ⟨failure | p, w₃⟩
  · rw [hp] at hread
    exact .idle (by simp) hresult hread fun _ => rfl
  · rw [hp] at hread
    have hp' := hplan p w₂ (hw₂.trans hfiles) (by rw [hp])
    exact carryOut_course hprop csv (hprop.metadata _ _ hresult) hhands hp' hread

theorem findTable_course (hprop : Stays prop) {result : BundleResult} (hresult : prop result)
    (hhands : Hands source output src out) {w' : World}
    (hs : (requireSource source).runIn w = (.ok src, w')) (hfiles : w₁.files = w.files) :
    CourseKeeping prop b source table output args dryRun w fun merge => (do
      match ← b.findTable src table with
      | none => (b.withMerge merge).bundlePlain src out args dryRun
      | some csv => (b.withMerge merge).bundleByTable csv src out args dryRun : Work Unit).runIn result w₁ := by
  have hread : ((b.findTable src table).runIn w₁).2.files = w.files :=
    ((findTable_onlyReads b src table).files_eq w₁).trans hfiles
  simp only [Work.runIn_lift_bind]
  rcases hfound : (b.findTable src table).runIn w₁ with ⟨failure | _ | csv, w₂⟩
  · rw [hfound] at hread
    exact .idle (by simp) hresult hread fun _ => rfl
  · rw [hfound] at hread
    cases dryRun with
    | true => exact .idle (fun _ => rfl) (hprop.noTable _ hresult) hread fun _ => rfl
    | false =>
      have hnone : ((b.findTable src table).runIn w₁).1 = .ok none := by rw [hfound]
      exact .plain hhands (tablePlan_of_none hs hfiles hnone) (tableOf_of_none hs hfiles hnone) hread (fun _ => rfl)
        hresult
  · rw [hfound] at hread
    refine bundleByTable_course hprop csv hresult hhands hread fun p w₃ hw₃ hp => ?_
    exact tablePlan_of_some hs hfiles (by rw [hfound]) hw₃ hp

theorem requireTools_files (hquiet : b.Quiet) (w : World) :
    ((b.requireTools .bundle).runIn w).2.files = w.files := by
  have hfiles := hquiet w
  rw [requireTools, missingTools, Action.runIn_bind, Action.runIn_bind]
  rcases hrun : b.merger.isAvailable.runIn w with ⟨failure | available, w'⟩
  · simpa [hrun] using hfiles
  · rw [hrun] at hfiles
    cases available <;> exact hfiles

theorem proceed_runIn (b : Bundler) (src out : Path) (table : Option String) (args : List String) (merge : Merge)
    (result : BundleResult) (w : World) : ((b.withMerge merge).proceed src out table args false).runIn result w =
      match (b.requireTools .bundle).runIn w with
      | (.ok (), w₁) => (do
          match ← b.findTable src table with
          | none => (b.withMerge merge).bundlePlain src out args false
          | some csv => (b.withMerge merge).bundleByTable csv src out args false : Work Unit).runIn result w₁
      | (.error failure, w₁) => ((.error failure, result), w₁) := by
  change ((liftM (b.requireTools .bundle) : Work Unit) >>= _).runIn result w = _
  rw [Work.runIn_lift_bind]
  rcases (b.requireTools .bundle).runIn w with ⟨failure | ⟨⟩, w₁⟩ <;> rfl

theorem proceed_course (hprop : Stays prop) (hquiet : b.Quiet) {result : BundleResult} (hresult : prop result)
    (hhands : Hands source output src out) {w' : World}
    (hs : (requireSource source).runIn w = (.ok src, w')) :
    CourseKeeping prop b source table output args dryRun w fun merge =>
      ((b.withMerge merge).proceed src out table args dryRun).runIn result w' := by
  have hw' : w'.files = w.files := by simpa [hs] using (requireSource_onlyReads source).files_eq w
  cases dryRun with
  | true => exact findTable_course hprop hresult hhands hs hw'
  | false =>
    have htools := (requireTools_files hquiet w').trans hw'
    simp only [proceed_runIn]
    rcases hrun : (b.requireTools .bundle).runIn w' with ⟨failure | ⟨⟩, w₁⟩
    · rw [hrun] at htools
      exact .idle (by simp) hresult htools fun _ => rfl
    · rw [hrun] at htools
      exact findTable_course hprop hresult hhands hs htools

/-- The course of every run: everything before the backup only reads. -/
theorem bundleWork_keeping (hprop : Stays prop) (hquiet : b.Quiet) {result : BundleResult} (hresult : prop result) :
    CourseKeeping prop b source table output args dryRun w fun merge =>
      ((b.withMerge merge).bundleWork source table output args dryRun).runIn result w := by
  rcases bundleWork_runIn b source table output args dryRun result w with
    ⟨failure, w', hfiles, hrun⟩ | ⟨src, out, w', hhands, hs, hrun⟩
  · exact .idle (by simp) hresult hfiles hrun
  · simp only [hrun]
    exact proceed_course hprop hquiet (hprop.output _ _ hresult) hhands hs

theorem bundleWork_course (hquiet : b.Quiet) {result : BundleResult} (hresult : result.success = false) :
    Course b source table output args dryRun w fun merge =>
      ((b.withMerge merge).bundleWork source table output args dryRun).runIn result w :=
  bundleWork_keeping stays_unsuccessful hquiet hresult

end Course

end Bundler

end Amalgam
