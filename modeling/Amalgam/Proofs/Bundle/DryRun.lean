import Amalgam.Proofs.Bundle.Output
import Amalgam.Proofs.Rename.Report
import Amalgam.Report
/-!
# What a dry run tells

A dry run reads what a run reads before it touches anything, and stops there: it changes no file and is the same run
whatever its merger is. What it plans is what a run that succeeds does. Both come from one plan, but by two ways: the dry
run lists the entries that have a new name, and the run adds up the reports of its renames, so the agreement rests on
what a report tells of its entries.
-/

namespace Amalgam

open Amalgam.Text Amalgam.Symbols Amalgam.Rename FileSystem Backup

namespace Bundler

/-! ### Reading a plan in a result -/

/-- The symbol of a planned rename. -/
def plannedSymbol? : Value → Option String
  | .map fields =>
    match Fields.get? fields "symbol" with
    | some (.text s) => some s
    | _ => none
  | _ => none

/-- A file of planned renames with its symbols. -/
def plannedFile? : Value × Value → Option (String × List String)
  | (.text file, .list renames) => (renames.mapM plannedSymbol?).map (file, ·)
  | _ => none

/-- The planned renames in a result, file by file; no plan in it means that nothing is planned. -/
def plannedSymbols? (result : BundleResult) : Option (List (String × List String)) :=
  (Report.planned result).mapM plannedFile?

/-- The symbols of a plan, file by file. -/
def symbolsOf (p : Plan) : List (String × List String) :=
  p.map fun group => (group.1, renamedSymbols group.2)

theorem mapM_eq_some_map {α β γ : Type} {f : α → β} {g : α → γ} {r : β → Option γ}
    (h : ∀ x, r (f x) = some (g x)) (items : List α) : (items.map f).mapM r = some (items.map g) := by
  induction items with
  | nil => rfl
  | cons x rest ih => simp [h, ih]

theorem plannedSymbols?_of_planned {result : BundleResult} {p : Plan}
    (h : Fields.get? result.metadata "planned" = some (plannedValue p)) :
    plannedSymbols? result = some (symbolsOf p) := by
  rw [plannedSymbols?, Report.planned, h]
  refine mapM_eq_some_map (fun group => ?_) p
  simp only [plannedFile?]
  rw [mapM_eq_some_map (g := Entry.kindDisplayName) (r := plannedSymbol?) fun e => rfl]
  rfl

/-! ### A dry run and its merger -/

def withMerger (b : Bundler) (merger : Merger) : Bundler :=
  { b with merger := merger }

theorem bundleByTable_dry_merger (b : Bundler) (merger : Merger) (csv src out : Path) (args : List String) :
    (b.withMerger merger).bundleByTable csv src out args true = b.bundleByTable csv src out args true := by
  unfold bundleByTable
  simp only [if_true]
  rfl

theorem bundleWork_dry_merger (b : Bundler) (merger : Merger) (source table output : Option String)
    (args : List String) :
    (b.withMerger merger).bundleWork source table output args true = b.bundleWork source table output args true := by
  unfold bundleWork
  simp only [Bool.not_true, Bool.false_eq_true, if_false, bundleByTable_dry_merger]
  rfl

theorem bundle_dry_merger (b : Bundler) (merger : Merger) (source table output : Option String) (args : List String) :
    (b.withMerger merger).bundle source table output args true = b.bundle source table output args true := by
  unfold bundle
  rw [bundleWork_dry_merger]

theorem bundleByTable_dry_keeps {inv : FileSystem → Prop} (b : Bundler) (csv src out : Path) (args : List String) :
    (b.bundleByTable csv src out args true).Keeps inv := by
  refine (Work.Keeps.lift (Action.OnlyReads.log _ _ _).keeps).bind fun _ => ?_
  refine (Work.Keeps.lift (plan_onlyReads b csv.text).keeps).bind fun p => (Work.Keeps.note _).bind fun _ => ?_
  refine Work.Keeps.bind (fun result w hw => ?_) fun missing => ?_
  · obtain ⟨found, hrun, _⟩ := filterM_isMissing (p.map Prod.fst) result w
    have hafter := congrArg (fun run : (Except Failure (List String) × BundleResult) × World => run.2.files) hrun
    exact hafter ▸ hw
  · simp only [if_true]
    split_ifs
    · exact Work.Keeps.bind (fun _ _ hw => hw) fun _ => .note _
    · exact .note _

theorem proceed_dry_keeps {inv : FileSystem → Prop} (b : Bundler) (src out : Path) (table : Option String)
    (args : List String) : (b.proceed src out table args true).Keeps inv := by
  refine (Work.Keeps.lift (findTable_onlyReads b src table).keeps).bind fun found => ?_
  split
  · exact .note _
  · exact bundleByTable_dry_keeps b _ src out args

theorem bundle_dry_files (b : Bundler) (source table output : Option String) (args : List String) (w : World) :
    ((b.bundle source table output args true).runIn w).2.files = w.files := by
  rw [bundle_runIn, files_concluded]
  rcases bundleWork_runIn b source table output args true (freshResult true) w with
    ⟨failure, w', hfiles, hrun⟩ | ⟨src, out, w', hhands, hs, hrun⟩
  · have hself : (b.bundleWork source table output args true).runIn (freshResult true) w = _ := hrun b.merger.merge
    rw [hself]
    exact hfiles
  · have hself : (b.bundleWork source table output args true).runIn (freshResult true) w = _ := hrun b.merger.merge
    have hw' : w'.files = w.files := by simpa [hs] using (requireSource_onlyReads source).files_eq w
    have hkeeps : (b.proceed src out table args true).Keeps (· = w.files) := proceed_dry_keeps b src out table args
    rw [hself]
    exact hkeeps _ w' hw'

/-! ### What a run finds before it touches anything -/

/-- The table of a run with its plan, if there is a table; the files that the plan names are there. -/
inductive Finds (b : Bundler) (src : Path) (table : Option String) (w : World) : Option (Path × Plan) → Prop
  | nothing (hfound : ((b.findTable src table).runIn w).1 = .ok none) : Finds b src table w none
  | plan {csv : Path} {p : Plan} (hfound : ((b.findTable src table).runIn w).1 = .ok (some csv))
      (hplan : ((b.plan csv.text).runIn w).1 = .ok p) (hfile : ∀ path ∈ planPaths p, w.files.FileAt path.text) :
      Finds b src table w (some (csv, p))

/-- The plan among what a run finds; without a table nothing is planned. -/
def foundPlan : Option (Path × Plan) → Plan
  | some (_, p) => p
  | none => []

theorem bundleWork_of_hands {b : Bundler} {source output : Option String} {src out : Path} {w w' : World}
    (hs : (requireSource source).runIn w = (.ok src, w')) (hhands : Hands source output src out)
    (table : Option String) (args : List String) (dryRun : Bool) (result : BundleResult) :
    (b.bundleWork source table output args dryRun).runIn result w =
      (b.proceed src out table args dryRun).runIn { result with outputPath := some out.text } w' := by
  rw [bundleWork, Work.runIn_lift_bind, hs]
  rcases hhands.output_eq with ⟨o, rfl, hne, rfl⟩ | ⟨hnone, hdefault⟩
  · have ho : (some o).filter (· != "") = some o := by simp [Option.filter, hne]
    simp only [ho]
    rfl
  · have ho : output.filter (· != "") = none := by
      rcases hnone with rfl | rfl <;> rfl
    simp only [ho, hdefault]
    rfl

/-! ### The result of a dry run -/

/-- What a dry run makes of its result. -/
def noted (result : BundleResult) : Option (Path × Plan) → BundleResult
  | none => { result with warnings := result.warnings ++ ["No symbols table found; nothing to rename"] }
  | some (csv, p) =>
    let metadata := Fields.put result.metadata (.text "symbols_path") (.text csv.text)
    { result with metadata := Fields.put metadata (.text "planned") (plannedValue p) }

theorem isFile_of_fileAt {path : Path} {w : World} (h : w.files.FileAt path.text) :
    (Action.isFile path).runIn w = (.ok true, w) := by
  obtain ⟨bytes, executable, hstat⟩ := h
  have hprobe := probe_eq_some_iff.mpr hstat
  simp [Action.isFile, Action.probe, Action.runIn_bind, hprobe, Except.mapError]

theorem filterM_isMissing_of_fileAt {names : List String} {w : World}
    (h : ∀ name ∈ names, w.files.FileAt (Path.ofText name).text) (result : BundleResult) :
    (names.filterM isMissing).runIn result w = ((.ok [], result), w) := by
  have haux : (names.filterAuxM isMissing []).runIn result w = ((.ok [], result), w) := by
    induction names with
    | nil => rfl
    | cons name rest ih =>
      have hfile := isFile_of_fileAt (h name List.mem_cons_self)
      rw [List.filterAuxM, isMissing]
      simpa [Work.runIn_bind, hfile] using ih fun other hother => h other (List.mem_cons_of_mem _ hother)
  rw [List.filterM, Work.runIn_bind_ok haux]
  rfl

theorem bundleByTable_dry {b : Bundler} {csv src out : Path} {args : List String} {p : Plan} {result : BundleResult}
    {w w₁ : World} (hplan : ((b.plan csv.text).runIn w).1 = .ok p)
    (hfile : ∀ path ∈ planPaths p, w.files.FileAt path.text) (hfiles : w₁.files = w.files) :
    ∃ w₂, (b.bundleByTable csv src out args true).runIn result w₁ = ((.ok (), noted result (some (csv, p))), w₂) := by
  obtain ⟨w₂, hw₂, hlog⟩ := Action.exists_runIn_log .info logger ("Reading symbols from " ++ csv.text ++ " ...") w₁
  have hread := plan_onlyReads b csv.text
  have hplan₂ : (b.plan csv.text).runIn w₂ = (.ok p, ((b.plan csv.text).runIn w₂).2) :=
    Prod.ext ((hread.result_eq (hw₂.trans hfiles)).trans hplan) rfl
  have hw₃ : ((b.plan csv.text).runIn w₂).2.files = w.files := (hread.files_eq w₂).trans (hw₂.trans hfiles)
  have hnames : ∀ name ∈ p.map Prod.fst, ((b.plan csv.text).runIn w₂).2.files.FileAt (Path.ofText name).text := by
    intro name hname
    obtain ⟨group, hgroup, rfl⟩ := List.mem_map.mp hname
    rw [hw₃]
    exact hfile _ (List.mem_map_of_mem hgroup)
  rw [bundleByTable, Work.runIn_lift_bind, hlog]
  dsimp only
  rw [Work.runIn_lift_bind, hplan₂]
  dsimp only
  rw [Work.runIn_note_bind]
  change ∃ w₃, (b.carryOut csv p src out args true).runIn _ _ = (_, w₃)
  rw [carryOut, Work.runIn_bind_ok (filterM_isMissing_of_fileAt hnames _)]
  exact ⟨_, rfl⟩

theorem proceed_dry {b : Bundler} {src : Path} {table : Option String} {found : Option (Path × Plan)} {w w₁ : World}
    (out : Path) (args : List String) (result : BundleResult) (h : Finds b src table w found)
    (hfiles : w₁.files = w.files) :
    ∃ w₂, (b.proceed src out table args true).runIn result w₁ = ((.ok (), noted result found), w₂) := by
  have hread := findTable_onlyReads b src table
  have hw₂ : ((b.findTable src table).runIn w₁).2.files = w.files := (hread.files_eq w₁).trans hfiles
  change ∃ w₂, ((liftM (b.findTable src table) : Work (Option Path)) >>= _).runIn result w₁ = _
  rw [Work.runIn_lift_bind]
  rcases hrun : (b.findTable src table).runIn w₁ with ⟨ended, w₂⟩
  have hended := hread.result_eq hfiles
  rw [hrun] at hended hw₂
  cases h with
  | nothing hfound =>
    obtain rfl : ended = .ok none := hended.trans hfound
    exact ⟨_, rfl⟩
  | plan hfound hplan hfile =>
    obtain rfl : ended = .ok (some _) := hended.trans hfound
    exact bundleByTable_dry hplan hfile hw₂

/-! ### The result of a run -/

/-- The warning about a symbol that holds no name. -/
def namelessWarning (file symbol : String) : String :=
  file ++ ": no identifier in " ++ quoted symbol

/-- A run does what is planned: its files are those that are planned, in each it renames the names that the symbols
hold, and it warns about the symbols that hold none. -/
structure Foretells (planned : List (String × List String)) (result : BundleResult) : Prop where
  renames : result.renames.map (fun file => (file.1, file.2.map Prod.fst)) =
    planned.map fun file => (file.1, namesOf file.2)
  restored : result.restoredFiles = planned.map Prod.fst
  warnings : result.warnings = planned.flatMap fun file => (namelessOf file.2).map (namelessWarning file.1)

/-- The renames of a plan note what the symbols of the plan hold, after what was noted before. -/
theorem renameAll_notes {b : Bundler} {p : Plan} {result result' : BundleResult} {w w' : World}
    (h : (b.renameAll p).runIn result w = ((.ok (), result'), w')) :
    result'.renames.map (fun file => (file.1, file.2.map Prod.fst)) =
        result.renames.map (fun file => (file.1, file.2.map Prod.fst)) ++
          (symbolsOf p).map (fun file => (file.1, namesOf file.2)) ∧
      result'.warnings = result.warnings ++
        (symbolsOf p).flatMap fun file => (namelessOf file.2).map (namelessWarning file.1) := by
  induction p generalizing result w with
  | nil =>
    cases h
    simp [symbolsOf]
  | cons group rest ih =>
    obtain ⟨_, result₁, w₁, hfirst, hrest⟩ := Work.runIn_bind_eq_ok h
    obtain ⟨_, result₂, w₂, hlog, hfirst⟩ := Work.runIn_bind_eq_ok hfirst
    obtain ⟨report, result₃, w₃, hrename, hnote⟩ := Work.runIn_bind_eq_ok hfirst
    cases hlog
    cases hnote
    simp only [Work.runIn_lift, Prod.mk.injEq] at hrename
    obtain ⟨⟨hreport, rfl⟩, _⟩ := hrename
    have htold := renameFile_reports (Prod.ext hreport rfl)
    obtain ⟨hrenames, hwarnings⟩ := ih hrest
    refine ⟨?_, ?_⟩
    · rw [hrenames]
      simp [symbolsOf, htold.names]
    · rw [hwarnings, htold.nameless]
      simp [symbolsOf, namelessWarning]

/-- A session that succeeds ends with the result of its renames. -/
theorem planSession_result {b : Bundler} {p : Plan} {src out : Path} {args : List String}
    {result result' : BundleResult} {w w' : World}
    (h : (b.planSession p src out args).runIn result w = ((.ok (), result'), w')) :
    ∃ w₁ w₂, (b.renameAll p).runIn result w₁ = ((.ok (), result'), w₂) := by
  have hrun := planSession_runIn b p src out args result w b.merger.merge
  rw [withMerge_self, h] at hrun
  rcases hbackUp : (backUp b.settings.rename.backupSuffix (planPaths p)).runIn w with ⟨failure | summary, w₁⟩
  · rw [hbackUp] at hrun
    cases hrun
  · simp only [hbackUp] at hrun
    refine ⟨w₁, ?_⟩
    -- What comes after the body leaves its result alone, and fails if the body does.
    have hended := congrArg (fun run : (Except Failure Unit × BundleResult) × World => run.1.1) hrun
    have hresult := congrArg (fun run : (Except Failure Unit × BundleResult) × World => run.1.2) hrun
    obtain ⟨hok, _⟩ := afterBody_ok hended.symm
    rcases hrename : (b.renameAll p).runIn result w₁ with ⟨⟨failure | ⟨⟩, result₁⟩, w₂⟩
    · simp only [hrename] at hok
      cases hok
    · simp only [hrename, afterBody] at hresult
      exact ⟨w₂, by rw [hresult]⟩

theorem runSession_foretold {b : Bundler} {p : Plan} {src out : Path} {args : List String}
    {result result' : BundleResult} {w w' : World} (hrenames : result.renames = []) (hwarnings : result.warnings = [])
    (h : (b.runSession p src out args).runIn result w = ((.ok (), result'), w')) : Foretells (symbolsOf p) result' := by
  obtain ⟨w₁, _, hrun⟩ := runSession_runIn b p src out args result w
  have hself := hrun b.merger.merge
  rw [withMerge_self, h] at hself
  rcases hsession : (b.planSession p src out args).runIn result w₁ with ⟨⟨failure | ⟨⟩, result₁⟩, w₂⟩
  · rw [hsession] at hself
    cases hself
  · rw [hsession] at hself
    cases hself
    obtain ⟨w₃, w₄, hrename⟩ := planSession_result hsession
    obtain ⟨hnames, hnameless⟩ := renameAll_notes hrename
    refine ⟨?_, ?_, ?_⟩
    · simpa [hrenames] using hnames
    · simp [symbolsOf]
    · simpa [hwarnings] using hnameless

theorem carryOut_foretold {b : Bundler} {csv src out : Path} {args : List String} {p : Plan}
    {result result' : BundleResult} {w w' : World}
    (h : (b.carryOut csv p src out args false).runIn result w = ((.ok (), result'), w'))
    (hrenames : result.renames = []) (hwarnings : result.warnings = []) :
    (∀ path ∈ planPaths p, w.files.FileAt path.text) ∧ Foretells (symbolsOf p) result' := by
  obtain ⟨found, hrun, hfile⟩ := filterM_isMissing (p.map Prod.fst) result w
  obtain ⟨missing, result₁, w₁, hmissing, h⟩ := Work.runIn_bind_eq_ok h
  have hsame : ((.ok missing, result₁), w₁) = ((found, result), w) := hmissing.symm.trans hrun
  cases hsame
  simp only [Bool.false_eq_true, if_false] at h
  split_ifs at h with hsome
  · cases h
  · obtain ⟨_, result₂, w₂, hsession, hlog⟩ := Work.runIn_bind_eq_ok h
    cases hlog
    obtain rfl : missing = [] := by simpa using hsome
    refine ⟨fun path hpath => ?_, runSession_foretold hrenames hwarnings hsession⟩
    obtain ⟨group, hgroup, rfl⟩ := List.mem_map.mp hpath
    exact hfile rfl _ (List.mem_map_of_mem hgroup)

theorem bundleByTable_foretold {b : Bundler} {csv src out : Path} {args : List String} {result result' : BundleResult}
    {w w₁ w' : World} (hrenames : result.renames = []) (hwarnings : result.warnings = []) (hfiles : w₁.files = w.files)
    (h : (b.bundleByTable csv src out args false).runIn result w₁ = ((.ok (), result'), w')) : ∃ p,
      ((b.plan csv.text).runIn w).1 = .ok p ∧ (∀ path ∈ planPaths p, w.files.FileAt path.text) ∧
        Foretells (symbolsOf p) result' := by
  have hread := plan_onlyReads b csv.text
  obtain ⟨_, result₂, w₂, hlog, h⟩ := Work.runIn_bind_eq_ok h
  obtain ⟨p, result₃, w₃, hplan, h⟩ := Work.runIn_bind_eq_ok h
  obtain ⟨_, result₄, w₄, hnote, h⟩ := Work.runIn_bind_eq_ok h
  cases hlog
  cases hnote
  simp only [Work.runIn_lift, Prod.mk.injEq] at hplan
  obtain ⟨⟨hok, rfl⟩, hw₃⟩ := hplan
  have hfiles₃ : w₃.files = w.files := by
    rw [← hw₃]
    exact (hread.files_eq _).trans hfiles
  change (b.carryOut csv p src out args false).runIn _ _ = _ at h
  obtain ⟨hfile, hforetold⟩ := carryOut_foretold h hrenames hwarnings
  rw [hfiles₃] at hfile
  refine ⟨p, ?_, hfile, hforetold⟩
  rw [← hok]
  exact hread.result_eq hfiles.symm

theorem proceed_foretold {b : Bundler} (hquiet : b.Quiet) {src out : Path} {table : Option String} {args : List String}
    {result result' : BundleResult} {w w₁ w' : World} (hrenames : result.renames = [])
    (hrestored : result.restoredFiles = []) (hwarnings : result.warnings = []) (hfiles : w₁.files = w.files)
    (h : (b.proceed src out table args false).runIn result w₁ = ((.ok (), result'), w')) :
    ∃ found, Finds b src table w found ∧ Foretells (symbolsOf (foundPlan found)) result' := by
  have hread := findTable_onlyReads b src table
  obtain ⟨_, result₂, w₂, htools, h⟩ := Work.runIn_bind_eq_ok h
  obtain ⟨csv?, result₃, w₃, hfind, h⟩ := Work.runIn_bind_eq_ok h
  simp only [Work.runIn_lift, Prod.mk.injEq] at htools hfind
  obtain ⟨⟨_, rfl⟩, hw₂⟩ := htools
  obtain ⟨⟨hok, rfl⟩, hw₃⟩ := hfind
  have hfiles₂ : w₂.files = w.files := by
    rw [← hw₂]
    exact (requireTools_files hquiet w₁).trans hfiles
  have hfiles₃ : w₃.files = w.files := by
    rw [← hw₃]
    exact (hread.files_eq w₂).trans hfiles₂
  have hfound : ((b.findTable src table).runIn w).1 = .ok csv? := (hread.result_eq hfiles₂.symm).trans hok
  cases csv? with
  | none =>
    obtain ⟨_, result₄, w₄, hmerge, hlog⟩ := Work.runIn_bind_eq_ok h
    simp only [Work.runIn_lift, Prod.mk.injEq] at hmerge
    obtain ⟨⟨_, rfl⟩, _⟩ := hmerge
    cases hlog
    exact ⟨none, .nothing hfound, ⟨by simp [hrenames, symbolsOf, foundPlan], by simp [hrestored, symbolsOf, foundPlan],
      by simp [hwarnings, symbolsOf, foundPlan]⟩⟩
  | some csv =>
    obtain ⟨p, hplan, hfile, hforetold⟩ := bundleByTable_foretold hrenames hwarnings hfiles₃ h
    exact ⟨some (csv, p), .plan hfound hplan hfile, hforetold⟩

/-! ### The two runs -/

/-- A dry run reports the plan of what it finds. -/
theorem bundle_dry {b : Bundler} {source table output : Option String} {src out : Path}
    {found : Option (Path × Plan)} {w w₁ : World} (args : List String) (hhands : Hands source output src out)
    (hs : (requireSource source).runIn w = (.ok src, w₁)) (hfound : Finds b src table w found) :
    ∃ dry w', (b.bundle source table output args true).runIn w = (.ok dry, w') ∧ dry.success = true ∧
      plannedSymbols? dry = some (symbolsOf (foundPlan found)) := by
  have hw₁ : w₁.files = w.files := by simpa [hs] using (requireSource_onlyReads source).files_eq w
  obtain ⟨w', hproceed⟩ := proceed_dry out args { freshResult true with outputPath := some out.text } hfound hw₁
  rw [bundle_runIn, bundleWork_of_hands hs hhands, hproceed]
  refine ⟨_, w', rfl, rfl, ?_⟩
  cases hfound with
  | nothing => rfl
  | plan => exact plannedSymbols?_of_planned rfl

/-- A run that reports success has done what it found planned. -/
theorem bundle_foretold {b : Bundler} (hquiet : b.Quiet) {source table output : Option String} {args : List String}
    {result : BundleResult} {w w' : World}
    (hrun : (b.bundle source table output args false).runIn w = (.ok result, w')) (hsuccess : result.success = true) :
    ∃ src out w₁ found, Hands source output src out ∧ (requireSource source).runIn w = (.ok src, w₁) ∧
      Finds b src table w found ∧ Foretells (symbolsOf (foundPlan found)) result := by
  obtain ⟨result₀, hwork, _⟩ := bundle_succeeded hrun hsuccess
  rcases bundleWork_runIn b source table output args false (freshResult false) w with
    ⟨failure, w₁, _, hfailed⟩ | ⟨src, out, w₁, hhands, hs, hproceed⟩
  · have hself := (hfailed b.merger.merge).symm.trans hwork
    cases hself
  · have hself := (hproceed b.merger.merge).symm.trans hwork
    have hw₁ : w₁.files = w.files := by simpa [hs] using (requireSource_onlyReads source).files_eq w
    obtain ⟨found, hfound, hforetold⟩ := proceed_foretold hquiet rfl rfl rfl hw₁ hself
    rw [bundle_runIn, hwork] at hrun
    cases hrun
    exact ⟨src, out, w₁, found, hhands, hs, hfound, ⟨hforetold.renames, hforetold.restored, hforetold.warnings⟩⟩

theorem foundPlan_of_no_table {b : Bundler} {source table : Option String} {src : Path} {found : Option (Path × Plan)}
    {w w₁ : World} (hs : (requireSource source).runIn w = (.ok src, w₁)) (hfound : Finds b src table w found)
    (hnone : ((b.tableOf source table).runIn w).1 = .ok none) : foundPlan found = [] := by
  have hw₁ : w₁.files = w.files := by simpa [hs] using (requireSource_onlyReads source).files_eq w
  have hread := (findTable_onlyReads b src table).result_eq hw₁
  rw [tableOf, Action.runIn_bind_ok hs, hread] at hnone
  cases hfound with
  | nothing => rfl
  | plan hsome =>
    rw [hsome] at hnone
    cases hnone

/-- A dry run changes no file and has no use for its merger. Where the run itself succeeds, the dry run succeeds too, and
what it plans foretells what the run does; without a table nothing is planned. -/
theorem dry_run_foretells (b : Bundler) (source table output : Option String) (args : List String) (w : World) :
    ((b.bundle source table output args true).runIn w).2.files = w.files ∧
      (∀ merger, (b.withMerger merger).bundle source table output args true =
        b.bundle source table output args true) ∧
      (b.Quiet → ∀ result w', (b.bundle source table output args false).runIn w = (.ok result, w') →
        result.success = true → ∃ dry w'' planned,
          (b.bundle source table output args true).runIn w = (.ok dry, w'') ∧ dry.success = true ∧
          plannedSymbols? dry = some planned ∧ Foretells planned result ∧
          (((b.tableOf source table).runIn w).1 = .ok none → planned = [])) := by
  refine ⟨bundle_dry_files b source table output args w,
    fun merger => bundle_dry_merger b merger source table output args, fun hquiet result w' hrun hsuccess => ?_⟩
  obtain ⟨src, out, w₁, found, hhands, hs, hfound, hforetold⟩ := bundle_foretold hquiet hrun hsuccess
  obtain ⟨dry, w'', hdry, hdone, hplanned⟩ := bundle_dry args hhands hs hfound
  refine ⟨dry, w'', _, hdry, hdone, hplanned, hforetold, fun hnone => ?_⟩
  rw [foundPlan_of_no_table hs hfound hnone]
  rfl

/-- A name that is to be replaced twice, a symbol that holds none, and a file in which nothing is renamed. -/
theorem dry_run_foretells_repeated :
    let b := smallBundler .always fun _ _ _ => pure ()
    let w := smallWorld [(["a.c"], textFile "f"), (["b.c"], textFile "f"), (["t.csv"],
      tableFile "a.c:1,f,g\nb.c:1,x, \na.c:2,(unnamed),k\na.c:3,f(),h\n")]
    ∃ result dry w' w'', b.Quiet ∧
      (b.bundle (some "a.c") (some "t.csv") none [] false).runIn w = (.ok result, w') ∧ result.success = true ∧
      (b.bundle (some "a.c") (some "t.csv") none [] true).runIn w = (.ok dry, w'') ∧ dry.success = true ∧
      plannedSymbols? dry = some [("a.c", ["f", "(unnamed)", "f()"])] ∧
      Foretells [("a.c", ["f", "(unnamed)", "f()"])] result := by
  intro b w
  have hquiet : b.Quiet := smallBundler_quiet _ _
  obtain ⟨hsucceeds, hplanned⟩ : Succeeds ((b.bundle (some "a.c") (some "t.csv") none [] false).runIn w) ∧
      (((b.bundle (some "a.c") (some "t.csv") none [] true).runIn w).1.toOption.bind plannedSymbols?) =
        some [("a.c", ["f", "(unnamed)", "f()"])] := by
    decide +kernel
  -- All that is to be computed is computed; the rest holds of any run.
  clear_value w b
  obtain ⟨result, hok, hsuccess⟩ := hsucceeds
  obtain ⟨dry, w'', planned, hdry, hdone, hread, hforetells, _⟩ :=
    (dry_run_foretells b (some "a.c") (some "t.csv") none [] w).2.2 hquiet result _ (Prod.ext hok rfl) hsuccess
  rw [hdry] at hplanned
  obtain rfl : planned = _ := Option.some.inj (hread.symm.trans hplanned)
  exact ⟨result, dry, _, w'', hquiet, Prod.ext hok rfl, hsuccess, hdry, hdone, hread, hforetells⟩

end Bundler

end Amalgam
