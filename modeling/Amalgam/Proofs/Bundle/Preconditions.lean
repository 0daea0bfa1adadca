import Amalgam.Proofs.Bundle.TableFaults
/-!
# What a run checks before it begins

A run asks four questions before it touches a file: whether its source is there, whether its merger is, whether its
table makes a plan, and whether every file that the plan names is there. All four only read, and the plan is checked as
a whole, so a run that gets one wrong answer ends with the files as they were, whatever else is in order. The names that
the last question turns up are the files of the plan that are missing, in the order in which the table first names them,
because the plan is made by a stable grouping and filtered twice.
-/

namespace Amalgam

open Amalgam.Text Amalgam.Symbols FileSystem

namespace Bundler

/-- The files in which a table renames something and that are not there. -/
def missingFiles (rows : List Entry) (fs : FileSystem) : List String :=
  (renamedFiles rows).filter fun name => ¬ fs.FileAt (Path.ofText name).text

/-- Something that a run needs is not there. -/
inductive Blocked (b : Bundler) (source table : Option String) (w : World) : Prop
  | source (h : ∀ s, source = some s → s ≠ "" → ¬ w.files.FileAt (Path.ofText s).text)
  | merger (h : (b.merger.isAvailable.runIn w).1 ≠ .ok true)
  | table {csv : Path} (hfound : ((b.tableOf source table).runIn w).1 = .ok (some csv))
      (hunread : ∀ rows, ((readTable csv.text b.settings.rename.encoding).runIn w).1 ≠ .ok rows)
  | plan (h : ∀ p, ((b.tablePlan source table).runIn w).1 ≠ .ok p)
  | file {row : Entry} {name : String} (hrow : row ∈ b.tableRows source table w) (hrename : row.hasRename = true)
      (hname : row.file? = some name) (hmissing : ¬ w.files.FileAt (Path.ofText name).text)

section

variable {b : Bundler} {source table output : Option String} {args : List String} {w : World} {src out csv : Path}
  {p : Plan} {name : String} {rows : List Entry} {fs : FileSystem}

/-! ### The missing files of a table -/

theorem mem_renamedFiles : name ∈ renamedFiles rows ↔ ∃ row ∈ rows, row.file? = some name ∧ row.hasRename = true := by
  rw [renamedFiles, List.mem_filter, any_entriesIn, List.mem_eraseDups, List.mem_filterMap]
  constructor
  · exact fun h => h.2
  · rintro ⟨row, hrow, hname, hrename⟩
    exact ⟨⟨row, hrow, hname⟩, row, hrow, hname, hrename⟩

theorem mem_missingFiles : name ∈ missingFiles rows fs ↔
    ∃ row ∈ rows, row.file? = some name ∧ row.hasRename = true ∧ ¬ fs.FileAt (Path.ofText name).text := by
  rw [missingFiles, List.mem_filter, mem_renamedFiles]
  simp only [decide_eq_true_eq]
  constructor
  · rintro ⟨⟨row, hrow, hname, hrename⟩, hmissing⟩
    exact ⟨row, hrow, hname, hrename, hmissing⟩
  · rintro ⟨row, hrow, hname, hrename, hmissing⟩
    exact ⟨⟨row, hrow, hname, hrename⟩, hmissing⟩

theorem missingFiles_sublist : (missingFiles rows fs).Sublist (rows.filterMap Entry.file?).eraseDups :=
  List.filter_sublist.trans List.filter_sublist

/-- The files of a plan are those of its table, in the order of the table. -/
theorem names_of_tablePlan (h : ((b.tablePlan source table).runIn w).1 = .ok p) :
    p.map Prod.fst = renamedFiles (b.tableRows source table w) := by
  obtain ⟨groups, hgrouped, rfl⟩ := grouped_of_tablePlan h
  exact hgrouped.names_withRenames

/-! ### Runs that end early -/

theorem requireSource_world (source : Option String) (w : World) : ((requireSource source).runIn w).2 = w := by
  unfold requireSource
  split
  · rfl
  · rename_i s _
    obtain ⟨found, hfound, _⟩ := isFile_runIn (Path.ofText s) w
    simp only [requireFile, Action.runIn_bind, hfound]
    rcases found with failure | _ | _ <;> rfl

/-- A source that is not there ends a run, and so does a table that cannot be looked up. -/
theorem tablePlan_ne_ok_of_source (h : ∀ s, source = some s → s ≠ "" → ¬ w.files.FileAt (Path.ofText s).text) (p : Plan) :
    ((b.tablePlan source table).runIn w).1 ≠ .ok p := by
  intro hplan
  obtain ⟨src, w₁, hsource, _⟩ := Action.runIn_bind_eq_ok (Prod.ext hplan rfl)
  obtain ⟨s, hs, hne, rfl⟩ := requireSource_ok hsource
  exact h s hs hne (fileAt_of_requireSource hsource)

theorem tablePlan_ne_ok_of_table (hfound : ((b.tableOf source table).runIn w).1 = .ok (some csv))
    (hunread : ∀ rows, ((readTable csv.text b.settings.rename.encoding).runIn w).1 ≠ .ok rows) (p : Plan) :
    ((b.tablePlan source table).runIn w).1 ≠ .ok p := by
  intro hplan
  obtain ⟨src, w₁, hsource, hrest⟩ := Action.runIn_bind_eq_ok (Prod.ext hplan rfl)
  obtain ⟨found, w₂, hlook, hrest⟩ := Action.runIn_bind_eq_ok hrest
  rw [tableOf, Action.runIn_bind_ok hsource, hlook] at hfound
  obtain rfl : found = some csv := Except.ok.inj hfound
  obtain ⟨rows, w₃, hread, _⟩ := Action.runIn_bind_eq_ok hrest
  have hw₁ : w₁.files = w.files := by simpa [hsource] using (requireSource_onlyReads source).files_eq w
  have hw₂ : w₂.files = w₁.files := by simpa [hlook] using (findTable_onlyReads b src table).files_eq w₁
  refine hunread rows ?_
  rw [← (readTable_onlyReads _ _).result_eq (hw₂.trans hw₁), hread]

theorem requireTools_unavailable (h : (b.merger.isAvailable.runIn w).1 ≠ .ok true) :
    ∃ failure w', (b.requireTools .bundle).runIn w = (.error failure, w') := by
  rw [requireTools, missingTools, Action.runIn_bind, Action.runIn_bind]
  rcases hrun : b.merger.isAvailable.runIn w with ⟨failure | _ | _, w'⟩
  · exact ⟨failure, w', rfl⟩
  · exact ⟨_, w', rfl⟩
  · exact absurd (by rw [hrun]) h

theorem requireTools_available (h : (b.merger.isAvailable.runIn w).1 = .ok true) :
    (b.requireTools .bundle).runIn w = (.ok (), (b.merger.isAvailable.runIn w).2) := by
  rw [requireTools, missingTools, Action.runIn_bind, Action.runIn_bind]
  rcases hrun : b.merger.isAvailable.runIn w with ⟨ended, w'⟩
  obtain rfl : ended = .ok true := by rw [← h, hrun]
  rfl

theorem bundleWork_unavailable (hquiet : b.Quiet) (h : (b.merger.isAvailable.runIn w).1 ≠ .ok true) :
    ∃ failure result w', w'.files = w.files ∧ result.success = false ∧ ∀ merge,
      ((b.withMerge merge).bundleWork source table output args false).runIn (freshResult false) w =
        ((.error failure, result), w') := by
  rcases bundleWork_runIn b source table output args false (freshResult false) w with
    ⟨failure, w', hfiles, hrun⟩ | ⟨src, out, w', _, hs, hrun⟩
  · exact ⟨failure, _, w', hfiles, rfl, hrun⟩
  · obtain rfl : w = w' := by simpa [hs] using (requireSource_world source w).symm
    obtain ⟨failure, w₁, htools⟩ := requireTools_unavailable h
    have hfiles := requireTools_files hquiet w
    rw [htools] at hfiles
    refine ⟨failure, { freshResult false with outputPath := some out.text }, w₁, hfiles, rfl, fun merge => ?_⟩
    rw [hrun, proceed_runIn, htools]

/-- A blocked run ends in one way whatever its merger would do, with the files as they were and without success. -/
theorem Blocked.idle (hquiet : b.Quiet) (h : b.Blocked source table w) (output : Option String) (args : List String) :
    ∃ ended : Except Failure BundleResult × World, ended.2.files = w.files ∧ ¬ Succeeds ended ∧
      ∀ merge, ((b.withMerge merge).bundle source table output args false).runIn w = ended := by
  by_cases havailable : (b.merger.isAvailable.runIn w).1 = .ok true
  · have hplan : ∀ p, ((b.tablePlan source table).runIn w).1 = .ok p →
        ∃ path ∈ planPaths p, ¬ w.files.FileAt path.text := by
      intro p hp
      cases h with
      | source h => exact absurd hp (tablePlan_ne_ok_of_source h p)
      | merger h => exact absurd havailable h
      | table hfound hunread => exact absurd hp (tablePlan_ne_ok_of_table hfound hunread p)
      | plan h => exact absurd hp (h p)
      | @file row name hrow hrename hname hmissing =>
        have hin : name ∈ p.map Prod.fst := ((isPlan_of_tablePlan hp).names name).mpr ⟨row, hrow, hname, hrename⟩
        obtain ⟨group, hgroup, rfl⟩ := List.mem_map.mp hin
        exact ⟨_, List.mem_map_of_mem hgroup, hmissing⟩
    cases bundle_runsAs hquiet source table output args false w with
    | @idle ended hended hfiles hrun => exact ⟨ended, hfiles, fun hsucceeds => (nomatch hended hsucceeds), hrun⟩
    | merged _ hnone =>
      obtain ⟨path, hpath, _⟩ := hplan [] hnone
      cases hpath
    | session _ hp hfile =>
      obtain ⟨path, hpath, hmissing⟩ := hplan _ hp
      exact absurd (hfile path hpath) hmissing
  · obtain ⟨failure, result, w', hfiles, hresult, hrun⟩ := bundleWork_unavailable hquiet havailable
    refine ⟨concluded ((.error failure, result), w'), (files_concluded _).trans hfiles, fun hsucceeds => ?_, fun merge => ?_⟩
    · cases succeeds_concluded (by exact hresult) hsucceeds
    · rw [bundle_runIn, hrun]

/-! ### Missing files -/

theorem isFile_of_probe {path : Path} {node : Option Node} (h : w.files.probe path.text = .ok node) :
    (Action.isFile path).runIn w = (.ok (decide (w.files.FileAt path.text)), w) := by
  have hfile : w.files.FileAt path.text ↔ ∃ bytes executable, node = some (.file bytes executable) := by
    simp only [FileAt, ← probe_eq_some_iff, h, Except.ok.injEq]
  have hprobe : (Action.probe path).runIn w = (.ok node, w) := by
    simp [Action.probe, Action.runIn_bind, h, Except.mapError]
  rw [Action.isFile, Action.runIn_bind_ok hprobe]
  rcases node with _ | ⟨bytes, executable⟩ | _ <;> simp [hfile]

/-- A name that can be looked up is missing or not, and the search goes on. -/
theorem filterAuxM_isMissing_cons {node : Option Node} (hprobe : w.files.probe (Path.ofText name).text = .ok node)
    (rest acc : List String) (result : BundleResult) : ((name :: rest).filterAuxM isMissing acc).runIn result w =
      (rest.filterAuxM isMissing (if w.files.FileAt (Path.ofText name).text then acc else name :: acc)).runIn result
        w := by
  rw [List.filterAuxM, isMissing]
  by_cases hfile : w.files.FileAt (Path.ofText name).text
  · simp [Work.runIn_bind, isFile_of_probe hprobe, hfile]
  · simp [Work.runIn_bind, isFile_of_probe hprobe, hfile]

/-- Whether files are missing is asked of all names, and the answer is the missing ones in their order. -/
theorem filterAuxM_isMissing_eq {names : List String}
    (hasked : ∀ name ∈ names, ∃ node, w.files.probe (Path.ofText name).text = .ok node) (acc : List String)
    (result : BundleResult) : (names.filterAuxM isMissing acc).runIn result w =
      ((.ok ((names.filter fun name => ¬ w.files.FileAt (Path.ofText name).text).reverse ++ acc), result), w) := by
  induction names generalizing acc with
  | nil => rfl
  | cons name rest ih =>
    obtain ⟨node, hprobe⟩ := hasked name List.mem_cons_self
    rw [filterAuxM_isMissing_cons hprobe, ih fun other hother => hasked other (List.mem_cons_of_mem _ hother)]
    by_cases hfile : w.files.FileAt (Path.ofText name).text
    · simp [hfile]
    · simp [hfile]

theorem carryOut_missing {result : BundleResult}
    (hasked : ∀ name ∈ p.map Prod.fst, ∃ node, w.files.probe (Path.ofText name).text = .ok node)
    (hsome : ((p.map Prod.fst).filter fun name => ¬ w.files.FileAt (Path.ofText name).text) ≠ [])
    (merge : Merge) : ((b.withMerge merge).carryOut csv p src out args false).runIn result w =
      ((.error (.filesNotFound csv.text
        ((p.map Prod.fst).filter fun name => ¬ w.files.FileAt (Path.ofText name).text)), result), w) := by
  have hmissing : ((p.map Prod.fst).filterM isMissing).runIn result w =
      ((.ok ((p.map Prod.fst).filter fun name => ¬ w.files.FileAt (Path.ofText name).text), result), w) := by
    rw [List.filterM, Work.runIn_bind_ok (filterAuxM_isMissing_eq hasked [] result)]
    simp
  rw [carryOut, Work.runIn_bind_ok hmissing]
  generalize ((p.map Prod.fst).filter fun name => ¬ w.files.FileAt (Path.ofText name).text) = missing at hsome ⊢
  cases missing with
  | nil => exact absurd rfl hsome
  | cons first others => rfl

/-- A name that cannot be looked up ends the search, whatever was found before it. -/
theorem filterAuxM_isMissing_error {front rest : List String} {fault : FileFault}
    (hasked : ∀ other ∈ front, ∃ node, w.files.probe (Path.ofText other).text = .ok node)
    (hfault : w.files.probe (Path.ofText name).text = .error fault) (acc : List String) (result : BundleResult) :
    ((front ++ name :: rest).filterAuxM isMissing acc).runIn result w = ((.error (.file fault), result), w) := by
  induction front generalizing acc with
  | nil =>
    have hisFile : (Action.isFile (Path.ofText name)).runIn w = (.error (.file fault), w) := by
      simp [Action.isFile, Action.probe, Action.runIn_bind, hfault, Except.mapError]
    rw [List.nil_append, List.filterAuxM, isMissing]
    simp [Work.runIn_bind, hisFile]
  | cons other front ih =>
    obtain ⟨node, hprobe⟩ := hasked other List.mem_cons_self
    rw [List.cons_append, filterAuxM_isMissing_cons hprobe]
    exact ih (fun x hx => hasked x (List.mem_cons_of_mem _ hx)) _

theorem carryOut_unsearchable {front rest : List String} {fault : FileFault} {result : BundleResult}
    (hnames : p.map Prod.fst = front ++ name :: rest)
    (hasked : ∀ other ∈ front, ∃ node, w.files.probe (Path.ofText other).text = .ok node)
    (hfault : w.files.probe (Path.ofText name).text = .error fault) (merge : Merge) :
    ((b.withMerge merge).carryOut csv p src out args false).runIn result w =
      ((.error (.file fault), result), w) := by
  have hmissing : ((p.map Prod.fst).filterM isMissing).runIn result w = ((.error (.file fault), result), w) := by
    rw [hnames, List.filterM, Work.runIn_bind, filterAuxM_isMissing_error hasked hfault]
  rw [carryOut, Work.runIn_bind, hmissing]

/-- When the source, the merger and the table are in order, a run comes to carrying out its plan, with nothing in its
result that says how it went. -/
theorem bundle_carriesOut (hquiet : b.Quiet) (havailable : (b.merger.isAvailable.runIn w).1 = .ok true)
    (hfound : ((b.tableOf source table).runIn w).1 = .ok (some csv)) (hplan : ((b.plan csv.text).runIn w).1 = .ok p)
    (output : Option String) (args : List String) : ∃ src out result w', w'.files = w.files ∧
      result.success = false ∧ result.errors = [] ∧ p.map Prod.fst = renamedFiles (b.tableRows source table w) ∧
      ∀ merge, ((b.withMerge merge).bundle source table output args false).runIn w =
        concluded (((b.withMerge merge).carryOut csv p src out args false).runIn result w') := by
  obtain ⟨src, w₁, hsource, hlook⟩ := Action.runIn_bind_eq_ok (Prod.ext hfound rfl)
  obtain rfl : w = w₁ := by simpa [hsource] using (requireSource_world source w).symm
  have hlook' : ((b.findTable src table).runIn w).1 = .ok (some csv) := by rw [hlook]
  have hnames := names_of_tablePlan (tablePlan_of_some hsource rfl hlook' rfl hplan)
  obtain ⟨out, hhands⟩ := exists_hands hsource output
  have hw₁ := hquiet w
  obtain ⟨w₂, hlooked, hw₂⟩ := (findTable_onlyReads b src table).runIn_eq (Prod.ext hlook' rfl) hw₁
  let opened : BundleResult := { freshResult false with outputPath := some out.text }
  obtain ⟨w₃, hw₃, htable⟩ := bundleByTable_runIn b csv src out args false opened w₂
  have hfiles₃ : w₃.files = w.files :=
    hw₃.trans (hw₂.trans ((findTable_onlyReads b src table).files_eq w))
  obtain ⟨w₄, hplanned, hw₄⟩ := (plan_onlyReads b csv.text).runIn_eq (Prod.ext hplan rfl) hfiles₃
  have hfiles₄ : w₄.files = w.files := hw₄.trans ((plan_onlyReads b csv.text).files_eq w)
  refine ⟨src, out, { opened with metadata := Fields.put opened.metadata (.text "symbols_path") (.text csv.text) },
    w₄, hfiles₄, rfl, rfl, hnames, fun merge => ?_⟩
  rw [bundle_runIn, bundleWork_of_hands hsource hhands, proceed_runIn, requireTools_available havailable]
  dsimp only
  rw [Work.runIn_lift_bind, hlooked]
  dsimp only
  rw [htable, hplanned]

/-- When the source, the merger and the table are in order and some files are missing, the result says which. -/
theorem bundle_missing (hquiet : b.Quiet) (havailable : (b.merger.isAvailable.runIn w).1 = .ok true)
    (hfound : ((b.tableOf source table).runIn w).1 = .ok (some csv)) (hplan : ((b.plan csv.text).runIn w).1 = .ok p)
    (hasked : ∀ name ∈ p.map Prod.fst, ∃ node, w.files.probe (Path.ofText name).text = .ok node)
    (hsome : missingFiles (b.tableRows source table w) w.files ≠ []) (merge : Merge) :
    ∃ result w', ((b.withMerge merge).bundle source table output args false).runIn w = (.ok result, w') ∧
      result.success = false ∧ result.errors = ["Files referenced by " ++ csv.text ++ " not found: " ++
        joined ", " (missingFiles (b.tableRows source table w) w.files)] := by
  obtain ⟨src, out, result, w', hfiles, hfails, hnone, hnames, hrun⟩ :=
    bundle_carriesOut hquiet havailable hfound hplan output args
  rw [missingFiles, ← hnames, ← hfiles] at hsome ⊢
  rw [← hfiles] at hasked
  rw [hrun, carryOut_missing hasked hsome]
  exact ⟨_, _, rfl, hfails, by rw [hnone]; rfl⟩

/-- When the source, the merger and the table are in order and a name cannot be looked up, the result says which. -/
theorem bundle_unsearchable {front rest : List String} {fault : FileFault} (hquiet : b.Quiet)
    (havailable : (b.merger.isAvailable.runIn w).1 = .ok true)
    (hfound : ((b.tableOf source table).runIn w).1 = .ok (some csv)) (hplan : ((b.plan csv.text).runIn w).1 = .ok p)
    (hnames : p.map Prod.fst = front ++ name :: rest)
    (hasked : ∀ other ∈ front, ∃ node, w.files.probe (Path.ofText other).text = .ok node)
    (hfault : w.files.probe (Path.ofText name).text = .error fault) (merge : Merge) :
    ∃ result w', ((b.withMerge merge).bundle source table output args false).runIn w = (.ok result, w') ∧
      result.success = false ∧
      result.errors = ["[Errno 36] File name too long: " ++ quoted (Path.ofText name).text] := by
  obtain ⟨src, out, result, w', hfiles, hfails, hnone, _, hrun⟩ :=
    bundle_carriesOut hquiet havailable hfound hplan output args
  obtain rfl := eq_of_probe_error hfault
  rw [← hfiles] at hasked hfault
  rw [hrun, carryOut_unsearchable hnames hasked hfault]
  exact ⟨_, _, rfl, hfails, by rw [hnone]; rfl⟩

/-- A run that lacks something ends without success, before its merger is called and with the files as they were. If
all that is in the way is that files are missing, its result names all of them, each once and in the order of the
table; but if one of the names cannot be looked up, its result tells of the first such name and of nothing else. -/
theorem checked_before_begun (hquiet : b.Quiet) (h : b.Blocked source table w) (output : Option String)
    (args : List String) :
    NeverCalls (fun merge => ((b.withMerge merge).bundle source table output args false).runIn w) ∧
      (∀ merge, ¬ Succeeds (((b.withMerge merge).bundle source table output args false).runIn w) ∧
        (((b.withMerge merge).bundle source table output args false).runIn w).2.files = w.files) ∧
      ∀ csv p, (b.merger.isAvailable.runIn w).1 = .ok true →
        ((b.tableOf source table).runIn w).1 = .ok (some csv) → ((b.plan csv.text).runIn w).1 = .ok p →
        ((∀ name ∈ p.map Prod.fst, ∃ node, w.files.probe (Path.ofText name).text = .ok node) →
          ∃ missing : List String,
            (∀ name, name ∈ missing ↔ ∃ row ∈ b.tableRows source table w, row.file? = some name ∧
              row.hasRename = true ∧ ¬ w.files.FileAt (Path.ofText name).text) ∧
            missing.Sublist ((b.tableRows source table w).filterMap Entry.file?).eraseDups ∧ missing.Nodup ∧
            ∀ merge, ∃ result w', ((b.withMerge merge).bundle source table output args false).runIn w =
              (.ok result, w') ∧ result.success = false ∧
              result.errors = ["Files referenced by " ++ csv.text ++ " not found: " ++ joined ", " missing]) ∧
        ∀ front name rest fault, p.map Prod.fst = front ++ name :: rest →
          (∀ other ∈ front, ∃ node, w.files.probe (Path.ofText other).text = .ok node) →
          w.files.probe (Path.ofText name).text = .error fault →
          ∀ merge, ∃ result w', ((b.withMerge merge).bundle source table output args false).runIn w =
            (.ok result, w') ∧ result.success = false ∧
            result.errors = ["[Errno 36] File name too long: " ++ quoted (Path.ofText name).text] := by
  obtain ⟨ended, hfiles, hfails, hrun⟩ := h.idle hquiet output args
  refine ⟨fun merge merge' => (hrun merge).trans (hrun merge').symm, fun merge => ?_, ?_⟩
  · rw [hrun]
    exact ⟨hfails, hfiles⟩
  · intro csv p havailable hfound hplan
    refine ⟨fun hasked => ?_, fun front name rest fault hnames hasked hfault =>
      bundle_unsearchable hquiet havailable hfound hplan hnames hasked hfault⟩
    have htable : ∃ p, ((b.tablePlan source table).runIn w).1 = .ok p := by
      obtain ⟨src, w₁, hsource, hlook⟩ := Action.runIn_bind_eq_ok (Prod.ext hfound rfl)
      obtain rfl : w = w₁ := by simpa [hsource] using (requireSource_world source w).symm
      exact ⟨p, tablePlan_of_some hsource rfl (by rw [hlook]) rfl hplan⟩
    obtain ⟨p', htable⟩ := htable
    have hsome : missingFiles (b.tableRows source table w) w.files ≠ [] := by
      cases h with
      | source h => exact absurd htable (tablePlan_ne_ok_of_source h p')
      | merger h => exact absurd havailable h
      | table hfound hunread => exact absurd htable (tablePlan_ne_ok_of_table hfound hunread p')
      | plan h => exact absurd htable (h p')
      | @file row name hrow hrename hname hmissing =>
        exact List.ne_nil_of_mem (mem_missingFiles.mpr ⟨row, hrow, hname, hrename, hmissing⟩)
    refine ⟨missingFiles (b.tableRows source table w) w.files, fun name => mem_missingFiles, missingFiles_sublist, ?_,
      bundle_missing hquiet havailable hfound hplan hasked hsome⟩
    obtain ⟨groups, hgrouped, rfl⟩ := grouped_of_tablePlan htable
    exact missingFiles_sublist.nodup (hgrouped.names ▸ hgrouped.nodup)

/-- One file of the table is there, two are not, and of a fourth that is not there nothing is renamed. -/
theorem checked_before_begun_two_missing :
    let b := smallBundler .onSuccess fun _ _ _ => pure ()
    let w := smallWorld [(["a.c"], textFile "f"),
      (["t.csv"], tableFile "d.c:1,f,g\na.c:1,f,g\nx.c:1,f, \nc.c:1,f,g\nd.c:2,h,k\n")]
    let run := fun merge => ((b.withMerge merge).bundle (some "a.c") (some "t.csv") none [] false).runIn w
    b.Quiet ∧ b.Blocked (some "a.c") (some "t.csv") w ∧ NeverCalls run ∧
      ∀ merge, ∃ result w', run merge = (.ok result, w') ∧
        result.errors = ["Files referenced by t.csv not found: d.c, c.c"] ∧ w'.files = w.files := by
  intro b w run
  have hquiet : b.Quiet := smallBundler_quiet _ _
  have havailable : (b.merger.isAvailable.runIn w).1 = .ok true := rfl
  -- One evaluation for all, because each reads the table again.
  obtain ⟨hrow, hplan, herrors⟩ : (⟨"c.c:1", "f", some "g"⟩ : Entry) ∈ b.tableRows (some "a.c") (some "t.csv") w ∧
      ((b.plan (Path.ofText "t.csv").text).runIn w).1.toOption.map (·.map Prod.fst) = some ["d.c", "a.c", "c.c"] ∧
      (run b.merger.merge).1.toOption.map BundleResult.errors =
        some ["Files referenced by t.csv not found: d.c, c.c"] := by decide +kernel
  have htable : ((b.tableOf (some "a.c") (some "t.csv")).runIn w).1.toOption = some (some (Path.ofText "t.csv")) := by
    decide +kernel
  have hasked : ∀ name ∈ ["d.c", "a.c", "c.c"], ∃ node, w.files.probe (Path.ofText name).text = .ok node := by
    decide +kernel
  have hblocked : b.Blocked (some "a.c") (some "t.csv") w :=
    .file hrow (show _ = true by decide +kernel) (show _ = some "c.c" by decide +kernel) (by decide +kernel)
  clear_value w b
  obtain ⟨p, hplanned, hnames⟩ := Option.map_eq_some_iff.mp hplan
  have hanswered : ∀ name ∈ p.map Prod.fst, ∃ node, w.files.probe (Path.ofText name).text = .ok node := by
    rwa [hnames]
  obtain ⟨hnever, hends, hlists⟩ := checked_before_begun hquiet hblocked none []
  obtain ⟨_, _, _, _, hresult⟩ := (hlists _ p havailable (Except.toOption_eq_some.mp htable)
    (Except.toOption_eq_some.mp hplanned)).1 hanswered
  refine ⟨hquiet, hblocked, hnever, fun merge => ?_⟩
  obtain ⟨result, w', hrun, _, _⟩ := hresult merge
  have hsame : run b.merger.merge = (.ok result, w') := (hnever _ merge).trans hrun
  rw [hsame] at herrors
  have hfiles := (hends merge).2
  rw [hrun] at hfiles
  exact ⟨result, w', hrun, Option.some.inj herrors, hfiles⟩

end

end Bundler

end Amalgam
