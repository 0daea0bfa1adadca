import Amalgam.Proofs.Bundle.DryRun
import Amalgam.Proofs.Symbols.Location
import Amalgam.Proofs.Value.Result
/-!
# Faults of a table

A dry run ends with a result unless a cause passes through it that it does not report. Up to the plan, and after it, all
causes are reported: they name a path, a source, a table or missing files. Of the causes in between, bytes that do not
decode and text that is no table are reported as well. What is left is a path that no file system takes and a row whose
location cannot be read, so a dry run returns exactly if the table gives cause for neither.
-/

namespace Amalgam

open Amalgam.Text Amalgam.Symbols Amalgam.Config FileSystem

namespace FileSystem

theorem read_ne_embeddedNul {fs : FileSystem} {path : String} (h : '\x00' ∉ path.toList) :
    fs.read path ≠ .error .embeddedNul := by
  have hstat : fs.stat path ≠ .error .embeddedNul := stat_ne_embeddedNul h
  rw [read]
  cases hnode : fs.stat path with
  | error fault =>
    rw [hnode] at hstat
    exact fun h => hstat (congrArg Except.error (Except.error.inj h))
  | ok node =>
    cases node with
    | file bytes executable => simp [bind, Except.bind, pure, Except.pure]
    | directory => simp [bind, Except.bind, throw, throwThe, MonadExceptOf.throw]

theorem read_of_nul {fs : FileSystem} {path : String} (h : '\x00' ∈ path.toList) :
    fs.read path = .error .embeddedNul := by
  simp [read, stat, locate, h, bind, Except.bind]

end FileSystem

/-! ### What an action fails with -/

namespace Action

variable {α β : Type} {prop : Failure → Prop}

/-- Whatever the action fails with has a property. -/
def FailsOnly (prop : Failure → Prop) (a : Action α) : Prop :=
  ∀ w failure, (a.runIn w).1 = .error failure → prop failure

namespace FailsOnly

theorem pure (x : α) : (Pure.pure x : Action α).FailsOnly prop :=
  fun _ _ h => nomatch h

theorem log (level : Level) (logger message : String) : (Action.log level logger message).FailsOnly prop := by
  intro w failure h
  rw [runIn_log] at h
  cases h

theorem throw {failure : Failure} (h : prop failure) : (MonadExcept.throw failure : Action α).FailsOnly prop := by
  intro w failure' hfailed
  cases hfailed
  exact h

theorem bind {a : Action α} {f : α → Action β} (ha : a.FailsOnly prop) (hf : ∀ x, (f x).FailsOnly prop) :
    (a >>= f).FailsOnly prop := by
  intro w failure hfailed
  rw [runIn_bind] at hfailed
  rcases hrun : a.runIn w with ⟨failure' | x, w'⟩
  · rw [hrun] at hfailed
    cases hfailed
    exact ha w failure (by rw [hrun])
  · rw [hrun] at hfailed
    exact hf x w' failure hfailed

theorem ofExcept {ε : Type} {toFailure : ε → Failure} {x : Except ε α} (h : ∀ e, x = .error e → prop (toFailure e)) :
    (Action.ofExcept toFailure x).FailsOnly prop := by
  intro w failure hfailed
  rw [runIn_ofExcept] at hfailed
  cases x with
  | error e =>
    cases hfailed
    exact h e rfl
  | ok a => cases hfailed

theorem attempt_bind {cause : Failure → Prop} {a : Action α} {f : Except Failure α → Action β}
    (ha : a.FailsOnly cause) (hok : ∀ x, (f (.ok x)).FailsOnly prop)
    (herror : ∀ failure, cause failure → (f (.error failure)).FailsOnly prop) :
    (a.attempt >>= f).FailsOnly prop := by
  intro w failure hfailed
  have hattempt : a.attempt.runIn w = (.ok (a.runIn w).1, (a.runIn w).2) := rfl
  rw [runIn_bind_ok hattempt] at hfailed
  rcases hrun : a.runIn w with ⟨failure' | x, w'⟩
  · rw [hrun] at hfailed
    exact herror failure' (ha w failure' (by rw [hrun])) w' failure hfailed
  · rw [hrun] at hfailed
    exact hok x w' failure hfailed

end FailsOnly

/-- Reading in UTF-8 fails on the path or on bytes that do not decode. -/
theorem readText_utf8_failsOnly {path : String} {encoding : Value} (hutf8 : codecOf? encoding = some .utf8) :
    (readText path encoding false).FailsOnly fun failure =>
      (∃ fault, failure = .file fault ∧ (fault = .embeddedNul → '\x00' ∈ path.toList)) ∨
        ∃ fault, failure = .unreadable (.undecodable fault) := by
  intro w failure hfailed
  obtain ⟨name, hname, hcodec⟩ := runIn_codec_of_codecOf? hutf8
  rw [readText, runIn_bind_ok (hname w), runIn_bind_ok (runIn_files w)] at hfailed
  cases hread : w.files.read path with
  | error fault =>
    rw [hread, runIn_bind] at hfailed
    cases hfailed
    refine .inl ⟨fault, rfl, ?_⟩
    rintro rfl
    by_contra hnul
    exact read_ne_embeddedNul hnul hread
  | ok bytes =>
    rw [hread, runIn_bind_ok (runIn_ofExcept _ _ _), runIn_bind_ok (hcodec w), runIn_ofExcept, Codec.decode] at hfailed
    dsimp only at hfailed
    cases hdecode : decodeFrom "utf-8" utf8Piece false 0 0 bytes with
    | error fault =>
      rw [hdecode] at hfailed
      cases hfailed
      exact .inr ⟨fault, rfl⟩
    | ok text =>
      rw [hdecode] at hfailed
      cases hfailed

theorem readText_utf8_nul {path : String} {encoding : Value} (hutf8 : codecOf? encoding = some .utf8)
    (hnul : '\x00' ∈ path.toList) (w : World) :
    (readText path encoding false).runIn w = (.error (.file .embeddedNul), w) := by
  obtain ⟨name, hname, -⟩ := runIn_codec_of_codecOf? hutf8
  rw [readText, runIn_bind_ok (hname w), runIn_bind_ok (runIn_files w), read_of_nul hnul]
  rfl

end Action

namespace Work

variable {α β : Type} {prop : Failure → Prop}

/-- Whatever the work fails with has a property. -/
def FailsOnly (prop : Failure → Prop) (work : Work α) : Prop :=
  ∀ result w failure, (work.runIn result w).1.1 = .error failure → prop failure

namespace FailsOnly

theorem pure (x : α) : (Pure.pure x : Work α).FailsOnly prop :=
  fun _ _ _ h => nomatch h

theorem lift {a : Action α} (h : a.FailsOnly prop) : (liftM a : Work α).FailsOnly prop :=
  fun _ w failure hfailed => h w failure hfailed

theorem note (change : BundleResult → BundleResult) : (Work.note change).FailsOnly prop := by
  intro result w failure hfailed
  cases hfailed

theorem bind {a : Work α} {f : α → Work β} (ha : a.FailsOnly prop) (hf : ∀ x, (f x).FailsOnly prop) :
    (a >>= f).FailsOnly prop := by
  intro result w failure hfailed
  rw [runIn_bind] at hfailed
  rcases hrun : a.runIn result w with ⟨⟨failure' | x, result'⟩, w'⟩
  · rw [hrun] at hfailed
    cases hfailed
    exact ha result w failure (by rw [hrun])
  · rw [hrun] at hfailed
    exact hf x result' w' failure hfailed

theorem filterM {f : α → Work Bool} (hf : ∀ x, (f x).FailsOnly prop) (items : List α) :
    (items.filterM f).FailsOnly prop := by
  have haux : ∀ acc, (items.filterAuxM f acc).FailsOnly prop := by
    induction items with
    | nil => exact fun acc => .pure acc
    | cons x rest ih => exact fun acc => (hf x).bind fun _ => ih _
  exact (haux []).bind fun _ => .pure _

end FailsOnly

end Work

namespace Bundler

/-- A cause that bundling reports in its result. -/
abbrev Told (failure : Failure) : Prop :=
  isReported failure = true

theorem probe_failsOnly (path : Path) : (Action.probe path).FailsOnly Told := by
  intro w failure hfailed
  have hprobe : (w.files.probe path.text).mapError Failure.file = .error failure := by
    simpa [Action.probe, Action.runIn_bind] using hfailed
  unfold FileSystem.probe at hprobe
  split at hprobe
  · cases hprobe
  · cases hprobe
    rfl
  · cases hprobe

theorem isFile_failsOnly (path : Path) : (Action.isFile path).FailsOnly Told := by
  refine (probe_failsOnly path).bind fun node => ?_
  split <;> exact .pure _

theorem requireSource_failsOnly (source : Option String) : (requireSource source).FailsOnly Told := by
  unfold requireSource
  split
  · exact .throw rfl
  · refine Action.FailsOnly.bind ?_ fun _ => .pure _
    refine (isFile_failsOnly _).bind fun found => ?_
    split_ifs
    · exact .throw rfl
    · exact .pure _

/-- A run knows where its table would be: it is given, or the symbols suffix is a text. -/
def PlacesTable (b : Bundler) (table : Option String) : Prop :=
  (∃ t, table = some t ∧ t ≠ "") ∨ ∃ suffix, b.settings.bundle.symbolsSuffix = .text suffix

theorem findTable_failsOnly {b : Bundler} {table : Option String} (h : b.PlacesTable table) (src : Path) :
    (b.findTable src table).FailsOnly Told := by
  unfold findTable
  rcases h with ⟨t, rfl, hne⟩ | ⟨suffix, hsuffix⟩
  · have hgiven : (some t).filter (· != "") = some t := by simp [Option.filter, hne]
    rw [hgiven]
    exact .pure _
  · split
    · exact .pure _
    · rw [hsuffix]
      refine Action.FailsOnly.bind (.ofExcept fun _ h => by cases h) fun path => ?_
      refine (Action.FailsOnly.bind (probe_failsOnly path) fun _ => .pure _).bind fun found => ?_
      split_ifs <;> exact .pure _

/-! ### Paths of a run -/

theorem fileAt_of_requireSource {source : Option String} {src : Path} {w w' : World}
    (h : (requireSource source).runIn w = (.ok src, w')) : w.files.FileAt src.text := by
  unfold requireSource at h
  split at h
  · cases h
  · obtain ⟨_, w₁, hfile, hrest⟩ := Action.runIn_bind_eq_ok h
    cases hrest
    obtain ⟨isFile, w₂, hrun, hguard⟩ := Action.runIn_bind_eq_ok hfile
    obtain ⟨found, hfound, hat⟩ := isFile_runIn (Path.ofText _) w
    rw [hfound] at hrun
    cases hrun
    cases isFile with
    | false => cases hguard
    | true => exact hat rfl

/-- There is always a name for the bundle beside a source file. -/
theorem defaultOutputPath_of_fileAt {src : Path} {fs : FileSystem} (hplain : src.Plain) (h : fs.FileAt src.text) :
    ∃ out, defaultOutputPath src = .ok out := by
  have hname := hplain.isName_name (named_of_fileAt hplain h)
  have hbundled : Path.IsName (src.stem ++ "_bundled" ++ src.suffix) := by
    refine ⟨by simp, fun hpoint => ?_, ?_⟩
    · have hunderscore : '_' ∈ (src.stem ++ "_bundled" ++ src.suffix).toList := by simp
      rw [hpoint] at hunderscore
      exact absurd hunderscore (by decide)
    · simp only [String.toList_append, List.mem_append, not_or]
      exact ⟨⟨fun hmem => hname.no_slash (Path.mem_name_of_mem_splitName (.inl hmem)), by decide⟩,
        fun hmem => hname.no_slash (Path.mem_name_of_mem_splitName (.inr hmem))⟩
  rw [defaultOutputPath, Path.withName_of_isName hname.ne_empty hbundled]
  exact ⟨_, rfl⟩

theorem exists_hands {source : Option String} {src : Path} {w w' : World}
    (h : (requireSource source).runIn w = (.ok src, w')) (output : Option String) :
    ∃ out, Hands source output src out := by
  obtain ⟨s, hs, hne, rfl⟩ := requireSource_ok h
  obtain ⟨out, hout⟩ := defaultOutputPath_of_fileAt (Path.plain_ofText s) (fileAt_of_requireSource h)
  cases ho : output.filter (· != "") with
  | some o =>
    rw [Option.filter_eq_some_iff] at ho
    exact ⟨Path.ofText o, ⟨s, hs, hne, rfl⟩, .inl ⟨o, ho.1, by simpa using ho.2, rfl⟩⟩
  | none =>
    refine ⟨out, ⟨s, hs, hne, rfl⟩, .inr ⟨?_, hout⟩⟩
    cases output with
    | none => exact Or.inl rfl
    | some o => simpa [Option.filter] using ho

/-! ### Reading the table -/

/-- Reading a table in UTF-8 fails with a cause that is reported, unless the path is none that a file system takes. -/
theorem readTable_failsOnly {path : String} {encoding : Value} (hutf8 : Action.codecOf? encoding = some .utf8)
    (hnul : '\x00' ∉ (Path.ofText path).text.toList) : (readTable path encoding).FailsOnly Told := by
  have hrest : ∀ glyphs : List Glyph, (do
      let entries ← Action.ofExcept .table
        (parse (String.ofList ((universalNewlines (glyphs.filterMap Glyph.char?)).dropWhile (· = '\ufeff'))))
      Action.log .debug tableLogger
        ("Read " ++ numeral entries.length ++ " symbol entries from " ++ (Path.ofText path).text)
      return entries : Action (List Entry)).FailsOnly Told := by
    intro glyphs
    refine Action.FailsOnly.bind (.ofExcept fun fault _ => ?_) fun _ =>
      (Action.FailsOnly.log _ _ _).bind fun _ => .pure _
    rfl
  unfold readTable
  refine Action.FailsOnly.attempt_bind (Action.readText_utf8_failsOnly hutf8) (fun glyphs => ?_) fun failure hcause => ?_
  · exact (Action.FailsOnly.pure _).bind hrest
  · rcases hcause with ⟨fault, rfl, hfault⟩ | ⟨fault, rfl⟩
    · have hsystem : fault.isSystem = true := by
        cases fault with
        | embeddedNul => exact absurd (hfault rfl) hnul
        | _ => rfl
      simp only [hsystem, if_true]
      refine Action.FailsOnly.bind (.throw ?_) hrest
      rfl
    · refine Action.FailsOnly.bind (.throw ?_) hrest
      rfl

theorem readTable_nul {path : String} {encoding : Value} (hutf8 : Action.codecOf? encoding = some .utf8)
    (hnul : '\x00' ∈ (Path.ofText path).text.toList) (w : World) :
    ((readTable path encoding).runIn w).1 = .error (.file .embeddedNul) := by
  have hattempt : (Action.readText (Path.ofText path).text encoding false).attempt.runIn w =
      (.ok (.error (.file .embeddedNul)), w) := by
    have hrun := Action.readText_utf8_nul hutf8 hnul w
    exact congrArg (fun run : Except Failure (List Glyph) × World => (Except.ok run.1, run.2)) hrun
  rw [readTable, Action.runIn_bind_ok hattempt]
  rfl

/-- The rows of a table, none if it cannot be read. -/
def rowsAt (encoding : Value) (csv : String) (w : World) : List Entry :=
  match ((readTable csv encoding).runIn w).1 with
  | .ok rows => rows
  | .error _ => []

/-- A table gives no cause that a run does not report: its path is one that a file system takes, and the locations of
its rows can be read. -/
def Harmless (encoding : Value) (csv : String) (w : World) : Prop :=
  '\x00' ∉ (Path.ofText csv).text.toList ∧ ∀ row ∈ rowsAt encoding csv w, Locatable row.filenameLine

theorem plan_told_iff {b : Bundler} (hutf8 : Action.codecOf? b.settings.rename.encoding = some .utf8) (csv : String)
    (w : World) : (∀ failure, ((b.plan csv).runIn w).1 = .error failure → Told failure) ↔
      Harmless b.settings.rename.encoding csv w := by
  by_cases hnul : '\x00' ∈ (Path.ofText csv).text.toList
  · have hread := readTable_nul hutf8 hnul w
    have hplan : ((b.plan csv).runIn w).1 = .error (.file .embeddedNul) := by
      rw [plan, Action.runIn_bind, show (readTable csv b.settings.rename.encoding).runIn w = (_, _) from
        Prod.ext hread rfl]
    refine ⟨fun h => absurd (h _ hplan) (by decide), fun h => absurd hnul h.1⟩
  · simp only [Harmless, hnul, not_false_eq_true, true_and, rowsAt]
    have htold := readTable_failsOnly hutf8 hnul w
    rcases hread : (readTable csv b.settings.rename.encoding).runIn w with ⟨failure | rows, w₁⟩
    · rw [hread] at htold
      rw [plan, Action.runIn_bind, hread]
      refine ⟨fun _ => by simp, fun _ failure' hfailed => ?_⟩
      cases hfailed
      exact htold failure rfl
    · rw [plan, Action.runIn_bind_ok hread, Action.runIn_bind_ok (Action.runIn_log _ _ _ _), Action.runIn_bind,
        Action.runIn_ofExcept, ← groupByFile_returns_iff]
      cases groupByFile rows with
      | error fault =>
        refine ⟨fun h => absurd (h _ rfl) ?_, fun ⟨groups, hgroups⟩ => nomatch hgroups⟩
        exact Bool.false_ne_true
      | ok groups => exact ⟨fun _ => ⟨groups, rfl⟩, fun _ failure hfailed => nomatch hfailed⟩

/-! ### The run -/

/-- The work ends well or with a cause that is reported. -/
def EndsTold (run : (Except Failure Unit × BundleResult) × World) : Prop :=
  ∀ failure, run.1.1 = .error failure → Told failure

theorem concluded_returns_iff (run : (Except Failure Unit × BundleResult) × World) :
    (∃ result w', concluded run = (.ok result, w')) ↔ EndsTold run := by
  rcases run with ⟨⟨failure | ⟨⟩, result⟩, w⟩
  · by_cases htold : isReported failure = true
    · simp only [concluded, htold, if_true]
      refine ⟨fun _ failure' hfailed => ?_, fun _ => ⟨_, _, rfl⟩⟩
      cases hfailed
      exact htold
    · simp [concluded, EndsTold, htold]
  · simp [concluded, EndsTold]

theorem carryOut_dry_failsOnly (b : Bundler) (csv src out : Path) (p : Plan) (args : List String) :
    (b.carryOut csv p src out args true).FailsOnly Told := by
  have hmissing : ∀ name, (isMissing name).FailsOnly Told := fun name =>
    (Work.FailsOnly.lift (isFile_failsOnly _)).bind fun _ => .pure _
  refine (Work.FailsOnly.filterM hmissing _).bind fun missing => ?_
  have hnote : (Work.note fun r =>
      { r with metadata := Fields.put r.metadata (.text "planned") (plannedValue p) }).FailsOnly Told := .note _
  cases missing with
  | nil => exact hnote
  | cons first others =>
    refine Work.FailsOnly.bind (.lift (.throw ?_)) fun _ => hnote
    rfl

theorem bundleByTable_dry_told_iff {b : Bundler} (hutf8 : Action.codecOf? b.settings.rename.encoding = some .utf8)
    (csv src out : Path) (args : List String) (result : BundleResult) {w w₁ : World} (hfiles : w₁.files = w.files) :
    EndsTold ((b.bundleByTable csv src out args true).runIn result w₁) ↔
      Harmless b.settings.rename.encoding csv.text w := by
  obtain ⟨w₂, hw₂, hlog⟩ := Action.exists_runIn_log .info logger ("Reading symbols from " ++ csv.text ++ " ...") w₁
  have hresult := (plan_onlyReads b csv.text).result_eq (hw₂.trans hfiles)
  rw [← plan_told_iff hutf8, ← hresult, bundleByTable, Work.runIn_lift_bind, hlog]
  dsimp only
  rw [Work.runIn_lift_bind]
  rcases (b.plan csv.text).runIn w₂ with ⟨failure | p, w₃⟩
  · exact ⟨fun h failure' hfailed => h failure' (congrArg Except.error (Except.error.inj hfailed)),
      fun h failure' hfailed => h failure' (congrArg Except.error (Except.error.inj hfailed))⟩
  · constructor
    · intro _ failure hfailed
      cases hfailed
    · intro _
      dsimp only
      rw [Work.runIn_note_bind]
      exact carryOut_dry_failsOnly b csv src out p args _ _

/-- A table that a run finds gives no cause that it does not report. -/
def TableHarmless (b : Bundler) (source table : Option String) (w : World) : Prop :=
  ∀ csv, ((b.tableOf source table).runIn w).1 = .ok (some csv) → Harmless b.settings.rename.encoding csv.text w

theorem bundleWork_dry_told_iff {b : Bundler} (hutf8 : Action.codecOf? b.settings.rename.encoding = some .utf8)
    (source : Option String) {table : Option String} (hplaces : b.PlacesTable table) (output : Option String)
    (args : List String) (result : BundleResult) (w : World) :
    EndsTold ((b.bundleWork source table output args true).runIn result w) ↔ b.TableHarmless source table w := by
  unfold TableHarmless tableOf
  rcases hs : (requireSource source).runIn w with ⟨failure | src, w₁⟩
  · rw [bundleWork, Work.runIn_lift_bind, Action.runIn_bind, hs]
    constructor
    · intro _ csv hfound
      cases hfound
    · intro _ failure' hfailed
      cases hfailed
      exact requireSource_failsOnly source w failure (by rw [hs])
  · have hw₁ : w₁.files = w.files := by simpa [hs] using (requireSource_onlyReads source).files_eq w
    obtain ⟨out, hhands⟩ := exists_hands hs output
    have hread := findTable_onlyReads b src table
    have hw₂ := (hread.files_eq w₁).trans hw₁
    rw [bundleWork_of_hands hs hhands, Action.runIn_bind_ok hs]
    change EndsTold (((liftM (b.findTable src table) : Work (Option Path)) >>= _).runIn _ w₁) ↔ _
    rw [Work.runIn_lift_bind]
    rcases hfound : (b.findTable src table).runIn w₁ with ⟨failure | _ | csv, w₂⟩
    · constructor
      · intro _ csv hsome
        cases hsome
      · intro _ failure' hfailed
        cases hfailed
        exact findTable_failsOnly hplaces src w₁ failure (by rw [hfound])
    · constructor
      · intro _ csv hsome
        cases hsome
      · intro _ failure hfailed
        cases hfailed
    · rw [hfound] at hw₂
      rw [show EndsTold _ ↔ _ from bundleByTable_dry_told_iff hutf8 csv src out args _ hw₂]
      simp

/-- Nothing is counted as an error before the run ends. -/
def Unsettled (result : BundleResult) : Prop :=
  result.success = false ∧ result.errors = []

theorem unsettled_robust : Robust Unsettled :=
  ⟨fun _ _ _ h => h, fun _ h => h, fun _ h => h⟩

/-- A run that returns tells of success without an error, or of failure with one. -/
theorem bundle_settled {b : Bundler} {source table output : Option String} {args : List String} {dryRun : Bool}
    {result : BundleResult} {w w' : World}
    (h : (b.bundle source table output args dryRun).runIn w = (.ok result, w')) :
    result.success = true ∧ result.errors = [] ∨ result.success = false ∧ ∃ message, result.errors = [message] := by
  have hkeeps : (b.bundleWork source table output args dryRun).KeepsResult Unsettled :=
    bundleWork_keepsResult unsettled_robust (fun _ h => h) b source table output args dryRun
  have hunsettled := hkeeps (freshResult dryRun) w ⟨rfl, rfl⟩
  rw [bundle_runIn] at h
  rcases hrun : (b.bundleWork source table output args dryRun).runIn (freshResult dryRun) w with
    ⟨⟨failure | ⟨⟩, result₀⟩, w₀⟩
  all_goals
    rw [hrun] at h hunsettled
    obtain ⟨hsuccess, herrors⟩ : Unsettled result₀ := hunsettled
  · simp only [concluded] at h
    split_ifs at h
    · cases h
      exact .inr ⟨hsuccess, failure.message, by simp [herrors]⟩
    · cases h
  · cases h
    exact .inl ⟨rfl, herrors⟩

/-- Which tables a dry run in UTF-8 answers with a result, and what the answer is like. A location is read, and entries
are grouped, exactly if every number of a location is a numeral; a dry run returns exactly if this holds of its table. -/
theorem table_faults_told (location : String) (entries : List Entry) {b : Bundler} {table : Option String}
    (hutf8 : Action.codecOf? b.settings.rename.encoding = some .utf8) (hplaces : b.PlacesTable table)
    (source output : Option String) (args : List String) (w : World) :
    ((∃ read, Location.parse location = .ok read) ↔ Locatable location) ∧
      ((∃ groups, groupByFile entries = .ok groups) ↔ ∀ e ∈ entries, Locatable e.filenameLine) ∧
      ((∃ result w', (b.bundle source table output args true).runIn w = (.ok result, w')) ↔
        b.TableHarmless source table w) ∧
      ∀ result w', (b.bundle source table output args true).runIn w = (.ok result, w') →
        result.success = true ∧ result.errors = [] ∨
          result.success = false ∧ ∃ message, result.errors = [message] := by
  refine ⟨parse_returns_iff location, groupByFile_returns_iff entries, ?_, fun result w' hrun => bundle_settled hrun⟩
  rw [bundle_runIn, concluded_returns_iff, bundleWork_dry_told_iff hutf8 source hplaces]

/-- A row with a digit of another script, one with nothing before its colon, and one with no number at all. -/
theorem table_faults_told_odd_locations :
    let b := smallBundler .always fun _ _ _ => pure ()
    let w := smallWorld [(["a.c"], textFile "f"), (["t.csv"], tableFile "a.c:٣,f,g\n:²,f,g\nb.c:1²x,f,g\n")]
    b.TableHarmless (some "a.c") (some "t.csv") w ∧
      ∃ result w', (b.bundle (some "a.c") (some "t.csv") none [] true).runIn w = (.ok result, w') ∧
        result.success = false ∧ ∃ message, result.errors = [message] := by
  intro b w
  have hutf8 : Action.codecOf? b.settings.rename.encoding = some .utf8 := by decide +kernel
  have hplaces : b.PlacesTable (some "t.csv") := .inl ⟨"t.csv", rfl, by decide⟩
  have hnul : '\x00' ∉ (Path.ofText (Path.ofText "t.csv").text).text.toList := by decide +kernel
  obtain ⟨htable, hrows, hsuccess⟩ :
      ((b.tableOf (some "a.c") (some "t.csv")).runIn w).1.toOption = some (some (Path.ofText "t.csv")) ∧
      (∀ row ∈ rowsAt b.settings.rename.encoding (Path.ofText "t.csv").text w,
        ∃ read, Location.parse row.filenameLine = .ok read) ∧
      ((b.bundle (some "a.c") (some "t.csv") none [] true).runIn w).1.toOption.map BundleResult.success =
        some false := by
    decide +kernel
  clear_value w b
  have hharmless : b.TableHarmless (some "a.c") (some "t.csv") w := by
    intro csv hcsv
    rw [hcsv] at htable
    obtain rfl : csv = Path.ofText "t.csv" := Option.some.inj (Option.some.inj htable)
    exact ⟨hnul, fun row hrow => (parse_returns_iff _).mp (hrows row hrow)⟩
  obtain ⟨-, -, hreturns, hsettled⟩ :=
    table_faults_told "a.c:٣" [⟨"a.c:٣", "f", some "g"⟩] hutf8 hplaces (some "a.c") none [] w
  obtain ⟨result, w', hrun⟩ := hreturns.mpr hharmless
  rw [hrun] at hsuccess
  have hfailed : result.success = false := Option.some.inj hsuccess
  refine ⟨hharmless, result, w', hrun, hfailed, ?_⟩
  rcases hsettled result w' hrun with ⟨hdone, -⟩ | ⟨-, hone⟩
  · rw [hfailed] at hdone
    cases hdone
  · exact hone

/-- A superscript is a digit that no numeral is made of, and a location with it ends a dry run without a result. -/
theorem dry_run_without_result :
    let b := smallBundler .always fun _ _ _ => pure ()
    let w := smallWorld [(["a.c"], textFile "f"), (["t.csv"], tableFile "a.c:²,f,g\n")]
    Action.codecOf? b.settings.rename.encoding = some .utf8 ∧
      (¬ ∃ result w', (b.bundle (some "a.c") (some "t.csv") none [] true).runIn w = (.ok result, w')) ∧
      ¬ ∃ read, Location.parse "a.c:²" = .ok read := by
  intro b w
  have hends : ¬ ∃ result, ((b.bundle (some "a.c") (some "t.csv") none [] true).runIn w).1 = .ok result := by
    decide +kernel
  refine ⟨by decide +kernel, ?_, by decide +kernel⟩
  rintro ⟨result, w', hrun⟩
  exact hends ⟨result, by rw [hrun]⟩

end Bundler

end Amalgam
