import Amalgam.Proofs.Backup.Frame
import Amalgam.Proofs.Bundle.Stages
import Amalgam.Proofs.Config.Sources
import Amalgam.Proofs.World.Printing
/-!
# Nothing below the command line prints

Loading the configuration, the two workflows and the collaborators that are built from the configuration only log and
ask things of the host. So whatever a run prints, its commands have printed.
-/

namespace Amalgam

open Amalgam.Text Amalgam.Symbols Amalgam.Config

/-! ### Collaborators -/

theorem Tool.find_silent (tool : Value) : (Tool.find tool).Silent := by
  unfold Tool.find
  split
  · exact .pure _
  · split
    · refine Action.Silent.get.bind fun w => (Action.Silent.ofExcept _ _).bind fun candidate => ?_
      refine (Action.Silent.isFile _).bind fun found => ?_
      split <;> exact .pure _
    · exact .throw _
    · exact .throw _

theorem Tool.run_silent (argv : List String) (timeout : Value) : (Tool.run argv timeout).Silent := by
  refine (Action.Silent.log _ _ _).bind fun _ => (Action.Silent.record rfl).bind fun _ => ?_
  refine Action.Silent.of_journal_eq fun w => ?_
  rw [Action.runIn_bind_ok (rfl : (get : Action World).runIn w = (.ok w, w))]
  rcases w.host.run w.runs argv timeout w.files with ⟨files, _ | _ | _⟩ <;> rfl

theorem requireFile_silent (path : Path) : (requireFile path).Silent := by
  refine (Action.Silent.isFile path).bind fun found => ?_
  split
  · exact .throw _
  · exact .pure _

theorem openIndex_silent (libraryPath : Value) : (openIndex libraryPath).Silent := by
  refine Action.Silent.get.bind fun w => ?_
  split
  · exact .pure _
  · extract_lets rest
    have hrest : ∀ u, (rest u).Silent := by
      intro u
      refine (Action.Silent.record rfl).bind fun _ => ?_
      split
      · exact .throw _
      · exact .of_journal_eq fun _ => rfl
    split
    · exact (Action.Silent.record rfl).bind hrest
    · exact hrest ()

theorem libraryAvailable_silent (libraryPath : Value) : (libraryAvailable libraryPath).Silent := by
  refine (openIndex_silent libraryPath).attempt.bind fun ended => ?_
  split
  · exact .pure _
  · split
    · exact (Action.Silent.log _ _ _).bind fun _ => .pure _
    · exact .throw _

theorem libraryList_silent (libraryPath : Value) (source : Path) (args : List String) :
    (libraryList libraryPath source args).Silent := by
  refine (requireFile_silent source).bind fun _ => (openIndex_silent libraryPath).bind fun _ => ?_
  refine (Action.Silent.record rfl).bind fun _ => Action.Silent.get.bind fun w => ?_
  dsimp only
  split
  · exact .throw _
  · exact (Action.Silent.log _ _ _).bind fun _ => .pure _

theorem executableList_silent (executable timeout : Value) (source : Path) (args : List String) :
    (executableList executable timeout source args).Silent := by
  refine (requireFile_silent source).bind fun _ => (Tool.find_silent executable).bind fun exe => ?_
  split
  · exact .throw _
  · refine (Tool.run_silent _ timeout).attempt.bind fun ended => ?_
    split
    · exact .throw _
    · split
      · exact (Action.Silent.throw _).bind fun _ => .ofExcept _ _
      · exact .ofExcept _ _

theorem Merger.runTool_silent (command timeout : Value) (source output : Path) (args : List String) :
    (Merger.runTool command timeout source output args).Silent := by
  refine (Tool.find_silent command).bind fun exe => ?_
  split
  · exact .throw _
  · refine (Action.Silent.log _ _ _).bind fun _ => (Tool.run_silent _ timeout).attempt.bind fun ended => ?_
    split
    · exact .throw _
    · exact .throw _
    · dsimp only
      split_ifs
      · exact (Action.Silent.log _ _ _).bind fun _ => .throw _
      · exact (Action.Silent.log _ _ _).bind fun _ => .pure _
      · exact .throw _
      · exact .pure _

/-- The collaborators print nothing. -/
structure Bundler.Silent (b : Bundler) : Prop where
  available : ∀ action ∈ b.source.isAvailable, action.Silent
  list : ∀ source args, (b.source.list source args).Silent
  mergerAvailable : b.merger.isAvailable.Silent
  merge : ∀ source output args, (b.merger.merge source output args).Silent

theorem isAvailable_silent (tool : Value) : (return (← Tool.find tool).isSome : Action Bool).Silent :=
  (Tool.find_silent tool).bind fun _ => .pure _

/-- The collaborators that a configuration asks for are silent. -/
theorem silent_of_settings (s : Settings) : Bundler.Silent ⟨s, sourceOf s.tools, mergerOf s⟩ := by
  have hmerger := isAvailable_silent s.tools.amalgamateCommand
  unfold sourceOf
  split
  · refine ⟨?_, executableList_silent _ _, hmerger, Merger.runTool_silent _ _⟩
    rintro _ ⟨⟩
    exact isAvailable_silent _
  · refine ⟨?_, libraryList_silent _, hmerger, Merger.runTool_silent _ _⟩
    rintro _ ⟨⟩
    exact libraryAvailable_silent _

/-! ### Configuration -/

namespace Config

theorem fileFields_silent (path : String) : (fileFields path).Silent := by
  refine Action.Silent.of_journal_eq fun w => ?_
  rw [runIn_fileFields]

theorem fileData_silent (path : Option String) : (fileData path).Silent := by
  unfold fileData
  split
  · exact fileFields_silent _
  · refine (Action.Silent.get.bind fun w => .pure _).bind fun found => ?_
    split
    · exact (fileFields_silent _).bind fun data => (Action.Silent.log _ _ _).bind fun _ => .pure _
    · exact .pure _

theorem readSetting_silent (variableName key : String) (read? : String → Option Value) :
    (readSetting variableName key read?).Silent := by
  refine (Action.Silent.get.bind fun w => .pure _).bind fun found => ?_
  split
  · exact .pure _
  · split
    · exact .pure _
    · exact (Action.Silent.log _ _ _).bind fun _ => .pure _

theorem plainSetting_silent (variableName key : String) : (plainSetting variableName key).Silent := by
  refine (Action.Silent.get.bind fun w => .pure _).bind fun found => ?_
  split <;> exact .pure _

theorem fromEnvironment_silent : fromEnvironment.Silent :=
  (plainSetting_silent _ _).bind fun _ => (plainSetting_silent _ _).bind fun _ => (plainSetting_silent _ _).bind fun _ =>
    (readSetting_silent _ _ _).bind fun _ => (plainSetting_silent _ _).bind fun _ => (plainSetting_silent _ _).bind
      fun _ => (readSetting_silent _ _ _).bind fun _ => (readSetting_silent _ _ _).bind fun _ =>
        (readSetting_silent _ _ _).bind fun _ => .pure _

theorem load_silent (path : Option String) (useEnvironment checked : Bool) :
    (load path useEnvironment checked).Silent := by
  refine (fileData_silent path).bind fun file => ?_
  dsimp only
  split_ifs
  · exact fromEnvironment_silent.bind fun _ => (Action.Silent.pure _).bind fun _ => (Action.Silent.ofExcept _ _).bind
      fun _ => .ofExcept _ _
  · exact fromEnvironment_silent.bind fun _ => (Action.Silent.pure _).bind fun _ => .ofExcept _ _
  · exact (Action.Silent.pure _).bind fun _ => (Action.Silent.ofExcept _ _).bind fun _ => .ofExcept _ _
  · exact (Action.Silent.pure _).bind fun _ => .ofExcept _ _

end Config

/-! ### Backups -/

namespace Backup

theorem tryCopy_silent (source target : Path) : (tryCopy source target).Silent := by
  refine Action.Silent.files.bind fun fs => ?_
  split
  · exact (Action.Silent.setFiles _).bind fun _ => .pure _
  · split
    · exact .pure _
    · exact .throw _

theorem tryRemove_silent (path : Path) : (tryRemove path).Silent := by
  refine Action.Silent.files.bind fun fs => ?_
  split
  · exact (Action.Silent.setFiles _).bind fun _ => .pure _
  · split
    · exact .pure _
    · exact .throw _

theorem discard_silent (suffix : Value) (paths : List Path) : (discard suffix paths).Silent := by
  refine Action.Silent.forM (fun p => ?_) paths
  refine (Action.Silent.ofExcept _ _).bind fun s => (tryRemove_silent s).bind fun fault => ?_
  split
  · exact .pure _
  · exact .pure _
  · exact .log _ _ _

theorem backUpFrom_silent (suffix : Value) (done rest : List Path) : (backUpFrom suffix done rest).Silent := by
  induction rest generalizing done with
  | nil => exact .pure _
  | cons p rest ih =>
    rw [backUpFrom]
    refine (Action.Silent.ofExcept _ _).bind fun s => (tryCopy_silent p s).bind fun fault => ?_
    split
    · exact (discard_silent suffix done).bind fun _ => .throw _
    · exact (Action.Silent.log _ _ _).bind fun _ => ih _

theorem noteOne_silent (summary : Summary) (p : Path) (fault : Option FileFault) :
    (noteOne summary p fault).Silent := by
  cases fault with
  | some fault => exact (Action.Silent.log _ _ _).bind fun _ => .pure _
  | none => exact (Action.Silent.log _ _ _).bind fun _ => .pure _

theorem restoreOne_silent (suffix : Value) (summary : Summary) (p : Path) : (restoreOne suffix summary p).Silent := by
  refine (Action.Silent.ofExcept _ _).bind fun s => (Action.Silent.leadsSomewhere s).bind fun found => ?_
  split
  · exact (Action.Silent.log _ _ _).bind fun _ => .pure _
  · refine (tryCopy_silent s p).bind fun fault => ?_
    split
    · exact (Action.Silent.pure _).bind (noteOne_silent summary p)
    · exact (tryRemove_silent s).bind (noteOne_silent summary p)

theorem restoreAll_silent (suffix : Value) (paths : List Path) : (restoreAll suffix paths).Silent := by
  refine (Action.Silent.log _ _ _).bind fun _ => ?_
  refine (Action.Silent.foldlM (restoreOne_silent suffix) paths _).bind fun summary => ?_
  split
  · exact .throw _
  · exact .pure _

theorem endSession_silent (suffix : Value) (paths : List Path) (restoreOnFailure bodyFailed : Bool) :
    (endSession suffix paths restoreOnFailure bodyFailed).Silent := by
  unfold endSession
  split
  · exact .log _ _ _
  · exact restoreAll_silent suffix paths

theorem session_silent {suffix : Value} {paths : List Path} {restoreOnFailure : Bool} {body : Summary → Work Unit}
    (hbody : ∀ summary, (body summary).Silent) : (session suffix paths restoreOnFailure body : Work Unit).Silent := by
  intro result w
  have hbackUp := backUpFrom_silent suffix [] paths w
  rw [session_runIn, backUp]
  rcases hrun : (backUpFrom suffix [] paths).runIn w with ⟨failure | summary, w₁⟩
  all_goals rw [hrun] at hbackUp
  · exact hbackUp
  · have hended := hbackUp.trans (hbody summary result w₁)
    exact hended.trans (endSession_silent suffix paths restoreOnFailure _ _)

end Backup

/-! ### Workflows -/

theorem readTable_silent (path : String) (encoding : Value) : (readTable path encoding).Silent := by
  refine (Action.Silent.readText _ _ _).attempt.bind fun text => ?_
  extract_lets rest
  have hrest : ∀ glyphs, (rest glyphs).Silent := fun _ =>
    (Action.Silent.ofExcept _ _).bind fun _ => (Action.Silent.log _ _ _).bind fun _ => .pure _
  split
  · exact (Action.Silent.pure _).bind hrest
  · exact (Action.Silent.throw _).bind hrest
  · exact (Action.Silent.throw _).bind hrest

theorem renameFile_silent (settings : RenameSettings) (path : String) (entries : List Entry) :
    (Rename.renameFile settings path entries).Silent := by
  unfold Rename.renameFile
  dsimp only
  split_ifs
  · exact .pure _
  · refine (Action.Silent.readText _ _ _).bind fun text => (Action.Silent.forM (fun r => .record rfl) _).bind fun _ => ?_
    exact (Action.Silent.ofExcept _ _).bind fun eol => (Action.Silent.writeText _ _ _).bind fun _ => .pure _

namespace Bundler

theorem requireSource_silent (source : Option String) : (requireSource source).Silent := by
  unfold requireSource
  split
  · exact .throw _
  · exact (requireFile_silent _).bind fun _ => .pure _

variable {b : Bundler}

theorem Silent.missingTools (h : b.Silent) (command : Command) : (b.missingTools command).Silent := by
  cases command with
  | listSymbols =>
    unfold Bundler.missingTools
    dsimp only
    split
    · exact .pure _
    · next available hsome =>
      refine (h.available available hsome).bind fun found => ?_
      split <;> exact .pure _
  | bundle =>
    refine h.mergerAvailable.bind fun found => ?_
    split <;> exact .pure _

theorem Silent.requireTools (h : b.Silent) (command : Command) : (b.requireTools command).Silent := by
  refine (h.missingTools command).bind fun missing => ?_
  split
  · exact .pure _
  · exact .throw _

theorem Silent.listInto (h : b.Silent) (source table : Option String) (args : List String) :
    (b.listInto source table args).Silent := by
  refine (requireSource_silent source).bind fun path => (h.requireTools .listSymbols).bind fun _ => ?_
  extract_lets rest
  have hrest : ∀ csv, (rest csv).Silent := fun _ =>
    (Action.Silent.log _ _ _).bind fun _ => (h.list path args).bind fun _ => (Action.Silent.ofExcept _ _).bind fun _ =>
      (Action.Silent.writeText _ _ _).bind fun _ => (Action.Silent.log _ _ _).bind fun _ =>
        (Action.Silent.ofExcept _ _).bind fun _ => .pure _
  split
  · exact (Action.Silent.pure _).bind hrest
  · exact (Action.Silent.ofExcept _ _).bind hrest

theorem Silent.listSymbols (h : b.Silent) (source table : Option String) (args : List String) :
    (b.listSymbols source table args).Silent := by
  refine (h.listInto source table args).attempt.bind fun ended => ?_
  split
  · exact .pure _
  · split
    · exact (Action.Silent.log _ _ _).bind fun _ => .pure _
    · exact .throw _

theorem plan_silent (b : Bundler) (table : String) : (b.plan table).Silent :=
  (readTable_silent _ _).bind fun _ => (Action.Silent.log _ _ _).bind fun _ =>
    (Action.Silent.ofExcept _ _).bind fun _ => .pure _

theorem findTable_silent (b : Bundler) (source : Path) (table : Option String) : (b.findTable source table).Silent := by
  unfold findTable
  split
  · exact .pure _
  · refine (Action.Silent.ofExcept _ _).bind fun path => (Action.Silent.leadsSomewhere _).bind fun found => ?_
    split <;> exact .pure _

theorem Silent.renameAndMerge (h : b.Silent) (p : Plan) (src out : Path) (args : List String) :
    (b.renameAndMerge p src out args).Silent := by
  refine (Work.Silent.forM (fun group => ?_) p).bind fun _ => .lift (h.merge src out args)
  exact (Work.Silent.lift (.log _ _ _)).bind fun _ => (Work.Silent.lift (renameFile_silent _ _ _)).bind fun _ => .note _

theorem Silent.runSession (h : b.Silent) (p : Plan) (src out : Path) (args : List String) :
    (b.runSession p src out args).Silent := by
  refine (Work.Silent.lift (.log _ _ _)).bind fun _ => ?_
  refine Work.Silent.bind (.tryCatch ?_ fun failure => ?_) fun _ => .note _
  · exact Backup.session_silent fun _ => h.renameAndMerge p src out args
  · dsimp only
    split_ifs
    · exact (Work.Silent.note _).bind fun _ => .throw failure
    · exact .throw failure

theorem Silent.bundlePlain (h : b.Silent) (src out : Path) (args : List String) (dryRun : Bool) :
    (b.bundlePlain src out args dryRun).Silent := by
  unfold Bundler.bundlePlain
  split_ifs
  · exact .note _
  · exact (Work.Silent.lift (h.merge src out args)).bind fun _ => .lift (.log _ _ _)

theorem Silent.bundleByTable (h : b.Silent) (csv src out : Path) (args : List String) (dryRun : Bool) :
    (b.bundleByTable csv src out args dryRun).Silent := by
  refine (Work.Silent.lift (.log _ _ _)).bind fun _ => (Work.Silent.lift (plan_silent b csv.text)).bind fun p => ?_
  refine (Work.Silent.note _).bind fun _ => Work.Silent.bind (fun result w => ?_) fun missing => ?_
  · obtain ⟨found, hrun, _⟩ := filterM_isMissing (p.map Prod.fst) result w
    have hsame := congrArg (fun run : (Except Failure (List String) × BundleResult) × World => run.2) hrun
    exact .of_journal_eq (congrArg World.journal hsame)
  · have hlog : (liftM (Action.log .info logger ("Bundled source written to " ++ out.text)) : Work Unit).Silent :=
      .lift (.log _ _ _)
    dsimp only
    split_ifs
    · exact (Work.Silent.throw _).bind fun _ => .note _
    · exact (Work.Silent.throw _).bind fun _ => (h.runSession p src out args).bind fun _ => hlog
    · exact .note _
    · exact (h.runSession p src out args).bind fun _ => hlog

theorem Silent.proceed (h : b.Silent) (src out : Path) (table : Option String) (args : List String) (dryRun : Bool) :
    (b.proceed src out table args dryRun).Silent := by
  unfold Bundler.proceed
  extract_lets rest
  have hrest : ∀ u, (rest u).Silent := by
    intro u
    refine (Work.Silent.lift (findTable_silent b src table)).bind fun found => ?_
    split
    · exact h.bundlePlain src out args dryRun
    · exact h.bundleByTable _ src out args dryRun
  split_ifs
  · exact (Work.Silent.lift (h.requireTools .bundle)).bind hrest
  · exact hrest ()

theorem Silent.bundleWork (h : b.Silent) (source table output : Option String) (args : List String) (dryRun : Bool) :
    (b.bundleWork source table output args dryRun).Silent := by
  refine (Work.Silent.lift (requireSource_silent source)).bind fun src => ?_
  extract_lets rest
  have hrest : ∀ out, (rest out).Silent := fun out =>
    (Work.Silent.note _).bind fun _ => h.proceed src out table args dryRun
  split
  · exact hrest _
  · exact (Work.Silent.lift (.ofExcept _ _)).bind hrest

theorem Silent.bundle (h : b.Silent) (source table output : Option String) (args : List String) (dryRun : Bool) :
    (b.bundle source table output args dryRun).Silent := by
  intro w
  have hwork := h.bundleWork source table output args dryRun (freshResult dryRun) w
  rw [bundle_runIn]
  rcases hrun : (b.bundleWork source table output args dryRun).runIn (freshResult dryRun) w with
    ⟨⟨failure | ⟨⟩, result⟩, w'⟩
  all_goals rw [hrun] at hwork
  · unfold concluded
    dsimp only
    split
    · exact hwork.trans (.of_event (.logged ⟨.error, logger, "bundle failed: " ++ failure.message⟩) rfl)
    · exact hwork
  · exact hwork

end Bundler

end Amalgam
