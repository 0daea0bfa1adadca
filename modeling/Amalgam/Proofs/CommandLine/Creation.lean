import Amalgam.Proofs.CommandLine.Commands
import Amalgam.Proofs.CommandLine.ExitStatus
import Amalgam.Proofs.CommandLine.Separator
import Amalgam.Proofs.Config.Formats
/-!
# Creating a configuration file and validating it

Both commands name the file, and nothing else passes from the one to the other but what is on the disk. A path that is
read by the first is read by the second, so what the second says of the file is what loading it gives, and that depends
on whether the name of the file fits the format in which it was created.
-/

namespace Amalgam.CommandLine

open Amalgam.Config Amalgam.Console Amalgam.Text

/-! ### The two command lines -/

def initArguments (path format : String) : List String :=
  ["config", "init", "--path", path, "--format", format]

def validateArguments (path : String) : List String :=
  ["config", "validate", path]

/-- A task without global options. -/
def plainInvocation (task : Task) : Invocation :=
  ⟨none, false, false, false, task⟩

theorem takes_config : TakesCommand globalGrammar
    { name := "command", arity := .command, choices := ["list-symbols", "bundle", "status", "config"],
      store := fun args o => { o with command := args } } "config" where
  only := rfl
  arity := rfl
  known := by decide
  plain := rfl

theorem takes_action {name : String} (h : name = "init" ∨ name = "validate") : TakesCommand configGrammar
    { name := "config_action", arity := .command, choices := ["show", "init", "validate"], store := fun args _ => args }
    name where
  only := rfl
  arity := rfl
  known := by rcases h with rfl | rfl <;> decide
  plain := by rcases h with rfl | rfl <;> rfl

section Reading

variable {path format : String}

/-- The options by which a file is created. -/
def pathOption : OptionSpec InitOptions :=
  ⟨["--path"], .value [] fun v o => { o with path := v }⟩

def formatOption : OptionSpec InitOptions :=
  ⟨["--format"], .value formats fun v o => { o with format := v }⟩

theorem pathOption_effect : pathOption.effect = .value [] fun v o => { o with path := v } := rfl

theorem formatOption_effect : formatOption.effect = .value formats fun v o => { o with format := v } := rfl

theorem classify_path : classify initGrammar "--path" = .ok (.option pathOption "--path" none) := rfl

theorem classify_format : classify initGrammar "--format" = .ok (.option formatOption "--format" none) := rfl

theorem classify_of_formats (h : format ∈ formats) : classify initGrammar format = .ok .plain := by
  rcases mem_formats.mp h with rfl | rfl <;> rfl

/-- Creating a file takes any path that is not an option or looks like one. -/
theorem initGrammar_settles (hformat : format ∈ formats) :
    Settles (initGrammar.read {} ["--path", path, "--format", format]) fun r =>
      r = (⟨path, format⟩, []) ∧ classify initGrammar path = .ok .plain := by
  rw [read_eq]
  cases hpath : classify initGrammar path with
  | error complaint =>
    refine (tokens_settle initGrammar _).bind fun tokens hclasses => ?_
    obtain ⟨_, hc⟩ := hclasses path (by simp)
    rw [hpath] at hc
    cases hc
  | ok c =>
    have htokens : ["--path", path, "--format", format].mapM initGrammar.token = .ok [
        ⟨"--path", .option pathOption "--path" none⟩, ⟨path, c⟩,
        ⟨"--format", .option formatOption "--format" none⟩, ⟨format, .plain⟩] := by
      simp only [List.mapM_cons, Grammar.token, classify_path, classify_format, hpath, classify_of_formats hformat]
      rfl
    rw [htokens, Except.ok_bind, walk_value pathOption_effect]
    cases c with
    | plain =>
      have hchoice : formats.contains format = true := List.contains_iff_mem.mpr hformat
      have hpathTaken : applyOption initGrammar {} (pathOption, some path) = .ok { path := path } := rfl
      have hformatTaken : applyOption initGrammar { path := path } (formatOption, some format) = .ok ⟨path, format⟩ := by
        simp only [applyOption, formatOption_effect, hchoice, Bool.or_true, if_true]
      simp only [Token.isPlain, if_true, hpathTaken, Except.ok_bind, walk_value formatOption_effect, hformatTaken]
      rw [show initGrammar.positionals = [] from rfl, walk_nil]
      exact ⟨rfl, trivial⟩
    | option spec name attached => exact Settles.refused initGrammar _
    | unknown => exact Settles.refused initGrammar _

/-- Validation has no options of its own. -/
theorem covers_validate : Covers initGrammar validateGrammar where
  names := by decide
  abbreviates := fun _ => rfl

theorem read_validate (h : classify initGrammar path = .ok .plain) : validateGrammar.read "" [path] = .ok (path, []) := by
  have htokens : [path].mapM validateGrammar.token = .ok [⟨path, .plain⟩] := by
    simp only [List.mapM_cons, Grammar.token, covers_validate.plain h]
    rfl
  have hplace : place validateGrammar [⟨path, .plain⟩] { state := "", left := validateGrammar.positionals } =
      .ok ({ state := path, left := [] }, 1) := rfl
  have hwalk : walk validateGrammar [⟨path, .plain⟩] { state := "", left := validateGrammar.positionals } =
      .ok { state := path, left := [] } := by
    rw [walk, hplace]
    exact walk_nil validateGrammar path []
  exact read_of_walk htokens hwalk rfl

/-- Validation is read from a path that the grammars of the whole line class, and that creating a file takes. -/
theorem validateArguments_read (hdashes : path ≠ "--") (hglobal : ∃ c, classify globalGrammar path = .ok c)
    (hconfig : ∃ c, classify configGrammar path = .ok c) (hplain : classify initGrammar path = .ok .plain) :
    Invocation.ofArguments (validateArguments path) = .ok (plainInvocation (.validateConfig path)) := by
  have htyped : "--" ∉ validateArguments path := by simp [validateArguments, hdashes.symm]
  have hoptions : globalGrammar.read {} (validateArguments path) = .ok ({ command := validateArguments path }, []) :=
    takes_config.read fun s hs => by
      rcases List.mem_cons.mp hs with rfl | hs
      · exact ⟨.plain, rfl⟩
      · obtain rfl := List.mem_singleton.mp hs
        exact hglobal
  have haction : configGrammar.read [] ["validate", path] = .ok (["validate", path], []) :=
    (takes_action (.inr rfl)).read fun s hs => by
      obtain rfl := List.mem_singleton.mp hs
      exact hconfig
  have htask : configTask ["validate", path] [] [] = .ok (.validateConfig path) := by
    rw [configTask, haction, Except.ok_bind]
    change (validateGrammar.read "" [path] >>= fun r => closed (.validateConfig r.1) (r.2 ++ [])) = _
    rw [read_validate hplain]
    rfl
  rw [Invocation.ofArguments, splitForwarded_plain htyped]
  dsimp only
  rw [hoptions, Except.ok_bind]
  change (configTask ["validate", path] [] [] >>= fun task => .ok (plainInvocation task)) = _
  rw [htask]
  rfl

theorem configTask_settles (hformat : format ∈ formats) (hdashes : path ≠ "--")
    (hglobal : ∃ c, classify globalGrammar path = .ok c) :
    Settles (configTask ["init", "--path", path, "--format", format] [] []) fun task =>
      task = .initConfig ⟨path, format⟩ ∧
        Invocation.ofArguments (validateArguments path) = .ok (plainInvocation (.validateConfig path)) := by
  refine ((takes_action (.inl rfl)).settles [] _).bind ?_
  rintro _ ⟨rfl, hconfig⟩
  refine (initGrammar_settles hformat).bind ?_
  rintro _ ⟨rfl, hplain⟩
  exact ⟨rfl, validateArguments_read hdashes hglobal (hconfig path (by simp)) hplain⟩

/-- If the line that creates a file is read, it asks for that, and the line that validates the file is read as well. -/
theorem initArguments_settle (hformat : format ∈ formats) :
    Settles (Invocation.ofArguments (initArguments path format)) fun i =>
      i = plainInvocation (.initConfig ⟨path, format⟩) ∧
        Invocation.ofArguments (validateArguments path) = .ok (plainInvocation (.validateConfig path)) := by
  by_cases hdashes : path = "--"
  · subst hdashes
    -- what is typed ends before the separator, so the path is missing
    have hread : Invocation.ofArguments (initArguments "--" format) =
        .error (initGrammar.refuse (.expectedOne "--path")) := by
      rcases mem_formats.mp hformat with rfl | rfl <;> decide +kernel
    rw [hread]
    exact .refused initGrammar _
  · have hoffered : "--" ≠ format := by
      rintro rfl
      exact absurd hformat (by decide)
    have htyped : "--" ∉ initArguments path format := by
      simp [initArguments, Ne.symm hdashes, hoffered]
    rw [Invocation.ofArguments, splitForwarded_plain htyped]
    refine (takes_config.settles {} _).bind ?_
    rintro _ ⟨rfl, hglobal⟩
    refine (configTask_settles hformat hdashes (hglobal path (by simp))).bind ?_
    rintro _ ⟨rfl, hvalidate⟩
    exact ⟨rfl, hvalidate⟩

end Reading

/-! ### Running the two commands -/

section Running

variable {setup : Setup} {i : Invocation} {w left : World} {path format : String} {arguments : List String}

theorem tell_tells (i : Invocation) (text : String) (environment : List (String × String)) :
    Tells environment (tell i text) () :=
  fun _ hw => ⟨_, rfl, rfl, hw⟩

theorem tellMessage_tells (i : Invocation) (kind : Console.Kind) (message : String)
    (environment : List (String × String)) : Tells environment (tellMessage i kind message) () := by
  obtain ⟨text, htext⟩ := Console.printMessage_returns i.styled kind message
  have hshown : Tells environment (Action.ofExcept Failure.markup (printMessage i.styled kind message)) text :=
    fun w hw => ⟨w, by rw [htext]; rfl, rfl, hw⟩
  exact hshown.bind (tell_tells i text environment)

/-- A task that reports its faults ends well only if there is nothing to report. -/
theorem reportingFaults_eq_ok {α : Type} {introduction : String} {action : Action α} {next : α → Action Nat} :
    (reportingFaults introduction action next).runIn w = (.ok 0, left) ↔
      ∃ a w₁, action.runIn w = (.ok a, w₁) ∧ (next a).runIn w₁ = (.ok 0, left) := by
  rw [reportingFaults, Action.runIn_bind_ok (Action.runIn_attempt _ _)]
  rcases action.runIn w with ⟨failure | a, w₁⟩
  · simp only [Prod.mk.injEq, reduceCtorEq, false_and, exists_false, iff_false]
    split_ifs
    · intro h
      exact Nat.one_ne_zero (Except.ok.inj (congrArg Prod.fst h))
    · simp
  · simp

/-- Once the configuration is saved, creating the file ends well, and nothing happens to the files any more. -/
theorem runInitConfig_returns {o : InitOptions} {saved : World}
    (hsave : (save {} o.path o.format).runIn w = (.ok (), saved)) :
    ∃ left, (runInitConfig i o).runIn w = (.ok 0, left) ∧ left.files = saved.files := by
  obtain ⟨w₁, hmessage, hfiles, henvironment⟩ := tellMessage_tells i .success
    ("Default configuration file created at " ++ o.path) saved.environment saved rfl
  obtain ⟨w₂, htold, hfiles', _⟩ := tell_tells i "Edit the file to customize your bundle-cxx settings.\n"
    saved.environment w₁ henvironment
  refine ⟨w₂, reportingFaults_eq_ok.mpr ⟨(), saved, hsave, ?_⟩, hfiles'.trans hfiles⟩
  rw [Action.runIn_bind_ok hmessage, Action.runIn_bind_ok htold]
  rfl

theorem runInitConfig_eq_ok {o : InitOptions} (h : (runInitConfig i o).runIn w = (.ok 0, left)) :
    ∃ saved, (save {} o.path o.format).runIn w = (.ok (), saved) ∧ left.files = saved.files := by
  obtain ⟨_, saved, hsave, _⟩ := reportingFaults_eq_ok.mp h
  obtain ⟨w₁, hrun, hfiles⟩ := runInitConfig_returns (i := i) hsave
  rw [h] at hrun
  cases hrun
  exact ⟨saved, hsave, hfiles⟩

theorem runValidateConfig_iff (hquiet : i.verbose = false) {file : String} :
    ((runValidateConfig i file).runIn w).1 = .ok 0 ↔ ∃ c, ((load (some file) false true).runIn w).1 = .ok c := by
  have hends : (∃ left, (runValidateConfig i file).runIn w = (.ok 0, left)) ↔
      ((runValidateConfig i file).runIn w).1 = .ok 0 :=
    ⟨fun ⟨_, h⟩ => by rw [h], fun h => ⟨_, Prod.ext h rfl⟩⟩
  rw [← hends]
  simp only [runValidateConfig, reportingFaults_eq_ok]
  constructor
  · rintro ⟨_, c, w₁, hload, _⟩
    exact ⟨c, by rw [hload]⟩
  · rintro ⟨c, hload⟩
    obtain ⟨w₂, htold, _⟩ := tellMessage_tells i .success ("Configuration file " ++ file ++ " is valid") _
      ((load (some file) false true).runIn w).2 rfl
    refine ⟨w₂, c, _, Prod.ext hload rfl, ?_⟩
    rw [Action.runIn_bind_ok htold, hquiet]
    rfl

/-! ### What was created -/

theorem created_status (hformat : format ∈ formats) {route : Route} (hwritable : w.files.writable path = .ok route)
    (hread : Invocation.ofArguments (initArguments path format) = .ok (plainInvocation (.initConfig ⟨path, format⟩))) :
    (run setup (initArguments path format) w).1.status = 0 := by
  have hsave := runIn_save toValue_default (formatSettings_default hformat) hwritable
  obtain ⟨after, hrun, _⟩ :=
    runInitConfig_returns (i := plainInvocation (.initConfig ⟨path, format⟩)) (o := ⟨path, format⟩) hsave
  exact (run_status_iff hread).mpr (congrArg Prod.fst hrun)

/-- A file that was created is loaded as the default configuration if its name fits the format, else it is refused. -/
theorem load_created (hformat : format ∈ formats) (hzero : (run setup (initArguments path format) w).1.status = 0)
    (hleft : (run setup (initArguments path format) w).2 = left) :
    (FitsName format path → ((load (some path) false true).runIn left).1 = .ok {}) ∧
      (¬ FitsName format path → ∃ failure, ((load (some path) false true).runIn left).1 = .error failure ∧
        failure.family = .configuration) := by
  obtain ⟨i, hi, rfl, _⟩ := (initArguments_settle hformat).of_status hzero
  obtain ⟨after, hrun⟩ : ∃ after, (runInitConfig _ ⟨path, format⟩).runIn w = (.ok 0, after) :=
    ⟨_, Prod.ext ((run_status_iff hi).mp hzero) rfl⟩
  obtain rfl := (run_world hi hrun).symm.trans hleft
  obtain ⟨saved, hsave, hfiles⟩ := runInitConfig_eq_ok hrun
  exact load_saved_default hformat hsave hfiles

/-- Such a file is found valid exactly if its name fits the format. -/
theorem validate_created (hformat : format ∈ formats) (hzero : (run setup (initArguments path format) w).1.status = 0)
    (hleft : (run setup (initArguments path format) w).2 = left) :
    (run setup (validateArguments path) left).1.status = 0 ↔ FitsName format path := by
  obtain ⟨_, _, _, hvalidate⟩ := (initArguments_settle hformat).of_status hzero
  obtain ⟨hloaded, hrefused⟩ := load_created hformat hzero hleft
  rw [run_status_iff hvalidate]
  refine (runValidateConfig_iff rfl).trans ⟨?_, fun hfits => ⟨_, hloaded hfits⟩⟩
  rintro ⟨c, hc⟩
  by_contra hmisfit
  obtain ⟨failure, hfailure, _⟩ := hrefused hmisfit
  rw [hfailure] at hc
  cases hc

/-- When a configuration file has been created, validating it gives status zero exactly if its name fits the format, that
is unless it was written as YAML and its name does not say so. With such a name the file is loaded as a configuration
with the mapping of the default one, and with another name it is refused as a bad configuration. -/
theorem created_config_valid (setup : Setup) (w : World) (path format : String) (hformat : format ∈ formats)
    (hzero : (run setup (initArguments path format) w).1.status = 0) :
    let left := (run setup (initArguments path format) w).2
    ((run setup (validateArguments path) left).1.status = 0 ↔ FitsName format path) ∧
    (FitsName format path → ∃ c data, ((load (some path) false true).runIn left).1 = .ok c ∧ c.toValue = .ok data ∧
      ({} : Settings).toValue = .ok data) ∧
    (¬ FitsName format path → ∃ failure, ((load (some path) false true).runIn left).1 = .error failure ∧
      failure.family = .configuration) := by
  intro left
  obtain ⟨hloaded, hrefused⟩ := load_created hformat hzero rfl
  exact ⟨validate_created hformat hzero rfl,
    fun hfits => ⟨{}, _, hloaded hfits, toValue_default, toValue_default⟩, hrefused⟩

/-- JSON in a file with the name of a YAML file. -/
theorem created_config_valid_yaml :
    let w := Bundler.smallWorld []
    let left := (run {} (initArguments "c.yaml" "json") w).2
    "json" ∈ formats ∧ (run {} (initArguments "c.yaml" "json") w).1.status = 0 ∧
      (run {} (validateArguments "c.yaml") left).1.status = 0 ∧
      ∃ c data, ((load (some "c.yaml") false true).runIn left).1 = .ok c ∧ c.toValue = .ok data ∧
        ({} : Settings).toValue = .ok data := by
  intro w left
  have hwritable : w.files.writable "c.yaml" = .ok ["c.yaml"] := by decide +kernel
  have hzero : (run {} (initArguments "c.yaml" "json") w).1.status = 0 :=
    created_status (by decide) hwritable (by decide +kernel)
  have hfits : FitsName "json" "c.yaml" := by decide
  obtain ⟨hvalid, hloaded, _⟩ := created_config_valid {} w "c.yaml" "json" (by decide) hzero
  exact ⟨by decide, hzero, hvalid.mpr hfits, hloaded hfits⟩

/-- YAML in the file that is created unless a path is given: creating it succeeds, and it is refused ever after. -/
theorem created_config_refused :
    let w := Bundler.smallWorld []
    let left := (run {} (initArguments "bundlecxx.json" "yaml") w).2
    ({} : InitOptions).path = "bundlecxx.json" ∧ "yaml" ∈ formats ∧
      (run {} (initArguments "bundlecxx.json" "yaml") w).1.status = 0 ∧
      (run {} (validateArguments "bundlecxx.json") left).1.status ≠ 0 ∧
      ∀ c, ((load (some "bundlecxx.json") false true).runIn left).1 ≠ .ok c := by
  intro w left
  have hwritable : w.files.writable "bundlecxx.json" = .ok ["bundlecxx.json"] := by decide +kernel
  have hzero : (run {} (initArguments "bundlecxx.json" "yaml") w).1.status = 0 :=
    created_status (by decide) hwritable (by decide +kernel)
  have hmisfit : ¬ FitsName "yaml" "bundlecxx.json" := by decide
  obtain ⟨failure, hfailure, _⟩ := (load_created (by decide) hzero rfl).2 hmisfit
  have hvalidate := validate_created (by decide) hzero rfl
  refine ⟨rfl, by decide, hzero, fun hvalid => hmisfit (hvalidate.mp hvalid), fun c hc => ?_⟩
  rw [hfailure] at hc
  cases hc

end Running

end Amalgam.CommandLine
