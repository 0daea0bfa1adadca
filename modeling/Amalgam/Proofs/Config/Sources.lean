import Amalgam.Proofs.Config.Layers
import Amalgam.Proofs.Config.Setting
import Amalgam.Proofs.Value.Result
import Amalgam.Proofs.World.Running
/-!
# Where settings come from

Loading asks two sources and changes neither of them: a file, and over it the environment. Both are told here as plain
data. What the environment gives is a section for each part of the configuration that has a variable which its setting
can take, and in the merged configuration a setting is bound to what its own variable says, else to what the file binds
it to.
-/

namespace Amalgam.Config

open Amalgam.Text

/-! ### Actions that only tell something -/

/-- In every world with this environment the action returns a value, and it leaves files and environment alone. -/
def Tells {α : Type} (environment : List (String × String)) (a : Action α) (x : α) : Prop :=
  ∀ w : World, w.environment = environment →
    ∃ w' : World, a.runIn w = (.ok x, w') ∧ w'.files = w.files ∧ w'.environment = environment

namespace Tells

variable {α β : Type} {environment : List (String × String)}

theorem pure (x : α) : Tells environment (Pure.pure x) x :=
  fun w hw => ⟨w, rfl, rfl, hw⟩

theorem bind {a : Action α} {f : α → Action β} {x : α} {y : β} (ha : Tells environment a x)
    (hf : Tells environment (f x) y) : Tells environment (a >>= f) y := by
  intro w hw
  obtain ⟨w₁, hrun, hfiles, hw₁⟩ := ha w hw
  obtain ⟨w₂, hrun', hfiles', hw₂⟩ := hf w₁ hw₁
  exact ⟨w₂, (Action.runIn_bind_ok hrun).trans hrun', hfiles'.trans hfiles, hw₂⟩

theorem log (level : Level) (logger message : String) : Tells environment (Action.log level logger message) () :=
  fun _ hw => ⟨_, rfl, rfl, hw⟩

theorem environmentValue (name : String) :
    Tells environment (Action.environmentValue name) ((environment.lookup name).filter (· != "")) := by
  rintro w rfl
  exact ⟨w, rfl, rfl, rfl⟩

end Tells

/-! ### The environment -/

/-- The value that a setting's own variable gives it: the variable is there, is not empty, and the setting can take
it. -/
def Setting.fromVariable? (s : Setting) (environment : List (String × String)) : Option Value :=
  ((s.variableName?.bind fun name => environment.lookup name).filter (· != "")).bind s.ofVariable?

/-- What the environment binds in a section. -/
def environmentSection (environment : List (String × String)) (name : String) : Fields :=
  Fields.ofItems Setting.key (·.fromVariable? environment) (Setting.ofSection name)

def sectionNames : List String := ["tools", "rename", "bundle"]

/-- The configuration of the environment: the sections in which it binds something. -/
def environmentFields (environment : List (String × String)) : Fields :=
  Fields.ofItems id
    (fun name =>
      if (environmentSection environment name).isEmpty then none else some (.map (environmentSection environment name)))
    sectionNames

section Environment

variable {environment : List (String × String)} {s : Setting} {variableName : String}

/-- The binding that the environment makes for a setting. -/
def variableBinding (environment : List (String × String)) (s : Setting) : Fields :=
  ((s.fromVariable? environment).map fun v => (Value.text s.key, v)).toList

theorem readSetting_tells (h : s.variableName? = some variableName) :
    Tells environment (readSetting variableName s.key s.ofVariable?) (variableBinding environment s) := by
  refine (Tells.environmentValue variableName).bind ?_
  have hvalue : s.fromVariable? environment =
      ((environment.lookup variableName).filter (· != "")).bind s.ofVariable? := by
    rw [Setting.fromVariable?, h, Option.bind_some]
  rw [variableBinding, hvalue]
  cases (environment.lookup variableName).filter (· != "") with
  | none => exact .pure _
  | some text =>
    rw [Option.bind_some]
    dsimp only
    cases s.ofVariable? text with
    | none => exact (Tells.log _ _ _).bind (.pure _)
    | some v => exact .pure _

theorem plainSetting_eq (variableName key : String) :
    plainSetting variableName key = readSetting variableName key fun text => some (.text text) := by
  unfold plainSetting readSetting
  exact bind_congr fun value => by cases value <;> rfl

theorem plainSetting_tells (h : s.variableName? = some variableName)
    (hplain : s.ofVariable? = fun text => some (.text text)) :
    Tells environment (plainSetting variableName s.key) (variableBinding environment s) := by
  rw [plainSetting_eq, ← hplain]
  exact readSetting_tells h

theorem nodup_ofSection (name : String) : (Setting.ofSection name).Nodup :=
  List.Nodup.filter _ (by decide)

theorem nodup_sectionNames : sectionNames.Nodup := by
  decide

theorem forall_mem_sectionNames {prop : String → Prop} :
    (∀ name ∈ sectionNames, prop name) ↔ prop "tools" ∧ prop "rename" ∧ prop "bundle" := by
  simp [sectionNames]

theorem sectionName_mem (s : Setting) : s.sectionName ∈ sectionNames := by
  cases s <;> decide

theorem environmentSection_eq (environment : List (String × String)) (name : String) :
    environmentSection environment name = (Setting.ofSection name).flatMap (variableBinding environment) := by
  rw [environmentSection, Fields.ofItems, List.filterMap_eq_flatMap_toList]
  rfl

theorem environmentFields_eq (environment : List (String × String)) :
    environmentFields environment =
      sectionNames.flatMap fun name => sectionOf name (environmentSection environment name) := by
  rw [environmentFields, Fields.ofItems, List.filterMap_eq_flatMap_toList]
  congr 1
  funext name
  rw [sectionOf]
  split_ifs <;> rfl

/-- Reading the environment always succeeds. -/
theorem fromEnvironment_tells (environment : List (String × String)) :
    Tells environment fromEnvironment (environmentFields environment) := by
  refine (plainSetting_tells (s := .listSymbolsPath) rfl rfl).bind ?_
  refine (plainSetting_tells (s := .amalgamateCommand) rfl rfl).bind ?_
  refine (plainSetting_tells (s := .libclangPath) rfl rfl).bind ?_
  refine (readSetting_tells (s := .symbolSource) rfl).bind ?_
  refine (plainSetting_tells (s := .backupSuffix) rfl rfl).bind ?_
  refine (plainSetting_tells (s := .encoding) rfl rfl).bind ?_
  refine (readSetting_tells (s := .lineEnding) rfl).bind ?_
  refine (readSetting_tells (s := .restorePolicy) rfl).bind ?_
  refine (readSetting_tells (s := .mergeTimeout) rfl).bind ?_
  have htools : Setting.ofSection "tools" = [.listSymbolsPath, .amalgamateCommand, .libclangPath, .symbolSource] := by
    decide
  have hrename : Setting.ofSection "rename" = [.backupSuffix, .encoding, .lineEnding] := by decide
  have hbundle : Setting.ofSection "bundle" = [.restorePolicy, .mergeTimeout, .symbolsSuffix] := by decide
  -- the suffix of tables has no variable, so its binding is empty
  have hsuffix : variableBinding environment .symbolsSuffix = [] := rfl
  have hsections : environmentFields environment = _ := environmentFields_eq environment
  simp only [sectionNames, environmentSection_eq, htools, hrename, hbundle, hsuffix, List.flatMap_cons,
    List.flatMap_nil, List.append_nil] at hsections
  rw [hsections]
  simp only [List.append_assoc]
  exact .pure _

theorem sectioned_environmentFields (environment : List (String × String)) :
    Sectioned (environmentFields environment) where
  named := .ofItems Function.injective_id nodup_sectionNames
  sections := by
    intro name v hget
    obtain ⟨section', _, hvalue, _⟩ := Fields.mem_ofItems.mp (Fields.mem_of_get? hget)
    split_ifs at hvalue
    obtain rfl := Option.some.inj hvalue
    exact ⟨_, rfl, .ofItems (fun _ _ => Setting.key_injective) (nodup_ofSection _)⟩

theorem sectionBindings_environmentFields {name : String} (h : name ∈ sectionNames) :
    sectionBindings (environmentFields environment) name = environmentSection environment name := by
  have hget : (environmentFields environment).get? (id name) = _ :=
    Fields.get?_ofItems Function.injective_id nodup_sectionNames h
  rw [id] at hget
  rw [sectionBindings, hget]
  split_ifs with hempty
  · exact (List.isEmpty_iff.mp hempty).symm
  · rfl

end Environment

/-! ### Settings in configuration data -/

/-- What configuration data binds a setting to: its key in its section. -/
def boundIn (data : Fields) (s : Setting) : Option Value :=
  (sectionBindings data s.sectionName).get? s.key

theorem boundIn_environmentFields (environment : List (String × String)) (s : Setting) :
    boundIn (environmentFields environment) s = s.fromVariable? environment := by
  rw [boundIn, sectionBindings_environmentFields (sectionName_mem s)]
  exact Fields.get?_ofItems (fun _ _ => Setting.key_injective) (nodup_ofSection _) (Setting.mem_ofSection.mpr rfl)

/-- A variable gives a text or a number. -/
theorem Setting.ofVariable?_kind {s : Setting} {text : String} {v : Value} (h : s.ofVariable? text = some v) :
    (∃ name, v = .text name) ∨ ∃ x, v = .float x := by
  cases s
  case symbolSource | lineEnding | restorePolicy =>
    rw [ofVariable?, enumerated, Option.ite_none_right_eq_some] at h
    exact Or.inl ⟨_, (Option.some.inj h.2).symm⟩
  case mergeTimeout =>
    obtain ⟨x, _, rfl⟩ := Option.map_eq_some_iff.mp h
    exact Or.inr ⟨x, rfl⟩
  all_goals exact Or.inl ⟨text, (Option.some.inj h).symm⟩

theorem Setting.fromVariable?_ne_map {s : Setting} {environment : List (String × String)} {v : Value}
    (h : s.fromVariable? environment = some v) (fields : Fields) : v ≠ .map fields := by
  obtain ⟨_, _, hv⟩ := Option.bind_eq_some_iff.mp h
  rcases ofVariable?_kind hv with ⟨_, rfl⟩ | ⟨_, rfl⟩ <;> simp

/-- A file with the environment over it. -/
def layered (environment : List (String × String)) (file : Fields) : Fields :=
  merge [file, environmentFields environment]

theorem layered_eq {file : Fields} (h : file.Named) (environment : List (String × String)) :
    layered environment file = mergeInto file (environmentFields environment) := by
  rw [layered, merge, List.foldl_cons, List.foldl_cons, List.foldl_nil, mergeInto_nil h]

theorem boundIn_layered {file : Fields} (h : file.Named) (environment : List (String × String)) (s : Setting) :
    boundIn (layered environment file) s = (s.fromVariable? environment).or (boundIn file s) := by
  have hsectioned := sectioned_environmentFields environment
  have hsection := hsectioned.sectionBindings_named s.sectionName
  rw [layered_eq h, boundIn, sectionBindings_mergeInto hsectioned, get?_mergeInto hsection, ← boundIn,
    boundIn_environmentFields]
  cases hvariable : s.fromVariable? environment with
  | none => rfl
  | some v => exact congrArg some (overlay_of_ne_map (Setting.fromVariable?_ne_map hvariable) _)

/-! ### The file -/

/-- The file that is loaded: the one that is given, else the first of the usual ones that is there. -/
def chosenFile (path : Option String) (w : World) : Option String :=
  (path.filter (· != "")).or ((defaultPaths w.home).find? w.files.leadsSomewhere)

theorem chosenFile_given {p : String} (hp : p ≠ "") (w : World) : chosenFile (some p) w = some p := by
  simp [chosenFile, Option.filter, hp]

theorem not_yaml_of_given {p : String} (hp : p ≠ "") (hjson : isYamlName p = false) (w : World) :
    ∀ q, chosenFile (some p) w = some q → isYamlName q = false := by
  rw [chosenFile_given hp]
  rintro _ ⟨⟩
  exact hjson

/-- The mapping that the bytes of a configuration file hold. -/
def decodeFields (path : String) (bytes : List UInt8) : Except Failure Fields := do
  let glyphs ← (Codec.utf8.decode false bytes).mapError fun fault =>
    .unreadable ((if isYamlName path then atPieceStart else id) fault)
  match ← parseFile path (universalNewlines (glyphs.filterMap Glyph.char?)) with
  | .map fields => .ok fields
  | _ => .error (.configuration .notMapping)

/-- The mapping in a configuration file. -/
def readFields (path : String) (fs : FileSystem) : Except Failure Fields :=
  if fs.leadsSomewhere path then
    (fs.read path).mapError (fun fault => .configuration (.unreadable fault)) >>= decodeFields path
  else .error (.configuration (.fileNotFound path))

/-- The mapping in the file that is loaded; without a file there is nothing in it. -/
def fileBindings (path : Option String) (w : World) : Except Failure Fields :=
  match chosenFile path w with
  | some p => readFields p w.files
  | none => .ok []

/-- Work that leaves the world as it is goes through a sequence like a result. -/
theorem runIn_bind_result {α β : Type} {a : Action α} {f : α → Action β} {w : World} {x : Except Failure α}
    {g : α → Except Failure β} (ha : a.runIn w = (x, w)) (hf : ∀ v, (f v).runIn w = (g v, w)) :
    (a >>= f).runIn w = (x >>= g, w) := by
  rw [Action.runIn_bind, ha]
  cases x with
  | error failure => rfl
  | ok v => exact hf v

theorem runIn_ofExcept_id {α : Type} (x : Except Failure α) (w : World) :
    (Action.ofExcept id x).runIn w = (x, w) := by
  cases x <;> rfl

theorem runIn_fileFields (path : String) (w : World) :
    (fileFields path).runIn w = (readFields path w.files, w) := by
  unfold fileFields readFields
  rw [Action.runIn_bind_ok (Action.runIn_files w)]
  cases w.files.leadsSomewhere path
  · rfl
  · refine runIn_bind_result (Action.runIn_ofExcept _ _ w) fun bytes => ?_
    refine runIn_bind_result (Action.runIn_ofExcept _ _ w) fun glyphs => ?_
    refine runIn_bind_result (runIn_ofExcept_id _ w) fun v => ?_
    cases v <;> rfl

/-- Reading the file changes at most the journal. -/
theorem runIn_fileData (path : Option String) (w : World) :
    ∃ w' : World, (fileData path).runIn w = (fileBindings path w, w') ∧ w'.files = w.files ∧
      w'.environment = w.environment := by
  unfold fileData fileBindings chosenFile
  cases path.filter (· != "") with
  | some p => exact ⟨w, runIn_fileFields p w, rfl, rfl⟩
  | none =>
    have hfind : (findFile []).runIn w = (.ok ((defaultPaths w.home).find? w.files.leadsSomewhere), w) := rfl
    dsimp only [Option.none_or]
    rw [Action.runIn_bind_ok hfind]
    cases (defaultPaths w.home).find? w.files.leadsSomewhere with
    | none => exact ⟨w, rfl, rfl, rfl⟩
    | some p =>
      dsimp only
      rw [Action.runIn_bind, runIn_fileFields]
      cases readFields p w.files with
      | error failure => exact ⟨w, rfl, rfl, rfl⟩
      | ok fields => exact ⟨_, rfl, rfl, rfl⟩

/-! ### Loading -/

/-- The environment that loading looks at. -/
def consulted (useEnvironment : Bool) (w : World) : List (String × String) :=
  if useEnvironment then w.environment else []

/-- What loading makes of its two sources. -/
def loadLayered (checked : Bool) (data : Fields) : Except Failure Settings := do
  if checked then validate (.map data)
  fill data

theorem merge_file {file : Fields} (h : file.Named) : merge [file] = layered [] file := by
  have hempty : environmentFields [] = [] := rfl
  rw [layered_eq h, hempty, merge, List.foldl_cons, List.foldl_nil, mergeInto_nil h, mergeInto]

theorem load_result (path : Option String) (useEnvironment checked : Bool) (w : World)
    (hnamed : ∀ file, fileBindings path w = .ok file → file.Named) :
    ((load path useEnvironment checked).runIn w).1 =
      fileBindings path w >>= fun file => loadLayered checked (layered (consulted useEnvironment w) file) := by
  obtain ⟨w₁, hrun, _, hw₁⟩ := runIn_fileData path w
  unfold load
  rw [Action.runIn_bind, hrun]
  cases hfile : fileBindings path w with
  | error failure => rfl
  | ok file =>
    have hrest (data : Fields) (w' : World) :
        (do if checked then Action.ofExcept id (validate (.map data))
            Action.ofExcept id (fill data) : Action Settings).runIn w' = (loadLayered checked data, w') := by
      unfold loadLayered
      cases checked with
      | false => exact runIn_ofExcept_id _ w'
      | true => exact runIn_bind_result (runIn_ofExcept_id _ w') fun _ => runIn_ofExcept_id _ w'
    cases useEnvironment with
    | false =>
      have hfileOnly : layered (consulted false w) file = merge [file] := (merge_file (hnamed file hfile)).symm
      dsimp only [Except.ok_bind]
      rw [hfileOnly]
      exact congrArg Prod.fst (hrest (merge [file]) w₁)
    | true =>
      obtain ⟨w₂, henv, _, _⟩ := fromEnvironment_tells w.environment w₁ hw₁
      dsimp only [Except.ok_bind]
      simp only [if_true, pure_bind]
      rw [Action.runIn_bind_ok henv]
      exact congrArg Prod.fst (hrest (layered w.environment file) w₂)

end Amalgam.Config
