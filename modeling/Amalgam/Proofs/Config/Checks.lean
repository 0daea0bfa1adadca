import Amalgam.Proofs.Config.Sources
/-!
# What validation accepts

Validation is one check of a bound setting after the other, section by section. It accepts a configuration when every
section that is there is either a mapping in which the checked settings have values they accept, or something else that
can be searched and lacks their names. It comes to a verdict, good or bad, unless it meets a section that cannot be
searched, or one in which a name is found but not as a key, or a line ending that cannot be looked up.
-/

namespace Amalgam.Config

open Amalgam.Text

/-! ### Verdicts -/

/-- Success, or a refusal as a fault of the configuration. -/
inductive Settled {α : Type} : Except Failure α → Prop
  | ok (a : α) : Settled (.ok a)
  | refused (fault : Fault) : Settled (.error (.configuration fault))

def isSettled {α : Type} : Except Failure α → Bool
  | .ok _ => true
  | .error (.configuration _) => true
  | .error _ => false

theorem isSettled_iff {α : Type} {x : Except Failure α} : isSettled x = true ↔ Settled x := by
  constructor
  · intro h
    unfold isSettled at h
    split at h
    · exact .ok _
    · exact .refused _
    · cases h
  · rintro (a | fault) <;> rfl

instance {α : Type} (x : Except Failure α) : Decidable (Settled x) :=
  decidable_of_iff _ isSettled_iff

section Verdicts

variable {α β ι : Type} {x : Except Failure α} {f : α → Except Failure β} {check : ι → Except Failure Unit}
  {items : List ι}

theorem not_settled_misuse (what : Misuse) : ¬ Settled (.error (.misuse what) : Except Failure α) := nofun

theorem settled_bind : Settled (x >>= f) ↔ Settled x ∧ ∀ a, x = .ok a → Settled (f a) := by
  cases x with
  | ok a => exact ⟨fun h => ⟨.ok a, fun _ heq => Except.ok.inj heq ▸ h⟩, fun h => h.2 a rfl⟩
  | error failure =>
    refine ⟨fun h => ⟨?_, nofun⟩, fun ⟨h, _⟩ => ?_⟩
    · cases h
      exact .refused _
    · cases h
      exact .refused _

theorem settled_then {y : Except Failure β} {z : Except Failure Unit} :
    Settled (z >>= fun _ => y) ↔ Settled z ∧ (z = .ok () → Settled y) := by
  rw [settled_bind]
  exact and_congr_right fun _ => ⟨fun h hz => h () hz, fun h _ hz => h hz⟩

theorem settled_forM (h : ∀ i ∈ items, Settled (check i)) : Settled (items.forM check) := by
  induction items with
  | nil => exact .ok ()
  | cons i items ih =>
    rw [Except.forM_cons, settled_then]
    exact ⟨h i List.mem_cons_self, fun _ => ih fun j hj => h j (List.mem_cons_of_mem _ hj)⟩

/-- Checks that refuse nothing come to a verdict only by passing. -/
theorem settled_forM_iff (h : ∀ i ∈ items, Settled (check i) → check i = .ok ()) :
    Settled (items.forM check) ↔ items.forM check = .ok () := by
  refine ⟨fun hsettled => ?_, fun hok => hok ▸ .ok ()⟩
  induction items with
  | nil => rfl
  | cons i items ih =>
    rw [Except.forM_cons, settled_then] at hsettled
    have hi : check i = .ok () := h i List.mem_cons_self hsettled.1
    rw [Except.forM_cons, hi]
    exact ih (fun j hj => h j (List.mem_cons_of_mem _ hj)) (hsettled.2 hi)

end Verdicts

/-! ### One setting -/

/-- The values that validation accepts for a setting. -/
def Setting.accepts (s : Setting) (v : Value) : Bool :=
  match s with
  | symbolSource => isOneOf symbolSourceNames v
  | amalgamateCommand => v.isGiven
  | backupSuffix => match v with | .text suffix => !isBlankText suffix | _ => false
  | lineEnding => isOneOf lineEndingNames v
  | restorePolicy => isOneOf restorePolicyNames v
  | mergeTimeout => match v with | .null => true | v => isPositive v
  | symbolsSuffix => v.isGiven
  | listSymbolsPath | libclangPath | encoding => true

def Setting.check (s : Setting) (v : Value) : Except Failure Unit :=
  match s with
  | symbolSource => require (symbolSource.accepts v) .symbolSource
  | amalgamateCommand => require (amalgamateCommand.accepts v) .emptyCommand
  | backupSuffix => require (backupSuffix.accepts v) .blankBackupSuffix
  | lineEnding => do
    if !v.canBeKey then throw (.misuse (.notHashable v.fullKindName))
    require (lineEnding.accepts v) .lineEnding
  | restorePolicy => require (restorePolicy.accepts v) .restorePolicy
  | mergeTimeout => require (mergeTimeout.accepts v) .mergeTimeout
  | symbolsSuffix => require (symbolsSuffix.accepts v) .emptySymbolsSuffix
  | listSymbolsPath | libclangPath | encoding => .ok ()

theorem require_eq_ok {holds : Bool} {fault : Fault} : require holds fault = .ok () ↔ holds = true := by
  cases holds <;> simp [require]

theorem settled_require (holds : Bool) (fault : Fault) : Settled (require holds fault) := by
  cases holds
  · exact .refused _
  · exact .ok ()

theorem isOneOf_iff {names : List String} {v : Value} : isOneOf names v = true ↔ ∃ name ∈ names, v = .text name := by
  cases v <;> simp [isOneOf]

theorem Setting.check_lineEnding {v : Value} (h : v.canBeKey = true) :
    lineEnding.check v = require (lineEnding.accepts v) .lineEnding := by
  simp [check, h]

theorem Setting.check_lineEnding_misuse {v : Value} (h : ¬ v.canBeKey = true) :
    lineEnding.check v = .error (.misuse (.notHashable v.fullKindName)) := by
  simp only [check, h, Bool.not_false, if_true]
  rfl

theorem Setting.check_eq_ok {s : Setting} {v : Value} : s.check v = .ok () ↔ s.accepts v = true := by
  cases s
  case lineEnding =>
    by_cases hkey : v.canBeKey = true
    · rw [check_lineEnding hkey, require_eq_ok]
    · rw [check_lineEnding_misuse hkey]
      refine ⟨fun h => (by cases h), fun haccepts => ?_⟩
      obtain ⟨name, _, rfl⟩ := isOneOf_iff.mp haccepts
      exact absurd rfl hkey
  case listSymbolsPath | libclangPath | encoding => exact ⟨fun _ => rfl, fun _ => rfl⟩
  all_goals exact require_eq_ok

/-- Only a line ending can be of a kind that its check cannot handle. -/
theorem Setting.settled_check {s : Setting} {v : Value} :
    Settled (s.check v) ↔ (s = .lineEnding → v.canBeKey = true) := by
  cases s
  case lineEnding =>
    by_cases hkey : v.canBeKey = true
    · rw [check_lineEnding hkey]
      exact ⟨fun _ _ => hkey, fun _ => settled_require _ _⟩
    · rw [check_lineEnding_misuse hkey]
      exact ⟨fun h => absurd h (not_settled_misuse _), fun h => absurd (h rfl) hkey⟩
  case listSymbolsPath | libclangPath | encoding => exact ⟨by simp, fun _ => .ok ()⟩
  all_goals exact ⟨by simp, fun _ => settled_require _ _⟩

/-! ### Looking for a name -/

/-- A value that is no mapping, but can be searched for a name and does not have it. -/
def Lacks (name : String) : Value → Prop
  | .list items | .tuple items | .set items => .text name ∉ items
  | .text s => ¬ name.toList <:+: s.toList
  | _ => False

theorem hasInfix_iff {part cs : List Char} : hasInfix part cs = true ↔ part <:+: cs := by
  induction cs with
  | nil => simp [hasInfix]
  | cons c rest ih => rw [hasInfix, Bool.or_eq_true, ih, List.isPrefixOf_iff_prefix, List.infix_cons_iff]

theorem any_sameKey_iff {items : List Value} {name : String} :
    (items.any fun v => v.sameKey (.text name)) = true ↔ .text name ∈ items := by
  rw [List.any_eq_true]
  exact ⟨fun ⟨_, hmem, hsame⟩ => Value.sameKey_text.mp hsame ▸ hmem, fun h => ⟨_, h, Value.sameKey_text.mpr rfl⟩⟩

theorem bound?_map (fields : Fields) (name : String) : bound? (.map fields) name = .ok (fields.get? name) := by
  unfold bound?
  cases hget : fields.get? name <;> simp [contains, lookup, hget, Except.mapError]

section NoMapping

variable {v : Value} {name : String}

theorem contains_eq_ok_false (h : ∀ fields, v ≠ .map fields) : contains v name = .ok false ↔ Lacks name v := by
  cases v with
  | map fields => exact absurd rfl (h fields)
  | list items | tuple items | set items =>
    rw [contains, Except.ok.injEq, ← Bool.not_eq_true, any_sameKey_iff, Lacks]
  | text s => rw [contains, Except.ok.injEq, ← Bool.not_eq_true, hasInfix_iff, Lacks]
  | _ => simp [contains, Lacks]

theorem lookup_eq_error (h : ∀ fields, v ≠ .map fields) : ∃ what, lookup v name = .error what := by
  cases v with
  | map fields => exact absurd rfl (h fields)
  | _ => exact ⟨_, rfl⟩

theorem bound?_eq_none (h : ∀ fields, v ≠ .map fields) (hlacks : Lacks name v) : bound? v name = .ok none := by
  rw [bound?, (contains_eq_ok_false h).mpr hlacks]
  rfl

/-- What is no mapping and does not lack a name cannot be asked for it. -/
theorem bound?_eq_misuse (h : ∀ fields, v ≠ .map fields) (hlacks : ¬ Lacks name v) :
    ∃ what, bound? v name = .error (.misuse what) := by
  rw [bound?]
  cases hcontains : contains v name with
  | error what => exact ⟨what, rfl⟩
  | ok found =>
    cases found with
    | false => exact absurd ((contains_eq_ok_false h).mp hcontains) hlacks
    | true =>
      obtain ⟨what, hlookup⟩ : ∃ what, lookup v name = .error what := lookup_eq_error h
      exact ⟨what, by rw [hlookup]; rfl⟩

end NoMapping

/-! ### One section -/

/-- The settings of a section that are checked, in the order of the checks. -/
def Setting.checkedIn (name : String) : List Setting :=
  match name with
  | "tools" => [symbolSource, amalgamateCommand]
  | "rename" => [backupSuffix, lineEnding]
  | _ => [restorePolicy, mergeTimeout, symbolsSuffix]

def checkBound (container : Value) (s : Setting) : Except Failure Unit := do
  match ← bound? container s.key with
  | some v => s.check v
  | none => return ()

def checkSection (data : Value) (name : String) : Except Failure Unit := do
  match ← bound? data name with
  | some container => (Setting.checkedIn name).forM (checkBound container)
  | none => return ()

theorem validateTools_eq (tools : Value) :
    validateTools tools = (Setting.checkedIn "tools").forM (checkBound tools) := by
  rw [Setting.checkedIn, Except.forM_cons, Except.forM_singleton, validateTools, checkBound, checkBound, Setting.key,
    Setting.key]
  rcases bound? tools "symbol_source" with _ | _ | v
  · rfl
  all_goals rcases bound? tools "amalgamate_command" with _ | _ | v' <;> rfl

theorem validateRename_eq (rename : Value) :
    validateRename rename = (Setting.checkedIn "rename").forM (checkBound rename) := by
  rw [Setting.checkedIn, Except.forM_cons, Except.forM_singleton, validateRename, checkBound, checkBound, Setting.key,
    Setting.key]
  rcases bound? rename "backup_suffix" with _ | _ | v
  · rfl
  all_goals rcases bound? rename "line_ending" with _ | _ | v' <;> rfl

theorem validateBundle_eq (bundle : Value) :
    validateBundle bundle = (Setting.checkedIn "bundle").forM (checkBound bundle) := by
  have hchecked : Setting.checkedIn "bundle" = [.restorePolicy, .mergeTimeout, .symbolsSuffix] := by decide
  rw [hchecked, Except.forM_cons, Except.forM_cons, Except.forM_singleton, validateBundle, checkBound, checkBound,
    checkBound, Setting.key, Setting.key, Setting.key]
  rcases bound? bundle "restore_policy" with _ | _ | v
  · rfl
  all_goals
    rcases bound? bundle "merge_timeout" with _ | _ | v'
    · rfl
    all_goals rcases bound? bundle "symbols_suffix" with _ | _ | v'' <;> rfl

/-- Validation is the checks of the sections one after the other. -/
theorem validate_eq (data : Value) : validate data = sectionNames.forM (checkSection data) := by
  rw [sectionNames, Except.forM_cons, Except.forM_cons, Except.forM_singleton, validate, checkSection, checkSection,
    checkSection]
  simp only [validateTools_eq, validateRename_eq, validateBundle_eq]
  rcases bound? data "tools" with _ | _ | v
  · rfl
  all_goals
    rcases bound? data "rename" with _ | _ | v'
    · rfl
    all_goals rcases bound? data "bundle" with _ | _ | v'' <;> rfl

/-! ### What is accepted, and what is judged -/

/-- Validation accepts a section: a mapping in which the checked settings have values they accept, or something that
can be searched and lacks their names. -/
def Accepts (name : String) : Value → Prop
  | .map fields => ∀ s ∈ Setting.checkedIn name, ∀ v, Fields.get? fields s.key = some v → s.accepts v = true
  | v => ∀ s ∈ Setting.checkedIn name, Lacks s.key v

/-- Validation comes to a verdict on a section: it is a mapping whose line ending, where a section has one, can be looked
up unless the suffix before it is refused, or something that can be searched and lacks the names of the settings. -/
def Judges (name : String) : Value → Prop
  | .map fields => name = "rename" → ∀ ending, Fields.get? fields Setting.lineEnding.key = some ending →
      ending.canBeKey = true ∨ ∃ suffix, Fields.get? fields Setting.backupSuffix.key = some suffix ∧
        ¬ Setting.backupSuffix.accepts suffix = true
  | v => ∀ s ∈ Setting.checkedIn name, Lacks s.key v

theorem checkBound_map (fields : Fields) (s : Setting) :
    checkBound (.map fields) s = match fields.get? s.key with | some v => s.check v | none => .ok () := by
  rw [checkBound, bound?_map]
  cases fields.get? s.key <;> rfl

theorem checkBound_map_eq_ok {fields : Fields} {s : Setting} :
    checkBound (.map fields) s = .ok () ↔ ∀ v, fields.get? s.key = some v → s.accepts v = true := by
  rw [checkBound_map]
  cases fields.get? s.key with
  | none => simp
  | some v => simp [Setting.check_eq_ok]

theorem settled_checkBound_map {fields : Fields} {s : Setting} :
    Settled (checkBound (.map fields) s) ↔
      (s = .lineEnding → ∀ v, fields.get? s.key = some v → v.canBeKey = true) := by
  rw [checkBound_map]
  cases fields.get? s.key with
  | none => exact ⟨fun _ _ => nofun, fun _ => .ok ()⟩
  | some v => simp [Setting.settled_check]

theorem checkBound_eq_ok {v : Value} (h : ∀ fields, v ≠ .map fields) (s : Setting) :
    checkBound v s = .ok () ↔ Lacks s.key v := by
  by_cases hlacks : Lacks s.key v
  · rw [checkBound, bound?_eq_none h hlacks]
    exact ⟨fun _ => hlacks, fun _ => rfl⟩
  · obtain ⟨what, hmisuse⟩ := bound?_eq_misuse h hlacks
    rw [checkBound, hmisuse]
    exact ⟨fun h => (by cases h), fun h => absurd h hlacks⟩

theorem settled_checkBound {v : Value} (h : ∀ fields, v ≠ .map fields) (s : Setting) :
    Settled (checkBound v s) ↔ Lacks s.key v := by
  by_cases hlacks : Lacks s.key v
  · rw [(checkBound_eq_ok h s).mpr hlacks]
    exact ⟨fun _ => hlacks, fun _ => .ok ()⟩
  · obtain ⟨what, hmisuse⟩ := bound?_eq_misuse h hlacks
    rw [checkBound, hmisuse]
    exact ⟨fun h => absurd h (not_settled_misuse what), fun h => absurd h hlacks⟩

theorem checkSettings_eq_ok {name : String} {container : Value} :
    (Setting.checkedIn name).forM (checkBound container) = .ok () ↔ Accepts name container := by
  rw [Except.forM_eq_ok]
  by_cases hmap : ∃ fields, container = .map fields
  · obtain ⟨fields, rfl⟩ := hmap
    exact forall₂_congr fun s _ => checkBound_map_eq_ok
  · have hother : ∀ fields, container ≠ .map fields := fun fields heq => hmap ⟨fields, heq⟩
    rw [Accepts]
    · exact forall₂_congr fun s _ => checkBound_eq_ok hother s
    · exact hother

theorem settled_checkSettings {name : String} {container : Value} :
    Settled ((Setting.checkedIn name).forM (checkBound container)) ↔ Judges name container := by
  by_cases hmap : ∃ fields : Fields, container = .map fields
  · obtain ⟨fields, rfl⟩ := hmap
    by_cases hname : name = "rename"
    · subst hname
      rw [Setting.checkedIn, Except.forM_cons, Except.forM_singleton, settled_then, settled_checkBound_map,
        settled_checkBound_map, checkBound_map_eq_ok, Judges]
      simp only [reduceCtorEq, false_implies, true_and, forall_const]
      refine ⟨fun h ending hending => ?_, fun h haccepts ending hending => ?_⟩
      · by_cases hsuffix : ∃ suffix, fields.get? Setting.backupSuffix.key = some suffix ∧
            ¬ Setting.backupSuffix.accepts suffix = true
        · exact Or.inr hsuffix
        · refine Or.inl (h (fun suffix hget => ?_) ending hending)
          by_contra hrefused
          exact hsuffix ⟨suffix, hget, hrefused⟩
      · rcases h ending hending with hkey | ⟨suffix, hget, hrefused⟩
        · exact hkey
        · exact absurd (haccepts suffix hget) hrefused
    · have hchecked : Setting.lineEnding ∉ Setting.checkedIn name := by
        unfold Setting.checkedIn
        split <;> simp_all
      have hjudges : Judges name (.map fields) := fun h => absurd h hname
      refine ⟨fun _ => hjudges, fun _ => settled_forM fun s hs => settled_checkBound_map.mpr ?_⟩
      rintro rfl
      exact absurd hs hchecked
  · have hother : ∀ fields, container ≠ .map fields := fun fields heq => hmap ⟨fields, heq⟩
    have hstrict : ∀ s ∈ Setting.checkedIn name, Settled (checkBound container s) → checkBound container s = .ok () :=
      fun s _ hsettled => (checkBound_eq_ok hother s).mpr ((settled_checkBound hother s).mp hsettled)
    rw [settled_forM_iff hstrict, checkSettings_eq_ok, Accepts, Judges]
    · exact hother
    · exact hother

/-! ### Whole configurations -/

/-- Validation accepts a section of configuration data if it is there. -/
def Accepted (data : Fields) (name : String) : Prop :=
  ∀ container, data.get? name = some container → Accepts name container

/-- Validation comes to a verdict on a section of configuration data if it is there. -/
def Judged (data : Fields) (name : String) : Prop :=
  ∀ container, data.get? name = some container → Judges name container

theorem checkSection_eq (data : Fields) (name : String) :
    checkSection (.map data) name =
      match data.get? name with
      | some container => (Setting.checkedIn name).forM (checkBound container)
      | none => .ok () := by
  rw [checkSection, bound?_map]
  cases data.get? name <;> rfl

theorem checkSection_eq_ok {data : Fields} {name : String} :
    checkSection (.map data) name = .ok () ↔ Accepted data name := by
  rw [checkSection_eq, Accepted]
  cases data.get? name with
  | none => simp
  | some container => exact checkSettings_eq_ok.trans ⟨fun h _ heq => Option.some.inj heq ▸ h, fun h => h _ rfl⟩

theorem settled_checkSection {data : Fields} {name : String} :
    Settled (checkSection (.map data) name) ↔ Judged data name := by
  rw [checkSection_eq, Judged]
  cases data.get? name with
  | none => exact ⟨fun _ => nofun, fun _ => .ok ()⟩
  | some container => exact settled_checkSettings.trans ⟨fun h _ heq => Option.some.inj heq ▸ h, fun h => h _ rfl⟩

theorem validate_eq_ok {data : Fields} :
    validate (.map data) = .ok () ↔ ∀ name ∈ sectionNames, Accepted data name := by
  rw [validate_eq, Except.forM_eq_ok]
  exact forall₂_congr fun name _ => checkSection_eq_ok

/-- Validation comes to a verdict: on each section, unless an earlier section is refused. -/
def Judgeable (data : Fields) : Prop :=
  Judged data "tools" ∧ (Accepted data "tools" → Judged data "rename" ∧ (Accepted data "rename" → Judged data "bundle"))

theorem settled_validate {data : Fields} : Settled (validate (.map data)) ↔ Judgeable data := by
  rw [validate_eq, sectionNames, Except.forM_cons, Except.forM_cons, Except.forM_singleton, settled_then, settled_then,
    settled_checkSection, settled_checkSection, settled_checkSection, checkSection_eq_ok, checkSection_eq_ok, Judgeable]

end Amalgam.Config
