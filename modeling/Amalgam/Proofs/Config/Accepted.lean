import Amalgam.Proofs.Config.Completion
import Amalgam.Proofs.Config.Precedence
/-!
# What an accepted configuration is good for

Validation looks at the merged data and a configuration is filled in afterwards, setting by setting, but both see the same
values. So a configuration that was loaded with validation has a value that is accepted for every setting, and nothing
more is needed: the enumerated settings are members, the line ending is known, and written as a mapping the configuration
is accepted again and fills in to itself. The one thing that writing needs besides is that the values can be copied.
-/

namespace Amalgam.Config

open Amalgam.Number Amalgam.Text

/-! ### Accepted values -/

/-- Every setting has a value that validation accepts. -/
def Acceptable (value : Setting → Value) : Prop :=
  ∀ s : Setting, s.accepts (value s) = true

theorem Setting.accepts_default (s : Setting) : s.accepts s.default = true := by
  cases s <;> decide

/-- A number above zero; truth values count as numbers. -/
def AboveZero : Value → Prop
  | .bool b => b = true
  | .int n => 0 < n
  | .float x => (Binary64.zero false).below x = true
  | _ => False

def isNan : Value → Bool
  | .float x => x = .nan
  | _ => false

theorem isNan_iff {v : Value} : isNan v = true ↔ v = .float .nan := by
  cases v <;> simp [isNan]

theorem not_aboveZero_nan : ¬ (Value.float .nan = .null ∨ AboveZero (.float .nan)) := by
  rintro (h | h) <;> cases h

theorem below_of_nonPositive {x : Binary64} (h : x.nonPositive = false) (hnan : x ≠ .nan) :
    (Binary64.zero false).below x = true := by
  cases x with
  | nan => exact absurd rfl hnan
  | infinite negative =>
    simp only [Binary64.nonPositive] at h
    simp [Binary64.zero, Binary64.below, h]
  | finite negative significand exponent =>
    simp only [Binary64.nonPositive, Bool.or_eq_false_iff, decide_eq_false_iff_not] at h
    obtain ⟨hsign, hsignificand⟩ := h
    have hpow (e : Int) : 0 < Nat.pow 2 e.toNat := Nat.pow_pos (by decide)
    have hpos : 0 < significand * Nat.pow 2 exponent.toNat * Nat.pow 2 (-Binary64.leastExponent).toNat :=
      Nat.mul_pos (Nat.mul_pos (Nat.pos_of_ne_zero hsignificand) (hpow _)) (hpow _)
    simp only [Binary64.zero, Binary64.below, Binary64.ratio, hsign, Nat.zero_mul, Bool.false_eq_true, if_false,
      decide_eq_true_eq]
    exact_mod_cast hpos

/-- The timeouts that validation accepts: none at all, a number above zero, or what is not a number. -/
theorem mergeTimeout_accepts {v : Value} (h : Setting.mergeTimeout.accepts v = true) :
    v = .null ∨ v = .float .nan ∨ AboveZero v := by
  cases v with
  | null => exact Or.inl rfl
  | bool b => exact Or.inr (Or.inr h)
  | int n => exact Or.inr (Or.inr (by simpa [Setting.accepts, isPositive, AboveZero] using h))
  | float x =>
    by_cases hnan : x = .nan
    · exact Or.inr (Or.inl (congrArg Value.float hnan))
    · have hpositive : x.nonPositive = false := by simpa [Setting.accepts, isPositive] using h
      exact Or.inr (Or.inr (below_of_nonPositive hpositive hnan))
  | _ => cases h

theorem backupSuffix_accepts {v : Value} (h : Setting.backupSuffix.accepts v = true) :
    ∃ suffix, v = .text suffix ∧ isBlankText suffix = false := by
  cases v with
  | text suffix => exact ⟨suffix, rfl, by simpa [Setting.accepts] using h⟩
  | _ => cases h

theorem choice_ofValue_known {α : Type} {ofName? : String → Option α} {nameOf : α → String} {names : List String}
    {v : Value} (hnames : ∀ name ∈ names, ∃ a, ofName? name = some a ∧ nameOf a = name)
    (h : isOneOf names v = true) : ∃ a, Choice.ofValue ofName? v = .known a ∧ v = .text (nameOf a) := by
  obtain ⟨name, hname, rfl⟩ := isOneOf_iff.mp h
  obtain ⟨a, ha, rfl⟩ := hnames name hname
  exact ⟨a, by simp [Choice.ofValue, ha], rfl⟩

theorem symbolSource_known {v : Value} (h : Setting.symbolSource.accepts v = true) :
    ∃ kind, Choice.ofValue SymbolSourceKind.ofName? v = .known kind ∧ v = .text kind.name := by
  refine choice_ofValue_known (fun name hname => ?_) h
  simp only [symbolSourceNames, List.mem_cons, List.not_mem_nil, or_false] at hname
  rcases hname with rfl | rfl
  · exact ⟨.libclang, by decide, rfl⟩
  · exact ⟨.executable, by decide, rfl⟩

theorem restorePolicy_known {v : Value} (h : Setting.restorePolicy.accepts v = true) :
    ∃ policy, Choice.ofValue RestorePolicy.ofName? v = .known policy ∧ v = .text policy.name := by
  refine choice_ofValue_known (fun name hname => ?_) h
  simp only [restorePolicyNames, List.mem_cons, List.not_mem_nil, or_false] at hname
  rcases hname with rfl | rfl
  · exact ⟨.always, by decide, rfl⟩
  · exact ⟨.onSuccess, by decide, rfl⟩

/-! ### Writing a configuration as a mapping -/

/-- The bindings of a section in which every setting is bound. -/
def sectionOfValues (value : Setting → Value) (name : String) : Fields :=
  Fields.ofItems Setting.key (fun s => some (value s)) (Setting.ofSection name)

/-- Configuration data in which every setting is bound. -/
def dataOfValues (value : Setting → Value) : Fields :=
  Fields.ofItems id (fun name => some (.map (sectionOfValues value name))) sectionNames

section Writing

variable {value : Setting → Value} {fields : Fields}

theorem sectionValue_eq_ok {items : List Setting} :
    sectionValue none (items.map fun s => (s.key, value s)) = .ok fields ↔
      (∀ s ∈ items, (value s).canBeCopied = true) ∧
        fields = Fields.ofItems Setting.key (fun s => some (value s)) items := by
  unfold sectionValue
  induction items generalizing fields with
  | nil =>
    rw [List.map_nil, List.mapM_nil, Except.pure_eq_ok]
    exact ⟨fun h => ⟨by simp, h.symm⟩, fun h => h.2.symm⟩
  | cons s items ih =>
    rw [List.map_cons, List.mapM_cons, List.forall_mem_cons]
    by_cases hcopied : (value s).canBeCopied = true
    · have hhead : copied (value s) = .ok (value s) := if_pos hcopied
      simp only [hhead, Except.ok_bind, pure_bind, Except.bind_eq_ok, Except.pure_eq_ok, ih, hcopied, true_and]
      constructor
      · rintro ⟨_, ⟨hrest, rfl⟩, rfl⟩
        exact ⟨hrest, rfl⟩
      · rintro ⟨hrest, rfl⟩
        exact ⟨_, ⟨hrest, rfl⟩, rfl⟩
    · have hhead : copied (value s) = .error .tooDeep := if_neg hcopied
      simp [hhead, hcopied]

/-- Binding a setting again to its value changes nothing. -/
theorem sectionValue_put {items : List Setting} {s : Setting} (hitems : items.Nodup) (hs : s ∈ items) :
    (sectionValue none (items.map fun s => (s.key, value s)) >>= fun fields =>
      pure (fields.put (.text s.key) (value s))) = sectionValue none (items.map fun s => (s.key, value s)) := by
  cases hsection : sectionValue none (items.map fun s => (s.key, value s)) with
  | error failure => rfl
  | ok fields =>
    obtain ⟨_, rfl⟩ := sectionValue_eq_ok.mp hsection
    have hbound : Fields.get? (Fields.ofItems Setting.key (fun s => some (value s)) items) s.key = some (value s) :=
      Fields.get?_ofItems (fun _ _ => Setting.key_injective) hitems hs
    rw [Except.ok_bind, Fields.put_self hbound]
    rfl

theorem toFields_tools (h : Setting.symbolSource.accepts (value .symbolSource) = true) :
    (ToolSettings.ofValues value).toFields =
      sectionValue none ((Setting.ofSection "tools").map fun s => (s.key, value s)) := by
  obtain ⟨kind, hkind, hname⟩ := symbolSource_known h
  have hsource : (ToolSettings.ofValues value).symbolSource = .known kind := hkind
  have hmem : Setting.symbolSource ∈ Setting.ofSection "tools" := by decide
  rw [← sectionValue_put (nodup_ofSection _) hmem, ToolSettings.toFields, hsource, Choice.held, ← hname]
  simp only [Choice.value, ← hname]
  rfl

theorem toFields_rename : (RenameSettings.ofValues value).toFields =
    sectionValue none ((Setting.ofSection "rename").map fun s => (s.key, value s)) := rfl

theorem toFields_bundle (h : Setting.restorePolicy.accepts (value .restorePolicy) = true) :
    (BundleSettings.ofValues value).toFields =
      sectionValue none ((Setting.ofSection "bundle").map fun s => (s.key, value s)) := by
  obtain ⟨policy, hpolicy, hname⟩ := restorePolicy_known h
  have hsource : (BundleSettings.ofValues value).restorePolicy = .known policy := hpolicy
  have hmem : Setting.restorePolicy ∈ Setting.ofSection "bundle" := by decide
  rw [← sectionValue_put (nodup_ofSection _) hmem, BundleSettings.toFields, hsource, Choice.held, ← hname]
  simp only [Choice.value, ← hname]
  rfl

/-- A configuration whose enumerated settings are members can be written exactly if all of its values can be copied, and
then every setting is bound to its value. -/
theorem toValue_eq_ok (hsource : Setting.symbolSource.accepts (value .symbolSource) = true)
    (hpolicy : Setting.restorePolicy.accepts (value .restorePolicy) = true) {v : Value} :
    (Settings.ofValues value).toValue = .ok v ↔
      (∀ s, (value s).canBeCopied = true) ∧ v = .map (dataOfValues value) := by
  unfold Settings.toValue Settings.ofValues
  dsimp only
  rw [toFields_tools hsource, toFields_rename, toFields_bundle hpolicy]
  simp only [Except.bind_eq_ok, Except.pure_eq_ok, sectionValue_eq_ok, Setting.mem_ofSection]
  constructor
  · rintro ⟨_, ⟨htools, rfl⟩, _, ⟨hrename, rfl⟩, _, ⟨hbundle, rfl⟩, rfl⟩
    refine ⟨fun s => ?_, rfl⟩
    have hsection := sectionName_mem s
    simp only [sectionNames, List.mem_cons, List.not_mem_nil, or_false] at hsection
    rcases hsection with hs | hs | hs
    · exact htools s hs
    · exact hrename s hs
    · exact hbundle s hs
  · rintro ⟨hcopied, rfl⟩
    exact ⟨_, ⟨fun s _ => hcopied s, rfl⟩, _, ⟨fun s _ => hcopied s, rfl⟩, _, ⟨fun s _ => hcopied s, rfl⟩, rfl⟩

end Writing

/-! ### Reading it again -/

section Reading

variable {value : Setting → Value} {name : String}

theorem get?_dataOfValues (hname : name ∈ sectionNames) :
    (dataOfValues value).get? name = some (.map (sectionOfValues value name)) :=
  Fields.get?_ofItems Function.injective_id nodup_sectionNames hname

theorem sectionBindings_dataOfValues (hname : name ∈ sectionNames) :
    sectionBindings (dataOfValues value) name = sectionOfValues value name := by
  rw [sectionBindings, get?_dataOfValues hname]
  rfl

theorem boundIn_dataOfValues (s : Setting) : boundIn (dataOfValues value) s = some (value s) := by
  rw [boundIn, sectionBindings_dataOfValues (sectionName_mem s)]
  exact Fields.get?_ofItems (fun _ _ => Setting.key_injective) (nodup_ofSection _) (Setting.mem_ofSection.mpr rfl)

theorem namedSections_dataOfValues : NamedSections (dataOfValues value) := by
  intro name hname
  rw [sectionBindings_dataOfValues hname]
  exact .ofItems (fun _ _ => Setting.key_injective) (nodup_ofSection _)

theorem plainSections_dataOfValues : PlainSections (dataOfValues value) := by
  intro name hname
  rw [sectionBindings_dataOfValues hname]
  exact plainKeys_ofItems _ _

theorem accepted_dataOfValues (h : Acceptable value) : ∀ name ∈ sectionNames, Accepted (dataOfValues value) name := by
  intro name hname container hget
  rw [get?_dataOfValues hname] at hget
  obtain rfl := Option.some.inj hget
  intro s _ v hbound
  obtain ⟨t, _, hvalue, hkey⟩ := Fields.mem_ofItems.mp (Fields.mem_of_get? hbound)
  obtain rfl := Setting.key_injective (Value.text.inj hkey)
  obtain rfl := Option.some.inj hvalue
  exact h s

theorem bindable_of_key {b : Value × Value} {s : Setting} (h : b.1 = .text s.key) : Bindable b := by
  refine ⟨s.key, h, ?_, ?_, fun hdict => absurd hdict ?_⟩ <;> cases s <;> decide

theorem completable_dataOfValues : Completable (dataOfValues value) := by
  intro name hname container hget
  rw [get?_dataOfValues hname] at hget
  obtain rfl := Option.some.inj hget
  constructor
  · intro b hb
    obtain ⟨s, _, _, hkey⟩ := Fields.mem_ofItems.mp hb
    exact bindable_of_key hkey
  · -- no setting has the key that asks for the line end
    rintro _ before v after heq
    have hmem : (Value.text "newline", v) ∈ sectionOfValues value name := by simp [heq]
    obtain ⟨s, _, _, hkey⟩ := Fields.mem_ofItems.mp hmem
    cases s <;> exact absurd (Value.text.inj hkey) (by decide)

theorem validate_dataOfValues (h : Acceptable value) : validate (.map (dataOfValues value)) = .ok () :=
  validate_eq_ok.mpr (accepted_dataOfValues h)

theorem fill_dataOfValues (h : Acceptable value) : fill (dataOfValues value) = .ok (.ofValues value) := by
  obtain ⟨c, hc⟩ :=
    (fill_passes namedSections_dataOfValues (accepted_dataOfValues h)).1 completable_dataOfValues
  have heq := fill_eq_ok namedSections_dataOfValues plainSections_dataOfValues hc
  simp only [boundIn_dataOfValues, Option.getD_some] at heq
  rw [hc, heq]

end Reading

/-! ### Loaded configurations -/

/-- A configuration that can be worked with and stays what it is when it is written and read. -/
structure Usable (c : Settings) : Prop where
  symbolSource : ∃ kind, c.tools.symbolSource = .known kind
  restorePolicy : ∃ policy, c.bundle.restorePolicy = .known policy
  lineEnding : ∃ name ∈ lineEndingNames, c.rename.lineEnding = .text name
  newline : ∃ eol, c.rename.newline = .ok eol
  backupSuffix : ∃ suffix, c.rename.backupSuffix = .text suffix ∧ isBlankText suffix = false
  mergeTimeout : c.bundle.mergeTimeout = .null ∨ c.bundle.mergeTimeout = .float .nan ∨ AboveZero c.bundle.mergeTimeout
  /-- It is written as a mapping exactly if the values in it can be copied. -/
  written : (∃ v, c.toValue = .ok v) ↔ ∀ s, (c.value s).canBeCopied = true
  /-- The mapping is accepted by validation and fills in to the configuration. -/
  again : ∀ v, c.toValue = .ok v → ∃ fields, v = .map fields ∧ validate (.map fields) = .ok () ∧ fill fields = .ok c

theorem usable_of_acceptable {value : Setting → Value} (h : Acceptable value) : Usable (.ofValues value) where
  symbolSource := (symbolSource_known (h .symbolSource)).imp fun _ => And.left
  restorePolicy := (restorePolicy_known (h .restorePolicy)).imp fun _ => And.left
  lineEnding := isOneOf_iff.mp (h .lineEnding)
  newline := newline_eq_ok_iff.mpr (h .lineEnding)
  backupSuffix := backupSuffix_accepts (h .backupSuffix)
  mergeTimeout := mergeTimeout_accepts (h .mergeTimeout)
  written := by
    simp only [toValue_eq_ok (h _) (h _), Settings.value_ofValues, exists_and_left, exists_eq, and_true]
  again := by
    intro v hv
    obtain ⟨_, rfl⟩ := (toValue_eq_ok (h _) (h _)).mp hv
    exact ⟨_, rfl, validate_dataOfValues h, fill_dataOfValues h⟩

theorem acceptable_of_accepted {data : Fields} (h : ∀ name ∈ sectionNames, Accepted data name) :
    Acceptable fun s => (boundIn data s).getD s.default := by
  intro s
  dsimp only
  cases hbound : boundIn data s with
  | none => exact s.accepts_default
  | some v => exact accepts_of_boundIn (h _ (sectionName_mem s)) hbound

/-- A configuration that was loaded with validation from a JSON file with plain keys is usable. -/
theorem load_usable {path : Option String} {useEnvironment : Bool} {w w' : World} {c : Settings}
    (hjson : ∀ p, chosenFile path w = some p → isYamlName p = false)
    (hplain : ∀ file, ((fileData path).runIn w).1 = .ok file → PlainSections file)
    (h : (load path useEnvironment true).runIn w = (.ok c, w')) : Usable c := by
  obtain ⟨file, _, _, hvalid, rfl⟩ := load_filled hjson hplain h
  exact usable_of_acceptable (acceptable_of_accepted (validate_eq_ok.mp (hvalid rfl)))

/-- The line ending is from the file and the timeout from the environment, and what was loaded can be written. -/
theorem load_usable_mixed :
    let w := { Bundler.smallWorld [(["c.json"], Bundler.textFile "\x7b\"rename\":\x7b\"line_ending\":\"lf\"\x7d\x7d")] with
      environment := [("BUNDLECXX_MERGE_TIMEOUT", "1")] }
    ∃ c w', (load (some "c.json") true true).runIn w = (.ok c, w') ∧ Usable c ∧ c.rename.lineEnding.shown = "lf" ∧
      c.bundle.mergeTimeout.shown = "1.0" ∧ ∃ v, c.toValue = .ok v := by
  intro w
  have hjson : ∀ p, chosenFile (some "c.json") w = some p → isYamlName p = false :=
    not_yaml_of_given (by decide) (by decide) w
  obtain ⟨hsections, hshown⟩ :
      (((fileData (some "c.json")).runIn w).1.toOption.all fun file => PlainSections file) = true ∧
      ((load (some "c.json") true true).runIn w).1.toOption.map (fun c =>
        (c.rename.lineEnding.shown, c.bundle.mergeTimeout.shown, c.toValue.isOk)) = some ("lf", "1.0", true) := by
    decide +kernel
  have hplain := plainSections_of_read hsections
  obtain ⟨c, w', hrun, hread⟩ := Except.exists_of_map_toOption hshown
  simp only [Prod.mk.injEq] at hread
  obtain ⟨hending, htimeout, hwritten⟩ := hread
  exact ⟨c, w', hrun, load_usable hjson hplain hrun, hending, htimeout, Except.isOk_iff.mp hwritten⟩

/-- A timeout that is not a number passes validation, although it is no number above zero. -/
theorem nan_timeout_accepted :
    let w := { Bundler.smallWorld [(["c.json"], Bundler.textFile "\x7b\x7d")] with
      environment := [("BUNDLECXX_MERGE_TIMEOUT", "nan")] }
    ∃ c w', (load (some "c.json") true true).runIn w = (.ok c, w') ∧
      ¬ (c.bundle.mergeTimeout = .null ∨ AboveZero c.bundle.mergeTimeout) := by
  intro w
  have hnan : ((load (some "c.json") true true).runIn w).1.toOption.map (fun c => isNan c.bundle.mergeTimeout) =
      some true := by decide +kernel
  obtain ⟨c, w', hrun, hread⟩ := Except.exists_of_map_toOption hnan
  refine ⟨c, w', hrun, ?_⟩
  rw [isNan_iff.mp hread]
  exact not_aboveZero_nan

end Amalgam.Config
