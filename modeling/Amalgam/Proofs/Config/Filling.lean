import Amalgam.Proofs.Config.Sources
import Amalgam.Proofs.Json.Document
/-!
# Filling a configuration

A section is filled binding by binding. With names as keys, and none of them reserved, each binding sets the setting of
its key and leaves all others alone, so in the end every setting is what its key is bound to, else its default.
-/

namespace Amalgam.Config

open Amalgam.Text

/-! ### Plain keys -/

/-- No key starts with two underscores. -/
def PlainKeys (fields : Fields) : Prop :=
  ∀ key : String, "__".toList <+: key.toList → fields.get? key = none

theorem plainKeys_iff {fields : Fields} :
    PlainKeys fields ↔ ∀ b ∈ fields, match b.1 with | .text key => ¬ "__".toList <+: key.toList | _ => True := by
  constructor
  · rintro h ⟨key, v⟩ hmem
    cases key with
    | text name =>
      intro hreserved
      exact Fields.get?_eq_none_iff.mp (h name hreserved) (List.mem_map_of_mem hmem)
    | _ => trivial
  · intro h key hreserved
    refine Fields.get?_eq_none_iff.mpr fun hmem => ?_
    obtain ⟨b, hb, hkey⟩ := List.mem_map.mp hmem
    have hb' := h b hb
    rw [hkey] at hb'
    exact hb' hreserved

instance (fields : Fields) : Decidable (PlainKeys fields) :=
  have (b : Value × Value) : Decidable (match b.1 with | .text key => ¬ "__".toList <+: key.toList | _ => True) :=
    match b.1 with
    | .text _ => instDecidableNot
    | .null | .bool _ | .int _ | .float _ | .list _ | .map _ | .tuple _ | .set _ | .bytes _ | .date _ | .moment _
    | .enclosing _ => .isTrue trivial
  decidable_of_iff _ plainKeys_iff.symm

theorem PlainKeys.head {name : String} {v : Value} {rest : Fields} (h : PlainKeys ((.text name, v) :: rest)) :
    ¬ "__".toList <+: name.toList := by
  intro hreserved
  have hget := h name hreserved
  rw [Fields.get?_cons_self] at hget
  cases hget

theorem PlainKeys.tail {b : Value × Value} {rest : Fields} (h : PlainKeys (b :: rest)) : PlainKeys rest := by
  intro key hreserved
  have hget := h key hreserved
  rw [Fields.get?_cons] at hget
  split_ifs at hget
  exact hget

theorem plainKeys_ofItems (value : Setting → Option Value) (items : List Setting) :
    PlainKeys (Fields.ofItems Setting.key value items) := by
  intro key hreserved
  by_contra hbound
  obtain ⟨v, hget⟩ := Option.ne_none_iff_exists'.mp hbound
  obtain ⟨s, _, _, hkey⟩ := Fields.mem_ofItems.mp (Fields.mem_of_get? hget)
  obtain rfl : key = s.key := Value.text.inj hkey
  cases s <;> exact absurd hreserved (by decide)

theorem reserved?_eq_none {name : String} (h : ¬ "__".toList <+: name.toList) (kind : String) (v : Value) :
    reserved? kind name v = .ok none := by
  unfold reserved?
  split
  case h_5 => rfl
  all_goals exact absurd (by decide) h

/-! ### One binding -/

/-- The values after a key is bound. -/
def rebound (name : String) (v : Value) (value : Setting → Value) : Setting → Value :=
  fun s => if name = s.key then v else value s

theorem choice_eq_ok {α : Type} {ofName? : String → Option α} {enumeration : String} {v : Value} {c : Choice α}
    (h : choice ofName? enumeration v = .ok c) : c = Choice.ofValue ofName? v := by
  unfold choice at h
  split at h
  · next name =>
    cases hname : ofName? name with
    | none => simp [hname] at h
    | some a =>
      rw [hname] at h
      rw [Choice.ofValue, hname]
      exact (Except.ok.inj h).symm
  · next hother =>
    obtain rfl := Except.ok.inj h
    rw [Choice.ofValue]
    exact hother

section Steps

variable {name : String} {v : Value} {value : Setting → Value}

theorem fillTools_ofValues {filled : ToolSettings} (hname : ¬ "__".toList <+: name.toList)
    (h : fillTools (.ofValues value) (.text name, v) = .ok filled) : filled = .ofValues (rebound name v value) := by
  unfold fillTools at h
  simp only [settingName, reserved?_eq_none hname, Except.mapError, Except.ok_bind] at h
  split at h
  case h_4 =>
    obtain ⟨c, hc, heq⟩ := Except.bind_eq_ok.mp h
    obtain rfl := choice_eq_ok hc
    obtain rfl := Except.pure_eq_ok.mp heq
    simp [ToolSettings.ofValues, rebound, Setting.key]
  all_goals
    obtain rfl := Except.pure_eq_ok.mp h
    simp_all [ToolSettings.ofValues, rebound, Setting.key]

theorem fillRename_ofValues {filled : RenameSettings} (hname : ¬ "__".toList <+: name.toList)
    (h : fillRename (.ofValues value) (.text name, v) = .ok filled) : filled = .ofValues (rebound name v value) := by
  unfold fillRename at h
  simp only [settingName, reserved?_eq_none hname, Except.mapError, Except.ok_bind] at h
  split at h
  case h_4 =>
    obtain ⟨_, _, heq⟩ := Except.bind_eq_ok.mp h
    obtain rfl := Except.pure_eq_ok.mp heq
    simp [RenameSettings.ofValues, rebound, Setting.key]
  all_goals
    obtain rfl := Except.pure_eq_ok.mp h
    simp_all [RenameSettings.ofValues, rebound, Setting.key]

theorem fillBundle_ofValues {filled : BundleSettings} (hname : ¬ "__".toList <+: name.toList)
    (h : fillBundle (.ofValues value) (.text name, v) = .ok filled) : filled = .ofValues (rebound name v value) := by
  unfold fillBundle at h
  simp only [settingName, reserved?_eq_none hname, Except.mapError, Except.ok_bind] at h
  split at h
  case h_1 =>
    obtain ⟨c, hc, heq⟩ := Except.bind_eq_ok.mp h
    obtain rfl := choice_eq_ok hc
    obtain rfl := Except.pure_eq_ok.mp heq
    simp [BundleSettings.ofValues, rebound, Setting.key]
  all_goals
    obtain rfl := Except.pure_eq_ok.mp h
    simp_all [BundleSettings.ofValues, rebound, Setting.key]

end Steps

/-! ### A whole section -/

/-- Where every plain binding rebinds its key and nothing else, a section ends up with what its keys are bound to. -/
theorem foldlM_ofValues {σ : Type} {step : σ → Value × Value → Except Failure σ} {ofValues : (Setting → Value) → σ}
    (hstep : ∀ {name : String} {v : Value} {value : Setting → Value} {filled : σ}, ¬ "__".toList <+: name.toList →
      step (ofValues value) (.text name, v) = .ok filled → filled = ofValues (rebound name v value))
    {fields : Fields} (hnamed : fields.Named) (hplain : PlainKeys fields) {value : Setting → Value} {filled : σ}
    (h : fields.foldlM step (ofValues value) = .ok filled) :
    filled = ofValues fun s => (fields.get? s.key).getD (value s) := by
  induction fields generalizing value with
  | nil => exact (Except.pure_eq_ok.mp h).symm
  | cons b rest ih =>
    obtain ⟨key, v⟩ := b
    obtain ⟨name, rfl⟩ : ∃ name, key = .text name := hnamed.texts _ List.mem_cons_self
    rw [List.foldlM_cons] at h
    obtain ⟨next, hnext, hrest⟩ := Except.bind_eq_ok.mp h
    obtain rfl := hstep hplain.head hnext
    rw [ih hnamed.tail hplain.tail hrest]
    congr 1
    funext s
    by_cases hkey : name = s.key
    · rw [← hkey, hnamed.get?_tail, Fields.get?_cons_self, rebound, if_pos hkey]
      rfl
    · rw [rebound, if_neg hkey, Fields.get?_cons_other fun heq => hkey (Value.text.inj heq)]

theorem sectionFields_eq_ok {data fields : Fields} {name : String} (h : sectionFields data name = .ok fields) :
    fields = sectionBindings data name := by
  unfold sectionFields at h
  unfold sectionBindings
  split at h
  case h_1 hget => rw [hget]; exact (Except.ok.inj h).symm
  case h_2 hget => rw [hget]; exact (Except.ok.inj h).symm
  case h_3 => cases h

/-- The sections of configuration data have distinct names as keys. -/
def NamedSections (data : Fields) : Prop :=
  ∀ name ∈ sectionNames, (sectionBindings data name).Named

/-- No key in the sections of configuration data starts with two underscores. -/
def PlainSections (data : Fields) : Prop :=
  ∀ name ∈ sectionNames, PlainKeys (sectionBindings data name)

instance (data : Fields) : Decidable (PlainSections data) :=
  inferInstanceAs (Decidable (∀ name ∈ sectionNames, PlainKeys (sectionBindings data name)))

theorem plainSections_of_read {x : Except Failure Fields} (h : (x.toOption.all fun file => PlainSections file) = true)
    (file : Fields) (hfile : x = .ok file) : PlainSections file := by
  subst hfile
  exact of_decide_eq_true h

theorem fill_eq_ok {data : Fields} {c : Settings} (hnamed : NamedSections data) (hplain : PlainSections data)
    (h : fill data = .ok c) : c = .ofValues fun s => (boundIn data s).getD s.default := by
  unfold fill at h
  obtain ⟨toolFields, htools, h⟩ := Except.bind_eq_ok.mp h
  obtain ⟨tools, htools', h⟩ := Except.bind_eq_ok.mp h
  obtain ⟨renameFields, hrename, h⟩ := Except.bind_eq_ok.mp h
  obtain ⟨rename, hrename', h⟩ := Except.bind_eq_ok.mp h
  obtain ⟨bundleFields, hbundle, h⟩ := Except.bind_eq_ok.mp h
  obtain ⟨bundle, hbundle', h⟩ := Except.bind_eq_ok.mp h
  obtain rfl := Except.pure_eq_ok.mp h
  obtain rfl := sectionFields_eq_ok htools
  obtain rfl := sectionFields_eq_ok hrename
  obtain rfl := sectionFields_eq_ok hbundle
  obtain ⟨namedTools, namedRename, namedBundle⟩ := forall_mem_sectionNames.mp hnamed
  obtain ⟨plainTools, plainRename, plainBundle⟩ := forall_mem_sectionNames.mp hplain
  rw [← ToolSettings.ofValues_default] at htools'
  rw [← RenameSettings.ofValues_default] at hrename'
  rw [← BundleSettings.ofValues_default] at hbundle'
  rw [foldlM_ofValues fillTools_ofValues namedTools plainTools htools',
    foldlM_ofValues fillRename_ofValues namedRename plainRename hrename',
    foldlM_ofValues fillBundle_ofValues namedBundle plainBundle hbundle']
  rfl

/-! ### A JSON file under the environment -/

section Layered

variable {file : Fields} {name : String}

theorem sectionBindings_named (h : Json.Document (.map file)) (name : String) :
    (sectionBindings file name).Named := by
  unfold sectionBindings
  cases hget : file.get? name with
  | none => exact .nil
  | some v =>
    unfold bindingsOf
    split
    · next heq =>
      obtain rfl := Option.some.inj heq
      exact (h.of_get? hget).named
    · exact .nil

theorem namedSections_layered (hfile : Json.Document (.map file)) (environment : List (String × String)) :
    NamedSections (layered environment file) := by
  intro name _
  have hsectioned := sectioned_environmentFields environment
  rw [layered_eq hfile.named, sectionBindings_mergeInto hsectioned]
  exact named_mergeInto (sectionBindings_named hfile name) (hsectioned.sectionBindings_named name)

theorem plainSections_layered (hfile : Json.Document (.map file)) (hplain : PlainSections file)
    (environment : List (String × String)) : PlainSections (layered environment file) := by
  intro name hname key hreserved
  have hsectioned := sectioned_environmentFields environment
  rw [layered_eq hfile.named, sectionBindings_mergeInto hsectioned,
    get?_mergeInto (hsectioned.sectionBindings_named name), sectionBindings_environmentFields hname,
    environmentSection, plainKeys_ofItems _ _ key hreserved]
  exact hplain name hname key hreserved

end Layered

/-! ### What a JSON file holds -/

section Inherited

variable {P : Value → Prop} {file : Fields}

theorem decodeFields_inherited (hP : Json.Inherited P) {path : String} {bytes : List UInt8}
    (hpath : isYamlName path = false) (h : decodeFields path bytes = .ok file) : P (.map file) := by
  obtain ⟨glyphs, _, h⟩ := Except.bind_eq_ok.mp h
  obtain ⟨v, hv, h⟩ := Except.bind_eq_ok.mp h
  rw [parseFile, if_neg (by simp [hpath]), Except.mapError_eq_ok] at hv
  cases v with
  | map fields =>
    obtain rfl := Except.ok.inj h
    exact hP.of_parse hv
  | _ => cases h

theorem fileBindings_inherited (hP : Json.Inherited P) {path : Option String} {w : World}
    (hjson : ∀ p, chosenFile path w = some p → isYamlName p = false) (h : fileBindings path w = .ok file) :
    P (.map file) := by
  unfold fileBindings at h
  split at h
  · next p hp =>
    unfold readFields at h
    split_ifs at h
    obtain ⟨bytes, _, hdecode⟩ := Except.bind_eq_ok.mp h
    exact decodeFields_inherited hP (hjson p hp) hdecode
  · obtain rfl := Except.ok.inj h
    exact hP.map .nil (by simp)

theorem fileBindings_document {path : Option String} {w : World}
    (hjson : ∀ p, chosenFile path w = some p → isYamlName p = false) (h : fileBindings path w = .ok file) :
    Json.Document (.map file) :=
  fileBindings_inherited Json.inherited_document hjson h

end Inherited

end Amalgam.Config
