import Amalgam.Config.Merge
import Amalgam.Proofs.Value.Bindings
/-!
# Configurations in layers

Merging is told name by name: a name that the later mapping binds is bound to the later value, laid over the earlier one,
and any other name is bound to what it was. Where the later configuration has nothing but sections, each section of the
merged one is the two sections merged, whatever else the configurations bind.
-/

namespace Amalgam.Config

variable {earlier later : Fields} {v : Value} {name : String}

theorem overlay_none (v : Value) : overlay none v = v := by
  cases v <;> simp [overlay]

theorem overlay_of_ne_map (h : ∀ fields, v ≠ .map fields) (earlier : Option Value) : overlay earlier v = v := by
  rw [overlay]
  exact h

theorem get?_mergeInto (h : later.Named) (earlier : Fields) (name : String) :
    (mergeInto earlier later).get? name =
      match later.get? name with
      | some v => some (overlay (earlier.get? name) v)
      | none => earlier.get? name := by
  induction later generalizing earlier with
  | nil => rw [mergeInto]; rfl
  | cons b rest ih =>
    obtain ⟨key, v⟩ := b
    obtain ⟨bound, rfl⟩ : ∃ bound, key = .text bound := h.texts _ List.mem_cons_self
    rw [mergeInto, ih h.tail]
    by_cases hname : name = bound
    · subst hname
      rw [h.get?_tail, Fields.get?_cons_self, Fields.get?_put_self]
      rfl
    · have hkey : Value.text bound ≠ .text name := fun h => hname (Value.text.inj h).symm
      rw [Fields.get?_cons_other hkey, Fields.get?_put_other hkey]

/-- A mapping laid over bindings of other keys goes behind them as it is. -/
theorem mergeInto_eq_append (h : (later.map Prod.fst).Pairwise fun key key' => key.sameKey key' = false)
    (hnew : ∀ key ∈ later.map Prod.fst, earlier.find? key = none) : mergeInto earlier later = earlier ++ later := by
  induction later generalizing earlier with
  | nil => rw [mergeInto, List.append_nil]
  | cons b rest ih =>
    obtain ⟨key, v⟩ := b
    obtain ⟨hfirst, hrest⟩ := List.pairwise_cons.mp h
    have hfind : earlier.find? key = none := hnew key List.mem_cons_self
    rw [mergeInto, hfind, overlay_none, Fields.put_of_find?_eq_none hfind, ih hrest]
    · rw [List.append_assoc, List.singleton_append]
    · intro key' hkey'
      rw [Fields.find?_append, hnew key' (List.mem_cons_of_mem _ hkey'), Option.none_or, Fields.find?_cons,
        if_neg (Bool.not_eq_true _ ▸ hfirst key' hkey')]
      rfl

theorem mergeInto_nil (h : later.Named) : mergeInto [] later = later :=
  mergeInto_eq_append h.distinct fun _ _ => rfl

theorem named_mergeInto (hearlier : earlier.Named) (hlater : later.Named) : (mergeInto earlier later).Named := by
  induction later generalizing earlier with
  | nil => rwa [Config.mergeInto]
  | cons b rest ih =>
    obtain ⟨key, v⟩ := b
    obtain ⟨bound, rfl⟩ : ∃ bound, key = .text bound := hlater.texts _ List.mem_cons_self
    rw [Config.mergeInto]
    exact ih (hearlier.put _ _) hlater.tail

/-! ### Sections -/

/-- The bindings in what a name is bound to; what is no mapping binds nothing. -/
def bindingsOf : Option Value → Fields
  | some (.map fields) => fields
  | _ => []

def sectionBindings (data : Fields) (name : String) : Fields :=
  bindingsOf (data.get? name)

theorem overlay_map {fields : Fields} (h : (fields.map Prod.fst).Pairwise fun key key' => key.sameKey key' = false)
    (earlier : Option Value) : overlay earlier (.map fields) = .map (mergeInto (bindingsOf earlier) fields) := by
  by_cases hearlier : ∃ inner, earlier = some (.map inner)
  · obtain ⟨inner, rfl⟩ := hearlier
    rw [overlay]
    rfl
  · have hother : ∀ inner, earlier = some (.map inner) → False := fun inner heq => hearlier ⟨inner, heq⟩
    rw [overlay, bindingsOf.eq_2 _ hother, mergeInto_eq_append h fun _ _ => rfl, List.nil_append]
    exact hother

/-- A configuration of sections: every name is bound to a mapping with names as keys. -/
structure Sectioned (data : Fields) : Prop where
  named : data.Named
  sections : ∀ name v, data.get? name = some v → ∃ fields : Fields, v = .map fields ∧ fields.Named

theorem Sectioned.sectionBindings_named {data : Fields} (h : Sectioned data) (name : String) :
    (sectionBindings data name).Named := by
  unfold sectionBindings
  cases hget : data.get? name with
  | none => exact .nil
  | some v =>
    obtain ⟨fields, rfl, hnamed⟩ := h.sections name v hget
    exact hnamed

theorem sectionBindings_mergeInto (h : Sectioned later) (earlier : Fields) (name : String) :
    sectionBindings (mergeInto earlier later) name =
      mergeInto (sectionBindings earlier name) (sectionBindings later name) := by
  unfold sectionBindings
  rw [get?_mergeInto h.named]
  cases hlater : later.get? name with
  | none =>
    rw [bindingsOf.eq_2 none (by simp), mergeInto]
  | some v =>
    obtain ⟨fields, rfl, hnamed⟩ := h.sections name v hlater
    exact congrArg (bindingsOf ∘ some) (overlay_map hnamed.distinct _)

end Amalgam.Config
