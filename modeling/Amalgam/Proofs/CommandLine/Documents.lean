import Amalgam.Proofs.Bundle.Output
import Amalgam.Proofs.CommandLine.Silence
import Amalgam.Proofs.Json.Writing
/-!
# The documents of the workflows

What a workflow notes about itself are texts, truth values, counts, and lists and mappings of these. So every result has a
JSON document in the standard itself, whether it reports success or not.
-/

namespace Amalgam

open Amalgam.Json Amalgam.Symbols

namespace Action

variable {α β : Type}

/-- Every result that the action ends with has a property. -/
def Yields (prop : α → Prop) (a : Action α) : Prop :=
  ∀ w x w', a.runIn w = (.ok x, w') → prop x

namespace Yields

variable {prop : β → Prop}

theorem pure {x : β} (h : prop x) : (Pure.pure x : Action β).Yields prop := by
  rintro w _ _ ⟨⟩
  exact h

theorem throw (failure : Failure) : (MonadExcept.throw failure : Action β).Yields prop := by
  rintro w _ _ ⟨⟩

theorem ofExcept {ε : Type} (failure : ε → Failure) {e : Except ε β} (h : ∀ x, e = .ok x → prop x) :
    (Action.ofExcept failure e).Yields prop :=
  fun _ x _ hrun => h x (runIn_ofExcept_eq_ok hrun).1

theorem bind {a : Action α} {f : α → Action β} (hf : ∀ x, (f x).Yields prop) : (a >>= f).Yields prop := by
  intro w y w' h
  obtain ⟨x, w₁, _, hrun⟩ := runIn_bind_eq_ok h
  exact hf x w₁ y w' hrun

/-- What follows an attempt gets the results of the action or its failures. -/
theorem attempt_bind {held : α → Prop} {a : Action α} {f : Except Failure α → Action β} (ha : a.Yields held)
    (hok : ∀ x, held x → (f (.ok x)).Yields prop) (herror : ∀ failure, (f (.error failure)).Yields prop) :
    (a.attempt >>= f).Yields prop := by
  intro w y w' h
  have hattempt : a.attempt.runIn w = (.ok (a.runIn w).1, (a.runIn w).2) := rfl
  rw [runIn_bind_ok hattempt] at h
  rcases hrun : a.runIn w with ⟨failure | x, w₁⟩
  · rw [hrun] at h
    exact herror failure w₁ y w' h
  · rw [hrun] at h
    exact hok x (ha w x w₁ hrun) w₁ y w' h

end Yields

end Action

/-! ### Values that the standard has a text for -/

section Standard

variable {fields : Fields}

theorem sayable_null : Sayable .standard .null :=
  .null (by simp [Dialect.standard])

theorem sayable_bool (b : Bool) : Sayable .standard (.bool b) :=
  .bool b (by cases b <;> simp [Dialect.standard])

theorem sayable_nat (n : Nat) : Sayable .standard (.int n) :=
  .int n trivial

theorem sayable_optionalText (s : Option String) : Sayable .standard (Report.optionalText s) := by
  cases s with
  | none => exact sayable_null
  | some s => exact .text s

theorem sayable_texts (items : List String) : Sayable .standard (Report.texts items) := by
  refine .list fun v hv => ?_
  obtain ⟨s, _, rfl⟩ := List.mem_map.mp hv
  exact .text s

/-- A mapping whose bindings come from a list. -/
theorem sayable_bindings {ι : Type} {nameOf : ι → String} {value : ι → Value}
    (h : ∀ x, Sayable .standard (value x)) (items : List ι) :
    Sayable .standard (.map (items.map fun x => (.text (nameOf x), value x))) := by
  refine .map (fun b hb => ?_) fun b hb => ?_
  · obtain ⟨x, _, rfl⟩ := List.mem_map.mp hb
    exact ⟨nameOf x, rfl⟩
  · obtain ⟨x, _, rfl⟩ := List.mem_map.mp hb
    exact h x

theorem sayable_cons {name : String} {v : Value} (hv : Sayable .standard v) (h : Sayable .standard (.map fields)) :
    Sayable .standard (.map ((.text name, v) :: fields)) := by
  cases h with
  | map hkeys hall => exact .map (List.forall_mem_cons.mpr ⟨⟨name, rfl⟩, hkeys⟩) (List.forall_mem_cons.mpr ⟨hv, hall⟩)

theorem sayable_nil : Sayable .standard (.map []) :=
  .map (by simp) (by simp)

theorem sayable_put {name : String} {v : Value} (hv : Sayable .standard v) (h : Sayable .standard (.map fields)) :
    Sayable .standard (.map (fields.put (.text name) v)) := by
  cases h with
  | map hkeys hall =>
    refine .map (fun b hb => ?_) fun b hb => ?_
    · rcases Fields.mem_put hb with hb | rfl
      · exact hkeys b hb
      · exact ⟨name, rfl⟩
    · rcases Fields.mem_put hb with hb | rfl
      · exact hall b hb
      · exact hv

end Standard

/-! ### What the workflows note -/

namespace Bundler

theorem sayable_plannedValue (p : Plan) : Sayable .standard (plannedValue p) := by
  refine sayable_bindings (fun group => .list fun v hv => ?_) p
  obtain ⟨e, _, rfl⟩ := List.mem_map.mp hv
  exact sayable_cons (.text _) (sayable_cons (.text _) sayable_nil)

theorem robust_sayable : Robust (fun result => Sayable .standard (.map result.metadata)) :=
  ⟨fun _ _ _ h => h, fun _ h => sayable_put (.text _) h, fun p h => sayable_put (sayable_plannedValue p) h⟩

theorem bundle_yields (b : Bundler) (source table output : Option String) (args : List String) (dryRun : Bool) :
    (b.bundle source table output args dryRun).Yields fun result => Sayable .standard (.map result.metadata) := by
  intro w result w' h
  have hkeeps := bundleWork_keepsResult robust_sayable (fun _ h => h) b source table output args dryRun
    (freshResult dryRun) w sayable_nil
  rw [bundle_runIn] at h
  rcases hrun : (b.bundleWork source table output args dryRun).runIn (freshResult dryRun) w with
    ⟨⟨failure | ⟨⟩, result₀⟩, w₁⟩
  all_goals rw [hrun] at h hkeeps
  · unfold concluded at h
    dsimp only at h
    split at h
    · obtain rfl := Except.ok.inj (Prod.mk.inj h).1
      exact hkeeps
    · cases h
  · cases h
    exact hkeeps

theorem listInto_yields (b : Bundler) (source table : Option String) (args : List String) :
    (b.listInto source table args).Yields fun result => Sayable .standard (.map result.metadata) := by
  refine .bind fun path => .bind fun _ => ?_
  extract_lets rest
  have hrest : ∀ csv, (rest csv).Yields fun result => Sayable .standard (.map result.metadata) := by
    intro csv
    refine .bind fun _ => .bind fun _ => .bind fun _ => .bind fun _ => .bind fun _ => .bind fun groups => .pure ?_
    refine sayable_cons (.text _) (sayable_cons (.list fun v hv => ?_) sayable_nil)
    obtain ⟨group, _, rfl⟩ := List.mem_map.mp hv
    exact .text group.1
  split
  · exact .bind hrest
  · exact .bind hrest

theorem listSymbols_yields (b : Bundler) (source table : Option String) (args : List String) :
    (b.listSymbols source table args).Yields fun result => Sayable .standard (.map result.metadata) := by
  refine .attempt_bind (listInto_yields b source table args) (fun result h => .pure h) fun failure => ?_
  dsimp only
  split
  · exact .bind fun _ => .pure sayable_nil
  · exact .throw failure

end Bundler

/-! ### Reports -/

/-- A value that has a text in the standard and says whether a run succeeded. -/
structure Report.Answer (ok : Bool) (v : Value) : Prop where
  sayable : Sayable .standard v
  success : ∃ fields : Fields, v = .map fields ∧ fields.Named ∧ fields.get? "success" = some (.bool ok)

namespace Report

theorem answer_bundleValue {r : BundleResult} (h : Sayable .standard (.map r.metadata)) :
    Answer r.success (bundleValue r) := by
  have hrenames : Sayable .standard (renamesValue r.renames) := by
    refine sayable_bindings (fun file => ?_) r.renames
    exact sayable_bindings (fun count => sayable_nat count.2) file.2
  refine ⟨?_, _, rfl, ⟨by simp, by simp⟩, rfl⟩
  exact sayable_cons (sayable_bool _) (sayable_cons (sayable_bool _) (sayable_cons (sayable_optionalText _)
    (sayable_cons hrenames (sayable_cons (sayable_texts _) (sayable_cons (sayable_texts _) (sayable_cons
      (sayable_texts _) (sayable_cons h sayable_nil)))))))

theorem answer_listingValue {r : ListingResult} {v : Value} (h : Sayable .standard (.map r.metadata))
    (hvalue : listingValue r = .ok v) : Answer r.success v := by
  obtain ⟨groups, _, hv⟩ := Except.bind_eq_ok.mp hvalue
  obtain rfl := Except.ok.inj hv
  refine ⟨?_, _, rfl, ⟨by simp, by simp⟩, rfl⟩
  exact sayable_cons (sayable_bool _) (sayable_cons (sayable_optionalText _) (sayable_cons (sayable_nat _)
    (sayable_cons (sayable_texts _) (sayable_cons (sayable_texts _) (sayable_cons (sayable_texts _)
      (sayable_cons h sayable_nil))))))

theorem answer_cancelled :
    Answer false (.map [(.text "success", .bool false), (.text "error", .text "cancelled_by_user")]) :=
  ⟨sayable_cons (sayable_bool _) (sayable_cons (.text _) sayable_nil), _, rfl, ⟨by simp, by simp⟩, rfl⟩

theorem answer_failed (message command : String) :
    Answer false (.map
      [(.text "success", .bool false), (.text "error", .text message), (.text "command", .text command)]) :=
  ⟨sayable_cons (sayable_bool _) (sayable_cons (.text _) (sayable_cons (.text _) sayable_nil)), _, rfl,
    ⟨by simp, by simp⟩, rfl⟩

end Report

end Amalgam
