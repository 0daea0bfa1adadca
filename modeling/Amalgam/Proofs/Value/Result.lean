import Amalgam.Failure
import Mathlib.Tactic.Common
/-!
# Results

How a computation in steps succeeds or fails: it succeeds when every step does, and a failure comes from the first step
that has one. Over a list, what every step keeps holds in the end.
-/

namespace Except

variable {ε ε' α β : Type}

@[simp] theorem ok_bind (a : α) (f : α → Except ε β) : (Except.ok a >>= f) = f a := rfl

@[simp] theorem error_bind (e : ε) (f : α → Except ε β) : (Except.error e >>= f) = .error e := rfl

@[simp] theorem pure_eq_ok {a b : α} : (pure a : Except ε α) = .ok b ↔ a = b := by
  simp [pure, Except.pure]

@[simp] theorem throw_ne_ok {e : ε} {a : α} : (throw e : Except ε α) ≠ .ok a := by
  simp [throw, throwThe, MonadExceptOf.throw]

theorem bind_eq_ok {x : Except ε α} {f : α → Except ε β} {b : β} :
    x >>= f = .ok b ↔ ∃ a, x = .ok a ∧ f a = .ok b := by
  cases x <;> simp

@[simp] theorem mapError_eq_ok {failure : ε → ε'} {x : Except ε α} {a : α} :
    x.mapError failure = .ok a ↔ x = .ok a := by
  cases x <;> simp [Except.mapError]

theorem toOption_eq_some {x : Except ε α} {a : α} : x.toOption = some a ↔ x = .ok a := by
  cases x <;> simp [Except.toOption]

theorem isOk_iff {x : Except ε α} : x.isOk = true ↔ ∃ a, x = .ok a := by
  cases x <;> simp [Except.isOk, Except.toBool]

instance decidableReturns (x : Except ε α) : Decidable (∃ a, x = .ok a) :=
  decidable_of_iff _ isOk_iff

/-- When something can be read off the value that a run ends with, it ends with one. -/
theorem exists_of_map_toOption {σ : Type} {ran : Except ε α × σ} {f : α → β} {b : β}
    (h : ran.1.toOption.map f = some b) : ∃ a s, ran = (.ok a, s) ∧ f a = b := by
  obtain ⟨a, hended, hread⟩ := Option.map_eq_some_iff.mp h
  exact ⟨a, ran.2, Prod.ext (toOption_eq_some.mp hended) rfl, hread⟩

/-! ### One after the other -/

variable {f : α → Except ε Unit} {a : α} {items : List α}

theorem forM_nil : ([] : List α).forM f = .ok () := rfl

theorem forM_cons : (a :: items).forM f = (f a >>= fun _ => items.forM f) := rfl

theorem forM_singleton : [a].forM f = f a := by
  rw [forM_cons]
  cases f a <;> rfl

theorem forM_eq_ok : items.forM f = .ok () ↔ ∀ a ∈ items, f a = .ok () := by
  induction items with
  | nil => simp [forM_nil]
  | cons a items ih =>
    rw [forM_cons, bind_eq_ok, List.forall_mem_cons, ← ih]
    exact ⟨fun ⟨_, ha, hrest⟩ => ⟨ha, hrest⟩, fun ⟨ha, hrest⟩ => ⟨(), ha, hrest⟩⟩

variable {g : α → Except ε β}

theorem mapM_cons_eq_ok {bs : List β} :
    (a :: items).mapM g = .ok bs ↔ ∃ b rest, g a = .ok b ∧ items.mapM g = .ok rest ∧ bs = b :: rest := by
  rw [List.mapM_cons, bind_eq_ok]
  refine exists_congr fun b => ?_
  rw [bind_eq_ok]
  simp only [pure_eq_ok, eq_comm (a := bs), exists_and_left]

theorem mapM_returns_iff : (∃ bs, items.mapM g = .ok bs) ↔ ∀ a ∈ items, ∃ b, g a = .ok b := by
  induction items with
  | nil => exact ⟨fun _ _ ha => absurd ha List.not_mem_nil, fun _ => ⟨[], rfl⟩⟩
  | cons a items ih =>
    rw [List.forall_mem_cons, ← ih]
    constructor
    · rintro ⟨bs, hbs⟩
      obtain ⟨b, rest, ha, hrest, _⟩ := mapM_cons_eq_ok.mp hbs
      exact ⟨⟨b, ha⟩, rest, hrest⟩
    · rintro ⟨⟨b, ha⟩, rest, hrest⟩
      exact ⟨b :: rest, mapM_cons_eq_ok.mpr ⟨b, rest, ha, hrest, rfl⟩⟩

theorem exists_of_mem_mapM {bs : List β} {b : β} (h : items.mapM g = .ok bs) (hb : b ∈ bs) :
    ∃ a ∈ items, g a = .ok b := by
  induction items generalizing bs with
  | nil =>
    rw [List.mapM_nil, pure_eq_ok] at h
    exact absurd (h ▸ hb) List.not_mem_nil
  | cons a items ih =>
    obtain ⟨b', rest, ha, hrest, rfl⟩ := mapM_cons_eq_ok.mp h
    rcases List.mem_cons.mp hb with rfl | hb
    · exact ⟨a, List.mem_cons_self, ha⟩
    · obtain ⟨x, hx, hfx⟩ := ih hrest hb
      exact ⟨x, List.mem_cons_of_mem _ hx, hfx⟩

end Except
