import Amalgam.Value
import Mathlib.Order.Lattice
import Mathlib.Order.Defs.LinearOrder
import Mathlib.Order.MinMax
import Mathlib.Tactic.Common
/-!
# Nesting

How deep a value nests, told by its parts: a list or mapping nests within some depth when that depth is not zero and all
that is in it nests within one level less. A value that is inside of itself nests within no depth.
-/

namespace Amalgam.Value

def Within (d : Nat) (v : Value) : Prop :=
  ∃ n, v.depth? = some n ∧ n ≤ d

variable {d : Nat} {items : List Value} {fields : Fields}

theorem within_scalar {v : Value} (h : v.depth? = some 0) : Within d v :=
  ⟨0, h, Nat.zero_le d⟩

theorem Within.mono {v : Value} {e : Nat} (h : Within d v) (hle : d ≤ e) : Within e v := by
  obtain ⟨n, hn, hnd⟩ := h
  exact ⟨n, hn, hnd.trans hle⟩

theorem canBeCopied_iff {v : Value} : v.canBeCopied = true ↔ Within copyDepth v := by
  simp only [canBeCopied, Option.any_eq_true, decide_eq_true_eq, Within]

theorem deepest?_iff : (∃ n, deepest? items = some n ∧ n ≤ d) ↔ ∀ v ∈ items, Within d v := by
  induction items with
  | nil => simp [deepest?]
  | cons v rest ih =>
    rw [List.forall_mem_cons, ← ih]
    simp only [deepest?, Option.bind_eq_bind, Option.bind_eq_some_iff, Option.pure_def, Option.some.injEq, Within]
    constructor
    · rintro ⟨_, ⟨m, hm, n, hn, rfl⟩, hle⟩
      exact ⟨⟨m, hm, (le_max_left m n).trans hle⟩, n, hn, (le_max_right m n).trans hle⟩
    · rintro ⟨⟨m, hm, hmd⟩, n, hn, hnd⟩
      exact ⟨_, ⟨m, hm, n, hn, rfl⟩, max_le hmd hnd⟩

theorem deepestField?_iff :
    (∃ n, deepestField? fields = some n ∧ n ≤ d) ↔ ∀ b ∈ fields, Within d b.1 ∧ Within d b.2 := by
  induction fields with
  | nil => simp [deepestField?]
  | cons b rest ih =>
    rw [List.forall_mem_cons, ← ih]
    simp only [deepestField?, Option.bind_eq_bind, Option.bind_eq_some_iff, Option.pure_def, Option.some.injEq, Within]
    constructor
    · rintro ⟨_, ⟨k, hk, m, hm, n, hn, rfl⟩, hle⟩
      obtain ⟨hkm, hnd⟩ := max_le_iff.mp hle
      obtain ⟨hkd, hmd⟩ := max_le_iff.mp hkm
      exact ⟨⟨⟨k, hk, hkd⟩, m, hm, hmd⟩, n, hn, hnd⟩
    · rintro ⟨⟨⟨k, hk, hkd⟩, m, hm, hmd⟩, n, hn, hnd⟩
      exact ⟨_, ⟨k, hk, m, hm, n, hn, rfl⟩, max_le (max_le hkd hmd) hnd⟩

theorem within_list : Within d (.list items) ↔ ∃ k, d = k + 1 ∧ ∀ v ∈ items, Within k v := by
  simp only [Within, depth?, Option.map_eq_some_iff]
  constructor
  · rintro ⟨_, ⟨n, hn, rfl⟩, hle⟩
    exact ⟨d - 1, by omega, deepest?_iff.mp ⟨n, hn, by omega⟩⟩
  · rintro ⟨k, rfl, hitems⟩
    obtain ⟨n, hn, hle⟩ := deepest?_iff.mpr hitems
    exact ⟨n + 1, ⟨n, hn, rfl⟩, by omega⟩

theorem within_map : Within d (.map fields) ↔ ∃ k, d = k + 1 ∧ ∀ b ∈ fields, Within k b.1 ∧ Within k b.2 := by
  simp only [Within, depth?, Option.map_eq_some_iff]
  constructor
  · rintro ⟨_, ⟨n, hn, rfl⟩, hle⟩
    exact ⟨d - 1, by omega, deepestField?_iff.mp ⟨n, hn, by omega⟩⟩
  · rintro ⟨k, rfl, hfields⟩
    obtain ⟨n, hn, hle⟩ := deepestField?_iff.mpr hfields
    exact ⟨n + 1, ⟨n, hn, rfl⟩, by omega⟩

end Amalgam.Value
