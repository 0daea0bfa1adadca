import Amalgam.Proofs.Number.Binary64
import Amalgam.Proofs.Value.Bindings
import Mathlib.Data.List.Pairwise

/-!
# One key in several spellings

Keys are compared by value, so a truth value, a whole number and a floating-point number can be one key. Comparing is
symmetric. It is transitive as long as floating-point numbers are in normal form: two of them that are the same whole
number are then the same number. What a mapping binds a key to can therefore be asked with any spelling of the key. Only
what is not a number is no key twice, not even the same as itself.
-/

namespace Amalgam

namespace Number.Binary64

variable {x y z : Binary64} {n : Int}

theorem same_iff : x.same y = true ↔ x ≠ nan ∧ (x = y ∨ x.isZero = true ∧ y.isZero = true) := by
  cases x <;> cases y <;> simp [same, isZero]

theorem same_symm (h : x.same y = true) : y.same x = true := by
  rw [same_iff] at h ⊢
  obtain ⟨number, rfl | ⟨hx, hy⟩⟩ := h
  · exact ⟨number, Or.inl rfl⟩
  · refine ⟨?_, Or.inr ⟨hy, hx⟩⟩
    rintro rfl
    cases hy

theorem same_trans (hxy : x.same y = true) (hyz : y.same z = true) : x.same z = true := by
  rw [same_iff] at hxy hyz ⊢
  obtain ⟨number, rfl | ⟨hx, hy⟩⟩ := hxy
  · exact ⟨number, hyz.2⟩
  · obtain ⟨-, rfl | ⟨-, hz⟩⟩ := hyz
    · exact ⟨number, Or.inr ⟨hx, hy⟩⟩
    · exact ⟨number, Or.inr ⟨hx, hz⟩⟩

theorem toInt?_of_isZero (h : x.isZero = true) : x.toInt? = some 0 := by
  cases x with
  | finite negative significand exponent =>
    cases significand with
    | zero => cases negative <;> simp [toInt?, ratio]
    | succ m => cases h
  | _ => cases h

theorem toInt?_congr (h : x.same y = true) : x.toInt? = y.toInt? := by
  obtain ⟨-, rfl | ⟨hx, hy⟩⟩ := same_iff.mp h
  · rfl
  · rw [toInt?_of_isZero hx, toInt?_of_isZero hy]

/-- A number that is whole has the sign and the magnitude of the whole number. -/
theorem value_of_toInt? {negative : Bool} {m : Nat} {e : Int} (h : (finite negative m e).toInt? = some n) :
    (n.natAbs : ℚ) = m * 2 ^ e ∧ n = if negative then -(n.natAbs : Int) else n.natAbs := by
  simp only [toInt?, Option.ite_none_right_eq_some, Option.some.injEq] at h
  obtain ⟨divides, hn⟩ := h
  simp only [ratio] at divides hn
  generalize hq : m * Nat.pow 2 e.toNat / Nat.pow 2 (-e).toNat = q at hn
  have magnitude : n.natAbs = q := by
    rw [← hn]
    cases negative <;> simp
  have product : q * 2 ^ (-e).toNat = m * 2 ^ e.toNat := by
    rw [← hq]
    exact Nat.div_mul_cancel (Nat.dvd_of_mod_eq_zero divides)
  have product' : (q : ℚ) * 2 ^ (-e).toNat = m * 2 ^ e.toNat := by exact_mod_cast product
  rw [magnitude]
  refine ⟨?_, hn.symm⟩
  obtain ⟨k, rfl | rfl⟩ := e.eq_nat_or_neg
  · simpa using product'
  · rw [zpow_neg, zpow_natCast, ← div_eq_mul_inv, eq_div_iff (by positivity)]
    simpa using product'

/-- Two numbers in normal form that are one whole number are the same. -/
theorem same_of_toInt? (hx : x.Normal) (hy : y.Normal) (hxn : x.toInt? = some n) (hyn : y.toInt? = some n) :
    x.same y = true := by
  cases x with
  | finite b m e =>
    cases y with
    | finite c k f =>
      obtain ⟨hm, hb⟩ := value_of_toInt? hxn
      obtain ⟨hk, hc⟩ := value_of_toInt? hyn
      rw [same_iff]
      refine ⟨by simp, ?_⟩
      rcases Nat.eq_zero_or_pos n.natAbs with zero | pos
      · right
        have significand_zero {s : Nat} {g : Int} (h : (n.natAbs : ℚ) = s * 2 ^ g) : s = 0 := by
          rw [zero, Nat.cast_zero, zero_eq_mul] at h
          exact_mod_cast h.resolve_right (by positivity)
        rw [significand_zero hm, significand_zero hk]
        exact ⟨rfl, rfl⟩
      · left
        have sign : b = c := by
          cases b <;> cases c <;> simp at hb hc ⊢ <;> omega
        subst sign
        have hx' := ofRatio_exact hx pos one_pos (by rw [Nat.cast_one, div_one, hm])
        have hy' := ofRatio_exact hy pos one_pos (by rw [Nat.cast_one, div_one, hk])
        exact hx'.symm.trans hy'
    | _ => cases hyn
  | _ => cases hxn

end Number.Binary64

/-! ### Keys -/

theorem Moment.same_symm {a b : Moment} (h : a.same b = true) : b.same a = true := by
  simp only [same, Bool.and_eq_true, decide_eq_true_eq] at h ⊢
  exact ⟨h.1.symm, h.2.symm⟩

theorem Moment.same_trans {a b c : Moment} (hab : a.same b = true) (hbc : b.same c = true) : a.same c = true := by
  simp only [same, Bool.and_eq_true, decide_eq_true_eq] at hab hbc ⊢
  exact ⟨hab.1.trans hbc.1, hab.2.trans hbc.2⟩

namespace Value

variable {a b c : Value}

/-- A floating-point number is in the form in which every number is held. -/
def Canonical (v : Value) : Prop :=
  ∀ x, v = .float x → x.Normal

theorem sameKey_symm (h : a.sameKey b = true) : b.sameKey a = true := by
  cases a <;> cases b <;> simp_all [sameKey, quantity?, Quantity.same, Number.Binary64.same_symm, Moment.same_symm]

/-- What is the same key as a number is a number. -/
theorem sameKey_iff_of_quantity {p : Quantity} (h : a.quantity? = some p) :
    a.sameKey b = true ↔ ∃ q, b.quantity? = some q ∧ p.same q = true := by
  cases a <;> simp only [quantity?, reduceCtorEq, Option.some.injEq] at h <;> subst h <;>
    cases b <;> simp [sameKey, quantity?]

theorem canonical_of_quantity {x : Number.Binary64} (h : a.Canonical) (hx : a.quantity? = some (.real x)) : x.Normal := by
  cases a with
  | float y =>
    obtain rfl : y = x := by simpa [quantity?] using hx
    exact h y rfl
  | bool b => cases b <;> simp [quantity?] at hx
  | _ => simp [quantity?] at hx

theorem quantity_same_trans {p q r : Quantity} (hp : ∀ x, p = .real x → x.Normal) (hr : ∀ x, r = .real x → x.Normal)
    (hpq : p.same q = true) (hqr : q.same r = true) : p.same r = true := by
  cases p with
  | whole m =>
    cases q with
    | whole n =>
      obtain rfl : m = n := by simpa [Quantity.same] using hpq
      exact hqr
    | real y =>
      have hy : y.toInt? = some m := by simpa [Quantity.same] using hpq
      cases r with
      | whole k => simpa [Quantity.same, hy] using hqr
      | real z => simpa [Quantity.same, ← Number.Binary64.toInt?_congr hqr] using hy
  | real x =>
    cases q with
    | whole n =>
      have hx : x.toInt? = some n := by simpa [Quantity.same] using hpq
      cases r with
      | whole k =>
        obtain rfl : n = k := by simpa [Quantity.same] using hqr
        exact hpq
      | real z =>
        have hz : z.toInt? = some n := by simpa [Quantity.same] using hqr
        exact Number.Binary64.same_of_toInt? (hp x rfl) (hr z rfl) hx hz
    | real y =>
      cases r with
      | whole k =>
        have hy : y.toInt? = some k := by simpa [Quantity.same] using hqr
        simpa [Quantity.same, Number.Binary64.toInt?_congr hpq] using hy
      | real z => exact Number.Binary64.same_trans hpq hqr

theorem sameKey_trans (ha : a.Canonical) (hc : c.Canonical) (hab : a.sameKey b = true) (hbc : b.sameKey c = true) :
    a.sameKey c = true := by
  cases number : a.quantity? with
  | some p =>
    obtain ⟨q, hq, hpq⟩ := (sameKey_iff_of_quantity number).mp hab
    obtain ⟨r, hr, hqr⟩ := (sameKey_iff_of_quantity hq).mp hbc
    refine (sameKey_iff_of_quantity number).mpr ⟨r, hr, quantity_same_trans ?_ ?_ hpq hqr⟩
    · rintro x rfl
      exact canonical_of_quantity ha number
    · rintro x rfl
      exact canonical_of_quantity hc hr
  | none =>
    cases a <;> cases b <;> simp [sameKey, quantity?] at number hab
    case null => exact hbc
    case text => rwa [hab]
    case bytes => rwa [hab]
    case date => rwa [hab]
    case moment m n =>
      cases c with
      | moment k => exact Moment.same_trans hab hbc
      | _ => simp [sameKey, quantity?] at hbc

/-- One key in two spellings is the same as the same keys. -/
theorem sameKey_congr (ha : a.Canonical) (hb : b.Canonical) (hc : c.Canonical) (hab : a.sameKey b = true) :
    a.sameKey c = b.sameKey c := by
  rw [Bool.eq_iff_iff]
  exact ⟨sameKey_trans hb hc (sameKey_symm hab), sameKey_trans ha hc hab⟩

theorem sameKey_congr_right (ha : a.Canonical) (hb : b.Canonical) (hc : c.Canonical) (hab : a.sameKey b = true) :
    c.sameKey a = c.sameKey b := by
  rw [Bool.eq_iff_iff]
  exact ⟨fun h => sameKey_trans hc hb h hab, fun h => sameKey_trans hc ha h (sameKey_symm hab)⟩

end Value

/-! ### Bindings -/

namespace Fields

variable {fields rest : Fields} {key key' v : Value}

/-- Each key is bound once. -/
structure Keyed (fields : Fields) : Prop where
  canonical : ∀ key ∈ fields.map Prod.fst, key.Canonical
  distinct : (fields.map Prod.fst).Pairwise fun key key' => key.sameKey key' = false

theorem Keyed.nil : Keyed [] := ⟨by simp, List.Pairwise.nil⟩

theorem Keyed.head {b : Value × Value} (h : Keyed (b :: rest)) : b.1.Canonical :=
  h.canonical b.1 List.mem_cons_self

theorem Keyed.tail {b : Value × Value} (h : Keyed (b :: rest)) : Keyed rest :=
  ⟨fun key hkey => h.canonical key (List.mem_cons_of_mem b.1 hkey), (List.pairwise_cons.mp h.distinct).2⟩

theorem Named.keyed (h : Named fields) : Keyed fields := by
  refine ⟨fun key hkey => ?_, h.distinct⟩
  obtain ⟨b, hb, rfl⟩ := List.mem_map.mp hkey
  obtain ⟨name, hname⟩ := h.texts b hb
  rw [hname]
  exact fun x hx => by cases hx

/-- The first key is not bound again. -/
theorem Keyed.head_sameKey {b : Value × Value} (h : Keyed (b :: rest)) :
    ∀ c ∈ rest, b.1.sameKey c.1 = false := fun _ hc =>
  (List.pairwise_cons.mp h.distinct).1 _ (List.mem_map_of_mem hc)

theorem Keyed.find?_congr (h : Keyed fields) (hkey : key.Canonical) (hkey' : key'.Canonical)
    (hsame : key.sameKey key' = true) : find? fields key = find? fields key' := by
  induction fields with
  | nil => rfl
  | cons b fields ih =>
    rw [find?_cons, find?_cons, Value.sameKey_congr_right hkey hkey' h.head hsame, ih h.tail]

theorem Keyed.find?_tail (h : Keyed ((key, v) :: rest)) (hkey' : key'.Canonical) (hsame : key.sameKey key' = true) :
    find? rest key' = none := by
  rw [← h.tail.find?_congr h.head hkey' hsame, find?_eq_none_iff]
  intro b hb
  have hdistinct : key.sameKey b.1 = false := h.head_sameKey b hb
  rw [← Bool.not_eq_true] at hdistinct ⊢
  exact fun hb' => hdistinct (Value.sameKey_symm hb')

/-- Binding a key changes what is bound to any spelling of it, and nothing else. -/
theorem Keyed.find?_put (h : Keyed fields) (hkey : key.Canonical) (hkey' : key'.Canonical) (v : Value) :
    find? (put fields key v) key' = if key.sameKey key' then some v else find? fields key' := by
  induction fields with
  | nil => exact find?_cons key v [] key'
  | cons b fields ih =>
    rw [Fields.put]
    split_ifs with hsame hfound hfound
    · rw [find?_cons, Value.sameKey_congr h.head hkey hkey' hsame, if_pos hfound]
    · rw [find?_cons, find?_cons, Value.sameKey_congr h.head hkey hkey' hsame, if_neg hfound, if_neg hfound]
    · have hother : ¬ b.1.sameKey key' = true := fun hb =>
        hsame (Value.sameKey_trans h.head hkey hb (Value.sameKey_symm hfound))
      rw [find?_cons, if_neg hother, ih h.tail, if_pos hfound]
    · rw [find?_cons, find?_cons, ih h.tail, if_neg hfound]

theorem Keyed.put (h : Keyed fields) (hkey : key.Canonical) (v : Value) : Keyed (put fields key v) := by
  cases hfind : find? fields key with
  | some old => exact ⟨by simpa [keys_put, hfind] using h.canonical, by simpa [keys_put, hfind] using h.distinct⟩
  | none =>
    have hkeys : (Fields.put fields key v).map Prod.fst = fields.map Prod.fst ++ [key] := by simp [keys_put, hfind]
    constructor
    · rw [hkeys, List.forall_mem_append]
      exact ⟨h.canonical, by simpa using hkey⟩
    · rw [hkeys, List.pairwise_append]
      refine ⟨h.distinct, List.pairwise_singleton _ _, fun k hk k' hk' => ?_⟩
      obtain ⟨b, hb, rfl⟩ := List.mem_map.mp hk
      obtain rfl := List.mem_singleton.mp hk'
      exact find?_eq_none_iff.mp hfind b hb

/-- A key that is the same as itself is bound to its value. -/
theorem Keyed.find?_eq_some (h : Keyed fields) (hmem : (key, v) ∈ fields) (hself : key.sameKey key = true) :
    find? fields key = some v := by
  induction fields with
  | nil => cases hmem
  | cons b fields ih =>
    rw [find?_cons]
    rcases List.mem_cons.mp hmem with rfl | hmem
    · rw [if_pos hself]
    · rw [h.head_sameKey _ hmem, if_neg Bool.false_ne_true]
      exact ih h.tail hmem

end Fields

end Amalgam
