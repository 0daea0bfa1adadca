import Amalgam.Number.Binary64
import Amalgam.Proofs.Number.Digits
import Mathlib.Algebra.Order.Field.Power
import Mathlib.Data.Rat.Cast.Order
import Mathlib.Tactic.FieldSimp
import Mathlib.Tactic.Linarith
import Mathlib.Tactic.NormNum
import Mathlib.Tactic.Ring
/-!
# Rounding to binary floating point

The exponent at which a quotient is held is told by the quotient alone, so rounding does not depend on how the quotient
is written: a decimal may end in more zeros or fewer. What rounding gives is in normal form, and a number in normal form
is what its own exact value is rounded to. Hence the decimal that is chosen for the text of a number reads back as that
number: a short one because it is tried first, and all digits because they are exact.
-/

namespace Amalgam.Number.Binary64

/-! ### The exponent of a quotient -/

/-- The exponent at which a quotient is held: the one at which it has 53 bits before the point, or the least one. -/
structure HasExponent (q : ℚ) (e : ℤ) : Prop where
  least : leastExponent ≤ e
  fits : q < 2 ^ (e + 53)
  full : e = leastExponent ∨ 2 ^ (e + 52) ≤ q

section Exponent

variable {q : ℚ} {e f : ℤ} {num den : Nat}

theorem two_zpow_le {a b : ℤ} (h : a ≤ b) : (2 : ℚ) ^ a ≤ 2 ^ b :=
  zpow_le_zpow_right₀ (by norm_num) h

theorem HasExponent.le (he : HasExponent q e) (hf : HasExponent q f) : e ≤ f := by
  rcases he.full with rfl | hfull
  · exact hf.least
  · by_contra hlt
    have := two_zpow_le (a := f + 53) (b := e + 52) (by omega)
    linarith [hf.fits]

theorem HasExponent.unique (he : HasExponent q e) (hf : HasExponent q f) : e = f :=
  le_antisymm (he.le hf) (hf.le he)

theorem scaled_ratio (num den : Nat) (e : ℤ) :
    ((scaled num den e).1 : ℚ) / (scaled num den e).2 = num / den / 2 ^ e := by
  obtain ⟨k, rfl | rfl⟩ := e.eq_nat_or_neg
  · simp [scaled, div_div]
  · simp [scaled]
    ring

theorem scaled_pos (hden : 0 < den) (e : ℤ) : 0 < (scaled num den e).2 :=
  Nat.mul_pos hden (Nat.pow_pos (by decide))

/-- Comparing a scaled quotient with a power of two is comparing the quotient itself. -/
theorem scaled_lt_iff (hden : 0 < den) (e : ℤ) (k : Nat) :
    (scaled num den e).1 < 2 ^ k * (scaled num den e).2 ↔ (num / den : ℚ) < 2 ^ (e + k) := by
  have hpos : (0 : ℚ) < (scaled num den e).2 := by exact_mod_cast scaled_pos hden e
  have hpower : (0 : ℚ) < 2 ^ e := by positivity
  rw [zpow_add₀ (by norm_num), zpow_natCast, ← div_lt_iff₀' hpower, ← scaled_ratio, div_lt_iff₀ hpos]
  exact_mod_cast Iff.rfl

theorem log2_bounds (hnum : 0 < num) (hden : 0 < den) :
    (2 : ℚ) ^ ((num.log2 : ℤ) - den.log2 - 1) ≤ num / den ∧
      (num / den : ℚ) < 2 ^ ((num.log2 : ℤ) - den.log2 + 1) := by
  have hnum' : (2 : ℚ) ^ num.log2 ≤ num := by exact_mod_cast Nat.log2_self_le hnum.ne'
  have hden' : (2 : ℚ) ^ den.log2 ≤ den := by exact_mod_cast Nat.log2_self_le hden.ne'
  have hnum'' : (num : ℚ) < 2 ^ (num.log2 + 1) := by exact_mod_cast Nat.lt_log2_self
  have hden'' : (den : ℚ) < 2 ^ (den.log2 + 1) := by exact_mod_cast Nat.lt_log2_self
  have hpos : (0 : ℚ) < den := by exact_mod_cast hden
  constructor
  · rw [le_div_iff₀ hpos]
    calc (2 : ℚ) ^ ((num.log2 : ℤ) - den.log2 - 1) * den
        ≤ 2 ^ ((num.log2 : ℤ) - den.log2 - 1) * 2 ^ (den.log2 + 1) := by gcongr
      _ = 2 ^ num.log2 := by
        rw [← zpow_natCast, ← zpow_natCast, ← zpow_add₀ (by norm_num)]
        congr 1
        push_cast
        ring
      _ ≤ num := hnum'
  · rw [div_lt_iff₀ hpos]
    calc (num : ℚ) < 2 ^ (num.log2 + 1) := hnum''
      _ = 2 ^ ((num.log2 : ℤ) - den.log2 + 1) * 2 ^ den.log2 := by
        rw [← zpow_natCast, ← zpow_natCast, ← zpow_add₀ (by norm_num)]
        congr 1
        push_cast
        ring
      _ ≤ 2 ^ ((num.log2 : ℤ) - den.log2 + 1) * den := by gcongr

theorem exponentFor_spec (hnum : 0 < num) (hden : 0 < den) : HasExponent (num / den) (exponentFor num den) := by
  obtain ⟨hlow, hhigh⟩ := log2_bounds hnum hden
  unfold exponentFor
  generalize hguess : max leastExponent ((num.log2 : Int) - den.log2 - 52) = guess
  have hlt : (scaled num den guess).1 / (scaled num den guess).2 < Nat.pow 2 52 ↔ (num / den : ℚ) < 2 ^ (guess + 52) := by
    rw [Nat.div_lt_iff_lt_mul (scaled_pos hden guess)]
    exact scaled_lt_iff hden guess 52
  dsimp only
  split_ifs with hsmall
  · rw [hlt] at hsmall
    refine ⟨le_max_left _ _, hsmall.trans_le (two_zpow_le (by omega)), ?_⟩
    rcases le_or_gt guess leastExponent with hleast | hmore
    · exact .inl (by omega)
    · exact .inr ((two_zpow_le (by omega)).trans hlow)
  · rw [hlt, not_lt] at hsmall
    exact ⟨by omega, hhigh.trans_le (two_zpow_le (by omega)), .inr hsmall⟩

theorem exponentFor_eq (hnum : 0 < num) (hden : 0 < den) (h : HasExponent (num / den) e) : exponentFor num den = e :=
  (exponentFor_spec hnum hden).unique h

end Exponent

/-! ### Rounding -/

section Rounding

variable {n d m c k num den : Nat} {e : ℤ} {negative : Bool}

theorem divNearest_mul (hc : 0 < c) : divNearest (n * c) (d * c) = divNearest n d := by
  have hbelow : 2 * (n % d * c) < d * c ↔ 2 * (n % d) < d := by
    rw [← Nat.mul_assoc]
    exact Nat.mul_lt_mul_right hc
  have habove : d * c < 2 * (n % d * c) ↔ d < 2 * (n % d) := by
    rw [← Nat.mul_assoc]
    exact Nat.mul_lt_mul_right hc
  simp only [divNearest, Nat.mul_div_mul_right _ _ hc, Nat.mul_mod_mul_right, hbelow, habove]

theorem divNearest_exact (hd : 0 < d) (m : Nat) : divNearest (m * d) d = m := by
  simp [divNearest, hd]

theorem divNearest_le (hd : 0 < d) (h : n < k * d) : divNearest n d ≤ k := by
  have hq : n / d < k := (Nat.div_lt_iff_lt_mul hd).mpr h
  unfold divNearest
  dsimp only
  split_ifs <;> omega

theorem le_divNearest (hd : 0 < d) (h : k * d ≤ n) : k ≤ divNearest n d := by
  have hq : k ≤ n / d := (Nat.le_div_iff_mul_le hd).mpr h
  unfold divNearest
  dsimp only
  split_ifs <;> omega

theorem ofRatio_mul (hnum : 0 < num) (hden : 0 < den) (hc : 0 < c) :
    ofRatio negative (num * c) (den * c) = ofRatio negative num den := by
  have hratio : ((num * c : Nat) / (den * c : Nat) : ℚ) = num / den := by
    have : (c : ℚ) ≠ 0 := by exact_mod_cast hc.ne'
    push_cast
    exact mul_div_mul_right _ _ this
  have hexponent : exponentFor (num * c) (den * c) = exponentFor num den :=
    exponentFor_eq (by positivity) (by positivity) (hratio ▸ exponentFor_spec hnum hden)
  have hscaled (e : ℤ) : scaled (num * c) (den * c) e = ((scaled num den e).1 * c, (scaled num den e).2 * c) := by
    simp only [scaled, Nat.mul_right_comm]
  simp only [ofRatio, hexponent, hscaled, divNearest_mul hc]

theorem ofRatio_congr {num' den' : Nat} (hnum : 0 < num) (hden : 0 < den) (hnum' : 0 < num') (hden' : 0 < den')
    (h : num * den' = num' * den) : ofRatio negative num den = ofRatio negative num' den' := by
  rw [← ofRatio_mul hnum hden hden', h, Nat.mul_comm den, ofRatio_mul hnum' hden' hden]

/-- The form in which every number is held: 53 bits unless the exponent is the least one. -/
def Normal : Binary64 → Prop
  | finite _ significand exponent =>
    significand < 2 ^ 53 ∧ leastExponent ≤ exponent ∧ exponent ≤ greatestExponent ∧
      (exponent = leastExponent ∨ 2 ^ 52 ≤ significand)
  | _ => True

theorem normal_zero (negative : Bool) : Normal (zero negative) := by
  refine ⟨by decide, le_rfl, by decide, .inl rfl⟩

theorem ofRatio_normal (hnum : 0 < num) (hden : 0 < den) : Normal (ofRatio negative num den) := by
  have hspec := exponentFor_spec hnum hden
  generalize hexponent : exponentFor num den = e at hspec
  have hpos : 0 < (scaled num den e).2 := scaled_pos hden e
  have hle : divNearest (scaled num den e).1 (scaled num den e).2 ≤ 2 ^ 53 :=
    divNearest_le hpos ((scaled_lt_iff hden e 53).mpr hspec.fits)
  have hge : e = leastExponent ∨ 2 ^ 52 ≤ divNearest (scaled num den e).1 (scaled num den e).2 := by
    refine hspec.full.imp_right fun hfull => le_divNearest hpos ?_
    rw [← not_lt, scaled_lt_iff hden e 52, not_lt]
    exact hfull
  have hleast := hspec.least
  simp only [ofRatio, hexponent]
  split_ifs with hcarry hlarge hlarge
  · trivial
  · exact ⟨Nat.pow_lt_pow_right (by decide) (by decide), by omega, by omega, .inr le_rfl⟩
  · trivial
  · exact ⟨lt_of_le_of_ne hle hcarry, hleast, by omega, hge⟩

/-- A number in normal form is what its own value is rounded to. -/
theorem ofRatio_exact (hnormal : Normal (finite negative m e)) (hnum : 0 < num) (hden : 0 < den)
    (h : (num / den : ℚ) = m * 2 ^ e) : ofRatio negative num den = finite negative m e := by
  obtain ⟨hlt, hleast, hgreatest, hfull⟩ := hnormal
  have hpower : (0 : ℚ) < 2 ^ e := by positivity
  have hexponent : exponentFor num den = e := by
    refine exponentFor_eq hnum hden ⟨hleast, ?_, hfull.imp_right fun hge => ?_⟩
    · rw [h, add_comm, zpow_add₀ (by norm_num)]
      exact mul_lt_mul_of_pos_right (by exact_mod_cast hlt) hpower
    · rw [h, add_comm, zpow_add₀ (by norm_num)]
      exact mul_le_mul_of_nonneg_right (by exact_mod_cast hge) hpower.le
  have hpos : (0 : ℚ) < (scaled num den e).2 := by exact_mod_cast scaled_pos hden e
  have hscaled : (scaled num den e).1 = m * (scaled num den e).2 := by
    have hratio := scaled_ratio num den e
    rw [h, mul_div_assoc, div_self hpower.ne', mul_one, div_eq_iff hpos.ne'] at hratio
    exact_mod_cast hratio
  have hne : m ≠ Nat.pow 2 53 := hlt.ne
  simp only [ofRatio, hexponent, hscaled, divNearest_exact (scaled_pos hden e), if_neg hne,
    if_neg (not_lt.mpr hgreatest)]

end Rounding

/-! ### Decimals -/

section Decimals

variable {s m : Nat} {k e : ℤ} {negative : Bool}

theorem ofDecimal_normal (d : Decimal) : Normal (ofDecimal d) := by
  unfold ofDecimal
  dsimp only
  split_ifs with hzero
  · exact normal_zero _
  · trivial
  · exact normal_zero _
  · exact ofRatio_normal (Nat.mul_pos (Nat.pos_of_ne_zero hzero) (Nat.pow_pos (by decide))) (Nat.pow_pos (by decide))

/-- A decimal denotes the same number with zeros added at its end. -/
theorem ofDecimal_zeros (negative : Bool) (s j : Nat) (k : ℤ) :
    ofDecimal ⟨negative, s * 10 ^ j, k⟩ = ofDecimal ⟨negative, s, k + j⟩ := by
  rcases Nat.eq_zero_or_pos s with rfl | hs
  · simp [ofDecimal]
  have hne : s * 10 ^ j ≠ 0 := (Nat.mul_pos hs (Nat.pow_pos (by decide))).ne'
  have hmagnitude : ((Nat.toDigits 10 (s * 10 ^ j)).length : ℤ) + k = (Nat.toDigits 10 s).length + (k + j) := by
    rw [length_toDigits_mul_pow hs]
    omega
  have hratio : ofRatio negative (s * 10 ^ j * Nat.pow 10 k.toNat) (Nat.pow 10 (-k).toNat) =
      ofRatio negative (s * Nat.pow 10 (k + j).toNat) (Nat.pow 10 (-(k + j)).toNat) := by
    refine ofRatio_congr (Nat.mul_pos (Nat.pos_of_ne_zero hne) (Nat.pow_pos (by decide))) (Nat.pow_pos (by decide))
      (Nat.mul_pos hs (Nat.pow_pos (by decide))) (Nat.pow_pos (by decide)) ?_
    simp only [Nat.pow_eq, Nat.mul_assoc, ← Nat.pow_add]
    congr 2
    omega
  simp only [ofDecimal, if_neg hne, if_neg hs.ne', hmagnitude, hratio]

theorem ofRatio_sign {num den : Nat} {b c : Bool} (h : ofRatio b num den = finite c m e) (negative : Bool) :
    ofRatio negative num den = finite negative m e := by
  have hpair (p : Nat × ℤ) (hp : (if greatestExponent < p.2 then infinite b else finite b p.1 p.2) = finite c m e) :
      (if greatestExponent < p.2 then infinite negative else finite negative p.1 p.2) = finite negative m e := by
    split_ifs at hp ⊢
    injection hp with _ hm he
    rw [hm, he]
  exact hpair _ h

/-- The sign of a decimal goes through to its number and nowhere else. -/
theorem ofDecimal_sign {d : Decimal} {c : Bool} (h : ofDecimal d = finite c m e) (negative : Bool) :
    ofDecimal ⟨negative, d.significand, d.exponent⟩ = finite negative m e := by
  simp only [ofDecimal, zero] at h ⊢
  split_ifs at h ⊢
  · injection h with _ hm he
    rw [hm, he]
  · injection h with _ hm he
    rw [hm, he]
  · exact ofRatio_sign h negative

theorem significand_ne_zero {d : Decimal} (h : ofDecimal d = finite negative m e) (hm : 0 < m) : d.significand ≠ 0 := by
  intro hzero
  simp only [ofDecimal, zero, if_pos hzero] at h
  injection h with _ hm' _
  omega

/-! The magnitude of an exact decimal stays inside the bounds at which a decimal is infinite or zero at once. -/

theorem two_pow_le_ten_pow {j k : Nat} (h : j ≤ 3 * k) : 2 ^ j ≤ 10 ^ k :=
  calc 2 ^ j ≤ 2 ^ (3 * k) := Nat.pow_le_pow_right (by decide) h
    _ = (2 ^ 3) ^ k := Nat.pow_mul 2 3 k
    _ ≤ 10 ^ k := Nat.pow_le_pow_left (by decide) k

theorem ten_pow_le_five_pow {j k : Nat} (h : j ≤ 2 * k) : 10 ^ j ≤ 5 ^ (k + j) :=
  calc 10 ^ j = 2 ^ j * 5 ^ j := (Nat.mul_pow 2 5 j)
    _ ≤ 2 ^ (2 * k) * 5 ^ j := Nat.mul_le_mul_right _ (Nat.pow_le_pow_right (by decide) h)
    _ = (2 ^ 2) ^ k * 5 ^ j := by rw [Nat.pow_mul]
    _ ≤ 5 ^ k * 5 ^ j := Nat.mul_le_mul_right _ (Nat.pow_le_pow_left (by decide) k)
    _ = 5 ^ (k + j) := (Nat.pow_add 5 k j).symm

theorem length_exactDecimal_le (hnormal : Normal (finite false m e)) :
    (Nat.toDigits 10 (exactDecimal m e).significand).length ≤ 400 + (-e).toNat := by
  obtain ⟨hlt, _, hgreatest, _⟩ := hnormal
  have hbound : 53 + e.toNat ≤ 3 * 400 := by unfold greatestExponent at hgreatest; omega
  generalize 400 = k at hbound ⊢
  have hproduct : m * 2 ^ e.toNat < 10 ^ k :=
    calc m * 2 ^ e.toNat < 2 ^ 53 * 2 ^ e.toNat := Nat.mul_lt_mul_of_pos_right hlt (Nat.pow_pos (by decide))
      _ = 2 ^ (53 + e.toNat) := (Nat.pow_add 2 53 _).symm
      _ ≤ 10 ^ k := two_pow_le_ten_pow hbound
  rw [Nat.length_toDigits_le_iff (by decide) (by omega), Nat.pow_add]
  exact Nat.mul_lt_mul_of_lt_of_le hproduct (Nat.pow_le_pow_left (by decide) _) (Nat.pow_pos (by decide))

theorem le_length_exactDecimal (hm : 0 < m) (hnormal : Normal (finite false m e)) :
    (-e).toNat ≤ (Nat.toDigits 10 (exactDecimal m e).significand).length + 400 := by
  obtain ⟨_, hleast, _, _⟩ := hnormal
  have hlength := Nat.length_toDigits_pos (b := 10) (n := (exactDecimal m e).significand)
  by_cases hle : (-e).toNat ≤ 401
  · omega
  · obtain ⟨j, hj⟩ := Nat.exists_eq_add_of_le (not_le.mp hle).le
    have hbound : j ≤ 2 * 401 := by unfold leastExponent at hleast; omega
    have hten : 10 ^ j ≤ (exactDecimal m e).significand := by
      refine (ten_pow_le_five_pow hbound).trans ?_
      rw [← hj]
      exact Nat.le_mul_of_pos_left _ (Nat.mul_pos hm (Nat.pow_pos (by decide)))
    have := (pow_le_iff_lt_length_toDigits (by omega)).mp hten
    omega

theorem exactDecimal_reads_back (hm : 0 < m) (hnormal : Normal (finite false m e)) :
    ofDecimal (exactDecimal m e) = finite false m e := by
  have hhigh := length_exactDecimal_le hnormal
  have hlow := le_length_exactDecimal hm hnormal
  simp only [exactDecimal] at hhigh hlow ⊢
  generalize hs : m * Nat.pow 2 e.toNat * Nat.pow 5 (-e).toNat = s at hhigh hlow ⊢
  have hpos : 0 < s := hs ▸ Nat.mul_pos (Nat.mul_pos hm (Nat.pow_pos (by decide))) (Nat.pow_pos (by decide))
  have hratio : ((s * Nat.pow 10 (-((-e).toNat : ℤ)).toNat : Nat) / (Nat.pow 10 (-(-((-e).toNat : ℤ))).toNat : Nat) : ℚ) =
      m * 2 ^ e := by
    obtain ⟨j, rfl | rfl⟩ := e.eq_nat_or_neg
    · simp [← hs]
    · simp only [← hs, Nat.pow_eq, neg_neg, Int.toNat_natCast, Int.toNat_neg_natCast, pow_zero, mul_one, Nat.cast_mul,
        Nat.cast_pow, Nat.cast_ofNat, zpow_neg, zpow_natCast]
      rw [show (10 : ℚ) = 2 * 5 by norm_num, mul_pow]
      field_simp
  simp only [ofDecimal]
  rw [if_neg hpos.ne', if_neg (by omega), if_neg (by omega)]
  exact ofRatio_exact hnormal (Nat.mul_pos hpos (Nat.pow_pos (by decide))) (Nat.pow_pos (by decide)) hratio

theorem readsBackWith_eq_some {n : Nat} {d : Decimal} (h : readsBackWith m e n = some d) :
    ofDecimal d = finite false m e := by
  simp only [readsBackWith] at h
  split_ifs at h with hnearest _ hother hother
  · obtain rfl := Option.some.inj h
    exact eq_of_beq hnearest
  · obtain rfl := Option.some.inj h
    exact eq_of_beq hother
  · obtain rfl := Option.some.inj h
    exact eq_of_beq hother

/-- The decimal that is written for a number reads back as it. -/
theorem shortest_reads_back (hm : 0 < m) (hnormal : Normal (finite false m e)) :
    ofDecimal (shortest m e) = finite false m e := by
  unfold shortest
  cases hfound : (List.range 17).findSome? fun n => readsBackWith m e (n + 1) with
  | none => exact exactDecimal_reads_back hm hnormal
  | some d =>
    obtain ⟨n, _, hd⟩ := List.exists_of_findSome?_eq_some hfound
    exact readsBackWith_eq_some hd

end Decimals

end Amalgam.Number.Binary64
