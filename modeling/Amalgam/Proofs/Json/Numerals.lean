import Amalgam.Json.Writer
import Amalgam.Proofs.Json.Grammar
import Amalgam.Proofs.Number.Binary64
import Mathlib.Data.List.TakeWhile
/-!
# The numerals that are written

A whole number is written as a sign and its digits. A floating-point number is written as digits with a point or an
exponent among them, in one of four layouts; every layout denotes the decimal that was chosen for the number, up to
zeros at its end, so the number is what its text denotes.
-/

namespace Amalgam.Json

open Amalgam.Number Amalgam.Text

/-! ### Whole numbers -/

section Whole

variable {n : Nat}

theorem isDigits_toDigits (n : Nat) : IsDigits (Nat.toDigits 10 n) :=
  ⟨Nat.toDigits_ne_nil, fun _ => isDigit_toDigits⟩

theorem isWhole_toDigits (n : Nat) : IsWhole (Nat.toDigits 10 n) := by
  rcases Nat.eq_zero_or_pos n with rfl | hn
  · exact .inl rfl
  · exact .inr ⟨isDigits_toDigits n, head_toDigits_ne_zero hn⟩

theorem numeral_eq (n : Int) : ∃ negative, n = signed negative n.natAbs ∧
    (numeral n).toList = minus negative ++ Nat.toDigits 10 n.natAbs := by
  cases n with
  | ofNat k => exact ⟨false, rfl, String.toList_ofList⟩
  | negSucc k => exact ⟨true, Int.negSucc_eq k, String.toList_ofList⟩

theorem numeral_spells {D : Dialect} (n : Int) (hfits : D.fits (Nat.toDigits 10 n.natAbs).length) :
    Spells D (.value (.int n)) (numeral n).toList := by
  obtain ⟨negative, hn, htext⟩ := numeral_eq n
  have hspelled : Spells D (.value (.int (signed negative (digitsValue (Nat.toDigits 10 n.natAbs)))))
      (minus negative ++ Nat.toDigits 10 n.natAbs) := .whole (isWhole_toDigits n.natAbs) hfits
  rwa [digitsValue_toDigits, ← hn, ← htext] at hspelled

end Whole

/-! ### The four layouts -/

/-- A text that spells the decimal `s × 10 ^ k`, as far as rounding can tell. -/
def SpellsDecimal (s : Nat) (k : Int) (cs : List Char) : Prop :=
  ∃ whole fraction point mark power, IsWhole whole ∧ Fraction fraction point ∧ Power power mark ∧
    (fraction ≠ [] ∨ power ≠ none) ∧ cs = whole ++ (point ++ mark) ∧
    ∀ negative, Binary64.ofDecimal ⟨negative, digitsValue (whole ++ fraction), power.getD 0 - fraction.length⟩ =
      Binary64.ofDecimal ⟨negative, s, k⟩

section Layouts

variable {digits : List Char} {point : Int}

theorem IsDigits.append {front back : List Char} (hfront : IsDigits front) (hback : ∀ c ∈ back, c.isDigit = true) :
    IsDigits (front ++ back) := by
  refine ⟨by simp [hfront.1], fun c hc => ?_⟩
  rcases List.mem_append.mp hc with hc | hc
  · exact hfront.2 c hc
  · exact hback c hc

theorem isDigit_zeros {n : Nat} : ∀ c ∈ List.replicate n '0', c.isDigit = true := by
  intro c hc
  obtain rfl := List.eq_of_mem_replicate hc
  rfl

theorem exponentText_power (e : Int) : Power (some e) ('e' :: Binary64.exponentText e) := by
  have hdigits : IsDigits (padStart 2 '0' (Nat.toDigits 10 e.natAbs)) := by
    refine ⟨by simp [padStart], fun c hc => ?_⟩
    rcases List.mem_append.mp hc with hc | hc
    · exact isDigit_zeros c hc
    · exact isDigit_toDigits hc
  have hvalue : digitsValue (padStart 2 '0' (Nat.toDigits 10 e.natAbs)) = e.natAbs := by
    simp [padStart, digitsValue_append]
  unfold Binary64.exponentText
  split_ifs with hneg
  · have hsigned : signed true e.natAbs = e := by simp only [signed, if_true]; omega
    have hpower := Power.mark (.inl rfl) .minus hdigits
    rwa [hvalue, hsigned] at hpower
  · have hsigned : signed false e.natAbs = e := by simp only [signed, Bool.false_eq_true, if_false]; omega
    have hpower := Power.mark (.inl rfl) .plus hdigits
    rwa [hvalue, hsigned] at hpower

/-- One digit, the others after the point, and an exponent. -/
theorem scientific_spells (hdigits : IsDigits digits) (hhead : digits.head? ≠ some '0') :
    SpellsDecimal (digitsValue digits) (point - digits.length)
      (digits.take 1 ++ (if (digits.drop 1).isEmpty then [] else '.' :: digits.drop 1) ++
        'e' :: Binary64.exponentText (point - 1)) := by
  obtain ⟨c, tail, rfl, hc, htail⟩ := hdigits.exists_cons
  have hwhole : IsWhole [c] := .inr ⟨⟨by simp, by simpa using hc⟩, by simpa using hhead⟩
  refine ⟨[c], tail, if tail.isEmpty then [] else '.' :: tail, _, _, hwhole, ?_, exponentText_power (point - 1),
    .inr (by simp), by simp, fun negative => ?_⟩
  · cases tail with
    | nil => exact .absent
    | cons d tail => exact .point ⟨by simp, htail⟩
  · simp only [List.singleton_append, Option.getD_some, List.length_cons]
    congr 2
    push_cast
    ring

/-- A zero before the point, and zeros between it and the digits. -/
theorem small_spells (hdigits : IsDigits digits) (hpoint : point ≤ 0) :
    SpellsDecimal (digitsValue digits) (point - digits.length)
      ('0' :: '.' :: (List.replicate (-point).toNat '0' ++ digits)) := by
  have hfraction : IsDigits (List.replicate (-point).toNat '0' ++ digits) := by
    refine ⟨by simp [hdigits.1], fun c hc => ?_⟩
    rcases List.mem_append.mp hc with hc | hc
    · exact isDigit_zeros c hc
    · exact hdigits.2 c hc
  refine ⟨['0'], _, _, [], none, .inl rfl, .point hfraction, .absent, .inl hfraction.1, by simp, fun negative => ?_⟩
  have hvalue : digitsValue ('0' :: (List.replicate (-point).toNat '0' ++ digits)) = digitsValue digits := by
    rw [← List.cons_append, ← List.replicate_succ, digitsValue_append, digitsValue_zeros, zero_mul, zero_add]
  simp only [List.singleton_append, hvalue, Option.getD_none, List.length_append, List.length_replicate]
  congr 2
  push_cast
  omega

/-- The digits, zeros up to the point, and a zero after it. -/
theorem large_spells (hdigits : IsDigits digits) (hhead : digits.head? ≠ some '0')
    (hpoint : (digits.length : Int) ≤ point) :
    SpellsDecimal (digitsValue digits) (point - digits.length)
      (digits ++ List.replicate (point.toNat - digits.length) '0' ++ ['.', '0']) := by
  have hwhole : IsWhole (digits ++ List.replicate (point.toNat - digits.length) '0') := by
    refine .inr ⟨hdigits.append isDigit_zeros, ?_⟩
    obtain ⟨c, tail, rfl, _⟩ := hdigits.exists_cons
    exact hhead
  refine ⟨_, ['0'], ['.', '0'], [], none, hwhole, .point ⟨by simp, by simp⟩, .absent, .inl (by simp), by simp,
    fun negative => ?_⟩
  have hvalue : digitsValue (digits ++ List.replicate (point.toNat - digits.length) '0' ++ ['0']) =
      digitsValue digits * 10 ^ (point.toNat - digits.length + 1) := by
    rw [List.append_assoc, ← List.replicate_one, ← List.replicate_add, digitsValue_append, digitsValue_zeros, add_zero,
      List.length_replicate]
  rw [hvalue, Binary64.ofDecimal_zeros]
  simp only [Option.getD_none, List.length_singleton]
  congr 2
  push_cast
  omega

/-- The point among the digits. -/
theorem middle_spells (hdigits : IsDigits digits) (hhead : digits.head? ≠ some '0') (hpos : 0 < point)
    (hpoint : point < digits.length) :
    SpellsDecimal (digitsValue digits) (point - digits.length)
      (digits.take point.toNat ++ '.' :: digits.drop point.toNat) := by
  have hwhole : IsWhole (digits.take point.toNat) := by
    refine .inr ⟨⟨?_, fun c hc => hdigits.2 c (List.mem_of_mem_take hc)⟩, ?_⟩
    · rw [← List.length_pos_iff, List.length_take]
      omega
    · obtain ⟨k, hk⟩ := Nat.exists_eq_add_one_of_ne_zero (by omega : point.toNat ≠ 0)
      obtain ⟨c, tail, rfl, _⟩ := hdigits.exists_cons
      rw [hk]
      exact hhead
  have hfraction : IsDigits (digits.drop point.toNat) := by
    refine ⟨?_, fun c hc => hdigits.2 c (List.mem_of_mem_drop hc)⟩
    rw [← List.length_pos_iff, List.length_drop]
    omega
  refine ⟨_, _, _, [], none, hwhole, .point hfraction, .absent, .inl hfraction.1, by simp, fun negative => ?_⟩
  simp only [List.take_append_drop, Option.getD_none, List.length_drop]
  congr 2
  omega

theorem layout_spells (hdigits : IsDigits digits) (hhead : digits.head? ≠ some '0') (point : Int) :
    SpellsDecimal (digitsValue digits) (point - digits.length) (Binary64.layout digits point) := by
  unfold Binary64.layout
  by_cases hscientific : (point < -3 || 16 < point) = true
  · rw [if_pos hscientific]
    exact scientific_spells hdigits hhead
  · rw [if_neg hscientific]
    split_ifs with hsmall hlarge
    · exact small_spells hdigits hsmall
    · exact large_spells hdigits hhead hlarge
    · exact middle_spells hdigits hhead (not_le.mp hsmall) (not_le.mp hlarge)

end Layouts

/-! ### Floating-point numbers -/

section Floats

variable {D : Dialect} {m s : Nat} {e k : Int} {negative : Bool}

/-- Taking the zeros from the end of a row of digits. -/
theorem exists_zeros (digits : List Char) :
    ∃ z, digits = (digits.reverse.dropWhile (· = '0')).reverse ++ List.replicate z '0' := by
  refine ⟨(digits.reverse.takeWhile (· = '0')).length, ?_⟩
  have hzeros : digits.reverse.takeWhile (· = '0') = List.replicate (digits.reverse.takeWhile (· = '0')).length '0' := by
    refine List.eq_replicate_of_mem fun c hc => ?_
    simpa using List.mem_takeWhile_imp hc
  rw [← List.reverse_replicate, ← hzeros, ← List.reverse_append, List.takeWhile_append_dropWhile, List.reverse_reverse]

theorem digitsAndPoint_spells {d : Decimal} (hs : d.significand ≠ 0) :
    SpellsDecimal d.significand d.exponent
      (Binary64.layout (Binary64.digitsAndPoint d).1 (Binary64.digitsAndPoint d).2) := by
  obtain ⟨_, s, k⟩ := d
  simp only [Binary64.digitsAndPoint] at hs ⊢
  obtain ⟨z, hz⟩ := exists_zeros (Nat.toDigits 10 s)
  generalize ((Nat.toDigits 10 s).reverse.dropWhile (· = '0')).reverse = digits at hz ⊢
  have hvalue : digitsValue digits * 10 ^ z = s := by
    rw [← digitsValue_toDigits s, hz, digitsValue_append, digitsValue_zeros, List.length_replicate, add_zero]
  have hne : digits ≠ [] := by
    rintro rfl
    exact hs (by simpa using hvalue.symm)
  have hhead : digits.head? ≠ some '0' := by
    have := head_toDigits_ne_zero (Nat.pos_of_ne_zero hs)
    rwa [hz, List.head?_append_of_ne_nil _ hne] at this
  have hdigits : IsDigits digits := ⟨hne, fun c hc => isDigit_toDigits (n := s) (by rw [hz]; simp [hc])⟩
  obtain ⟨whole, fraction, point, mark, power, hwhole, hfraction, hpower, hreal, htext, heq⟩ :=
    layout_spells hdigits hhead ((Nat.toDigits 10 s).length + k)
  refine ⟨whole, fraction, point, mark, power, hwhole, hfraction, hpower, hreal, htext, fun negative => ?_⟩
  have hpoint : ((Nat.toDigits 10 s).length : Int) + k - digits.length = k + z := by
    rw [hz, List.length_append, List.length_replicate]
    push_cast
    ring
  rw [heq, hpoint, ← Binary64.ofDecimal_zeros, hvalue]

theorem SpellsDecimal.spells {cs : List Char} {x : Binary64} (h : SpellsDecimal s k cs) (negative : Bool)
    (hx : Binary64.ofDecimal ⟨negative, s, k⟩ = x) : Spells D (.value (.float x)) (minus negative ++ cs) := by
  obtain ⟨whole, fraction, point, mark, power, hwhole, hfraction, hpower, hreal, rfl, heq⟩ := h
  rw [← hx, ← heq negative]
  exact .real hwhole hfraction hpower hreal

/-- The text of a number in normal form spells a decimal that is rounded to the number. -/
theorem finite_chars (hnormal : Binary64.Normal (.finite negative m e)) :
    ∃ s k cs, (Binary64.finite negative m e).chars = minus negative ++ cs ∧ SpellsDecimal s k cs ∧
      Binary64.ofDecimal ⟨negative, s, k⟩ = .finite negative m e := by
  rcases Nat.eq_zero_or_pos m with rfl | hm
  · obtain rfl : e = Binary64.leastExponent := by
      obtain ⟨_, _, _, hleast | hfull⟩ := hnormal
      · exact hleast
      · omega
    have hzero : SpellsDecimal 0 (-1) ['0', '.', '0'] :=
      ⟨['0'], ['0'], ['.', '0'], [], none, .inl rfl, .point ⟨by simp, by simp⟩, .absent, .inl (by simp), rfl,
        fun _ => rfl⟩
    exact ⟨0, -1, _, rfl, hzero, rfl⟩
  · have hback := Binary64.shortest_reads_back hm hnormal
    have hlayout := digitsAndPoint_spells (Binary64.significand_ne_zero hback hm)
    refine ⟨_, _, _, ?_, hlayout, Binary64.ofDecimal_sign hback negative⟩
    simp only [Binary64.chars, if_neg hm.ne', minus]

theorem finite_spells (hnormal : Binary64.Normal (.finite negative m e)) :
    Spells D (.value (.float (.finite negative m e))) (Binary64.finite negative m e).chars := by
  obtain ⟨s, k, cs, hchars, hspells, hvalue⟩ := finite_chars hnormal
  rw [hchars]
  exact hspells.spells negative hvalue

end Floats

end Amalgam.Json
