import Amalgam.Number.Decimal
import Amalgam.Number.Digit
import Amalgam.Text.Quoted
import Mathlib.Data.Nat.Digits.Defs
import Mathlib.Tactic.IntervalCases
/-!
# Rows of digits

What a row of decimal digits denotes, put together from its parts, and that the digits which are written for a number
denote it. Four hexadecimal digits are the digits of a number below `16 ^ 4` one by one.
-/

namespace Amalgam.Number

open Amalgam.Text

/-! ### Values of rows -/

theorem digitsValue_eq (digits : List Char) : digitsValue digits = Nat.ofDigitChars 10 digits 0 := by
  simp only [digitsValue, Nat.ofDigitChars_eq_foldl, Nat.mul_comm 10]

@[simp]
theorem digitsValue_nil : digitsValue [] = 0 :=
  rfl

theorem digitsValue_append (front back : List Char) :
    digitsValue (front ++ back) = digitsValue front * 10 ^ back.length + digitsValue back := by
  simp only [digitsValue_eq, Nat.ofDigitChars_append]
  rw [Nat.ofDigitChars_eq_ofDigitChars_zero, Nat.mul_comm]

@[simp]
theorem digitsValue_zeros (n : Nat) : digitsValue (List.replicate n '0') = 0 := by
  simp [digitsValue_eq]

@[simp]
theorem digitsValue_toDigits (n : Nat) : digitsValue (Nat.toDigits 10 n) = n := by
  rw [digitsValue_eq, Nat.ofDigitChars_toDigits (by decide) (by decide)]

theorem digitsValue_digit_lt {c : Char} (h : c.isDigit = true) : digitsValue [c] < 10 := by
  simp only [Char.isDigit, Bool.and_eq_true, decide_eq_true_eq] at h
  have hle : c.toNat ≤ 57 := UInt32.le_iff_toNat_le.mp h.2
  change 0 * 10 + (c.toNat - 48) < 10
  omega

theorem digitsValue_lt {digits : List Char} (h : ∀ c ∈ digits, c.isDigit = true) :
    digitsValue digits < 10 ^ digits.length := by
  induction digits with
  | nil => simp
  | cons c rest ih =>
    obtain ⟨hc, hrest⟩ := List.forall_mem_cons.mp h
    have hfirst : digitsValue [c] * 10 ^ rest.length ≤ 9 * 10 ^ rest.length :=
      Nat.mul_le_mul_right _ (by have := digitsValue_digit_lt hc; omega)
    have := ih hrest
    rw [← List.singleton_append, digitsValue_append, List.length_append, List.length_singleton, Nat.pow_add]
    omega

/-! ### Digits of a number -/

theorem isDigit_toDigits {n : Nat} {c : Char} (h : c ∈ Nat.toDigits 10 n) : c.isDigit = true :=
  Nat.isDigit_of_mem_toDigits (by decide) (by decide) h

theorem lt_pow_length_toDigits (n : Nat) : n < 10 ^ (Nat.toDigits 10 n).length :=
  (Nat.length_toDigits_le_iff (by decide) Nat.length_toDigits_pos).mp le_rfl

theorem pow_le_iff_lt_length_toDigits {n k : Nat} (hk : 0 < k) : 10 ^ k ≤ n ↔ k < (Nat.toDigits 10 n).length := by
  rw [← not_iff_not, not_le, not_lt, Nat.length_toDigits_le_iff (by decide) hk]

theorem head_toDigits_ne_zero {n : Nat} (hn : 0 < n) : (Nat.toDigits 10 n).head? ≠ some '0' := by
  intro hzero
  obtain ⟨rest, heq⟩ := List.head?_eq_some_iff.mp hzero
  have hvalue : digitsValue rest = n := by
    rw [← digitsValue_toDigits n, heq, ← List.singleton_append, digitsValue_append]
    simp [digitsValue]
  have hlt : n < 10 ^ rest.length :=
    hvalue ▸ digitsValue_lt fun c hc => isDigit_toDigits (n := n) (by simp [heq, hc])
  have hlength : (Nat.toDigits 10 n).length = rest.length + 1 := by rw [heq, List.length_cons]
  rcases Nat.eq_zero_or_pos rest.length with hnil | hpos
  · rw [hnil] at hlt
    omega
  · have := (Nat.length_toDigits_le_iff (by decide) hpos).mpr hlt
    omega

theorem length_toDigits_mul_pow {n : Nat} (hn : 0 < n) (k : Nat) :
    (Nat.toDigits 10 (n * 10 ^ k)).length = (Nat.toDigits 10 n).length + k := by
  have hpos := Nat.length_toDigits_pos (b := 10) (n := n)
  apply le_antisymm
  · rw [Nat.length_toDigits_le_iff (by decide) (by omega), Nat.pow_add]
    exact Nat.mul_lt_mul_of_pos_right (lt_pow_length_toDigits n) (by positivity)
  · rcases Nat.eq_or_lt_of_le hpos with hone | hmore
    · rcases Nat.eq_zero_or_pos k with rfl | hk
      · simp
      · have := (pow_le_iff_lt_length_toDigits hk).mp (Nat.le_mul_of_pos_left (10 ^ k) hn)
        omega
    · have hle : 10 ^ ((Nat.toDigits 10 n).length - 1) ≤ n :=
        (pow_le_iff_lt_length_toDigits (by omega)).mpr (by omega)
      have hmul : 10 ^ ((Nat.toDigits 10 n).length - 1 + k) ≤ n * 10 ^ k := by
        rw [Nat.pow_add]
        exact Nat.mul_le_mul_right _ hle
      have := (pow_le_iff_lt_length_toDigits (by omega)).mp hmul
      omega

/-! ### Hexadecimal digits -/

theorem hexValue?_digitChar {n : Nat} (hn : n < 16) : hexValue? n.digitChar = some n := by
  interval_cases n <;> rfl

theorem hex_four {n : Nat} (hn : n < 16 ^ 4) :
    hex 4 n = [(n / 4096).digitChar, (n / 256 % 16).digitChar, (n / 16 % 16).digitChar, (n % 16).digitChar] := by
  have step (m : Nat) := Nat.toDigits_eq_if (b := 16) (n := m) (by decide)
  rw [hex, padStart]
  rcases Nat.lt_or_ge n 16 with h₁ | h₁
  · rw [step, if_pos h₁, Nat.div_eq_of_lt (by omega : n < 4096), Nat.div_eq_of_lt (by omega : n < 256),
      Nat.div_eq_of_lt h₁, Nat.mod_eq_of_lt h₁]
    rfl
  rcases Nat.lt_or_ge n 256 with h₂ | h₂
  · rw [step, if_neg (by omega), step, if_pos (by omega), Nat.div_eq_of_lt (by omega : n < 4096),
      Nat.div_eq_of_lt h₂, Nat.mod_eq_of_lt (by omega : n / 16 < 16)]
    rfl
  rcases Nat.lt_or_ge n 4096 with h₃ | h₃
  · rw [step, if_neg (by omega), step, if_neg (by omega), step, if_pos (by omega), Nat.div_eq_of_lt h₃,
      show n / 16 / 16 = n / 256 by omega, Nat.mod_eq_of_lt (by omega : n / 256 < 16)]
    rfl
  · rw [step, if_neg (by omega), step, if_neg (by omega), step, if_neg (by omega), step, if_pos (by omega),
      show n / 16 / 16 = n / 256 by omega, show n / 256 / 16 = n / 4096 by omega]
    rfl

end Amalgam.Number
