import Amalgam.Proofs.Json.Reading
import Amalgam.Proofs.Json.Writing
/-!
# Writing and reading again

What the dialect of the reader can say is read from what is written for it. Everything that the reader returns can be
said: its whole numbers have no more digits than it takes, and its floating-point numbers are in normal form.
-/

namespace Amalgam.Json

open Amalgam.Number Amalgam.Text

/-- A value is read from its own text, in which no carriage return stands. -/
theorem parse_write {v : Value} (hv : Sayable .readable v) (hreadable : Readable maxDepth v) (style : Style) :
    ∃ s, write style v = .ok s ∧ '\r' ∉ s.toList ∧ parse s = .ok v := by
  obtain ⟨s, hs, hclean, hdocument⟩ := write_document hv style
  have h := hdocument "" (by simp [Blank])
  rw [String.append_empty] at h
  exact ⟨s, hs, hclean, parse_spelled h hreadable⟩

/-! ### What is read -/

section Sayable

variable {cs rest : List Char} {v : Value}

theorem sayable_float {x : Binary64} (h : x.Normal) : Sayable .readable (.float x) := by
  cases x with
  | nan => exact .nan (by simp [Dialect.readable, words])
  | infinite negative => exact .infinite negative (by cases negative <;> simp [Dialect.readable, words])
  | finite => exact .finite h

theorem sayable_word (h : word? cs = some (v, rest)) : Sayable .readable v := by
  obtain ⟨w, hw, heq⟩ := Option.map_eq_some_iff.mp h
  have hmem : w ∈ words := List.mem_of_find?_eq_some hw
  obtain rfl : w.2 = v := congrArg Prod.fst heq
  simp only [words, List.mem_cons, List.not_mem_nil, or_false] at hmem
  rcases hmem with rfl | rfl | rfl | rfl | rfl | rfl
  · exact .null (by simp [Dialect.readable, words])
  · exact .bool true (by simp [Dialect.readable, words])
  · exact .bool false (by simp [Dialect.readable, words])
  all_goals exact sayable_float trivial

/-- Digits denote a number that has no more digits than they are. -/
theorem length_toDigits_digitsValue {ds : List Char} (h : IsDigits ds) :
    (Nat.toDigits 10 (digitsValue ds)).length ≤ ds.length :=
  (Nat.length_toDigits_le_iff (by decide) (List.length_pos_of_ne_nil h.1)).mpr (digitsValue_lt h.2)

theorem isDigits_wholePart (h : ¬ (wholePart cs).1.isEmpty = true) : IsDigits (wholePart cs).1 := by
  refine ⟨by simpa using h, ?_⟩
  unfold wholePart
  split
  · simp
  · exact fun c hc => List.mem_takeWhile_imp hc

theorem sayable_signed (negative : Bool) {ds : List Char} (h : IsDigits ds) (hlimit : ¬ digitLimit < ds.length) :
    Sayable .readable (.int (signed negative (digitsValue ds))) := by
  have habs : (signed negative (digitsValue ds)).natAbs = digitsValue ds := by cases negative <;> simp [signed]
  refine .int _ ?_
  rw [habs]
  exact (length_toDigits_digitsValue h).trans (not_lt.mp hlimit)

theorem sayable_number (h : number cs = .ok (v, rest)) : Sayable .readable v := by
  unfold number at h
  dsimp only at h
  split_ifs at h with hempty _ hlimit
  · obtain rfl := congrArg Prod.fst (Except.ok.inj h)
    exact sayable_signed true (isDigits_wholePart hempty) hlimit
  · obtain rfl := congrArg Prod.fst (Except.ok.inj h)
    exact sayable_signed false (isDigits_wholePart hempty) hlimit
  · obtain rfl := congrArg Prod.fst (Except.ok.inj h)
    exact sayable_float (Binary64.ofDecimal_normal _)

/-- Everything that is read can be written. -/
theorem inherited_sayable : Inherited (Sayable .readable) where
  word := sayable_word
  number := sayable_number
  text := .text
  list := .list
  map hnamed hall := .map hnamed.texts hall

end Sayable

end Amalgam.Json
