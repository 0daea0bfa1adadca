import Amalgam.Proofs.Text.RawBytes
import Amalgam.Rename.File
import Mathlib.Data.List.Infix
/-!
# Line ends in bytes

A line ends in a line feed, alone or as a pair with a carriage return in front. Both are bytes below 128, which never
stand inside the encoding of another character and never are raw. So line ends can be changed in a text or in its bytes
with the same result. Making pairs of the line feeds and taking the pairs apart again changes nothing; the other way
round it does, and a pair with a second carriage return in front leaves a pair behind.
-/

namespace Amalgam.Text

variable {α : Type} {bytes : List UInt8} {g : Glyph} {text rest : List Glyph}

/-- Every carriage return with a line feed behind it becomes this line feed. -/
def unpaired : List UInt8 → List UInt8
  | [] => []
  | [b] => [b]
  | b :: c :: rest => if b = 13 ∧ c = 10 then 10 :: unpaired rest else b :: unpaired (c :: rest)

/-- Every line feed becomes a carriage return with a line feed behind it. -/
def paired (bytes : List UInt8) : List UInt8 :=
  bytes.flatMap fun b => if b = 10 then [13, 10] else [b]

/-- Every line feed has a carriage return in front. -/
def AllPaired (bytes : List UInt8) : Prop :=
  ∀ front back, bytes = front ++ 10 :: back → front.getLast? = some 13

/-- No line feed has a carriage return in front. -/
def NonePaired (bytes : List UInt8) : Prop :=
  ∀ front back, bytes = front ++ 10 :: back → front.getLast? ≠ some 13

/-! ### Neighbours in a list -/

theorem pair_infix_cons {x y a : α} {l : List α} :
    [x, y] <:+: a :: l ↔ (a = x ∧ l.head? = some y) ∨ [x, y] <:+: l := by
  rw [List.infix_cons_iff, List.cons_prefix_cons, eq_comm]
  refine or_congr_left (and_congr_right fun _ => ?_)
  cases l with
  | nil => simp
  | cons b l => simp [eq_comm]

theorem pair_infix_append {x y : α} {s t : List α} (h : x ∉ s) : [x, y] <:+: s ++ t ↔ [x, y] <:+: t := by
  induction s with
  | nil => rfl
  | cons a s ih =>
    rw [List.mem_cons, not_or] at h
    rw [List.cons_append, pair_infix_cons, ih h.2, or_iff_right]
    exact fun hfirst => h.1 hfirst.1.symm

theorem nonePaired_iff : NonePaired bytes ↔ ¬ [13, 10] <:+: bytes := by
  constructor
  · rintro hnone ⟨front, back, rfl⟩
    exact hnone (front ++ [13]) back (by simp) (by simp)
  · rintro hnot front back rfl hlast
    obtain ⟨front, rfl⟩ := List.getLast?_eq_some_iff.mp hlast
    exact hnot ⟨front, back, by simp⟩

instance (bytes : List UInt8) : Decidable (NonePaired bytes) :=
  decidable_of_iff' _ nonePaired_iff

/-! ### Pairs made and taken apart -/

theorem dropBefore_cons [DecidableEq α] (x y a : α) (l : List α) : dropBefore x y (a :: l) =
    if a = x ∧ l.head? = some y then dropBefore x y l else a :: dropBefore x y l := by
  cases l with
  | nil => simp [dropBefore]
  | cons b l => simp [dropBefore]

theorem dropBefore_append [DecidableEq α] {x : α} {s : List α} (h : x ∉ s) (y : α) (t : List α) :
    dropBefore x y (s ++ t) = s ++ dropBefore x y t := by
  induction s with
  | nil => rfl
  | cons a s ih =>
    rw [List.mem_cons, not_or] at h
    rw [List.cons_append, dropBefore_cons, if_neg fun hpair => h.1 hpair.1.symm, ih h.2, List.cons_append]

/-- To take pairs apart is to drop their carriage returns. -/
theorem unpaired_eq (bytes : List UInt8) : unpaired bytes = dropBefore 13 10 bytes := by
  fun_induction unpaired bytes with
  | case1 => rfl
  | case2 b => rfl
  | case3 b c rest hpair ih => rw [dropBefore, if_pos hpair, hpair.2, dropBefore_cons, if_neg (by simp), ih]
  | case4 b c rest hpair ih => rw [dropBefore, if_neg hpair, ih]

theorem unpaired_cons (b : UInt8) (bytes : List UInt8) : unpaired (b :: bytes) =
    if b = 13 ∧ bytes.head? = some 10 then unpaired bytes else b :: unpaired bytes := by
  rw [unpaired_eq, unpaired_eq, dropBefore_cons]

theorem paired_cons (b : UInt8) (bytes : List UInt8) :
    paired (b :: bytes) = (if b = 10 then [13, 10] else [b]) ++ paired bytes :=
  List.flatMap_cons

theorem unpaired_append {s : List UInt8} (h : 13 ∉ s) (t : List UInt8) : unpaired (s ++ t) = s ++ unpaired t := by
  rw [unpaired_eq, unpaired_eq, dropBefore_append h]

theorem head_paired_ne (bytes : List UInt8) : (paired bytes).head? ≠ some 10 := by
  cases bytes with
  | nil => simp [paired]
  | cons b bytes =>
    rw [paired_cons]
    split_ifs with hb
    · simp
    · simpa using hb

theorem unpaired_paired (bytes : List UInt8) : unpaired (paired bytes) = bytes := by
  induction bytes with
  | nil => rfl
  | cons b bytes ih =>
    rw [paired_cons]
    split_ifs with hb
    · rw [List.cons_append, unpaired_cons, if_pos ⟨rfl, rfl⟩, List.singleton_append, unpaired_cons,
        if_neg (by simp), ih, hb]
    · rw [List.singleton_append, unpaired_cons, if_neg fun hpair => head_paired_ne bytes hpair.2, ih]

theorem allPaired_paired (bytes : List UInt8) : AllPaired (paired bytes) := by
  intro front back h
  induction bytes generalizing front with
  | nil => simp [paired] at h
  | cons b bytes ih =>
    rw [paired_cons] at h
    split_ifs at h with hb
    · match front with
      | [] => simp at h
      | [x] => simp_all
      | x :: y :: front =>
        obtain ⟨-, -, h⟩ : (13 : UInt8) = x ∧ (10 : UInt8) = y ∧ paired bytes = front ++ 10 :: back := by simpa using h
        rw [List.getLast?_cons_cons, List.getLast?_cons, ih front h]
        rfl
    · match front with
      | [] => simp_all
      | x :: front =>
        obtain ⟨-, h⟩ : b = x ∧ paired bytes = front ++ 10 :: back := by simpa using h
        rw [List.getLast?_cons, ih front h]
        rfl

theorem unpaired_eq_self_iff : unpaired bytes = bytes ↔ NonePaired bytes := by
  have hshort : ∀ bytes, (unpaired bytes).length ≤ bytes.length := by
    intro bytes
    induction bytes with
    | nil => exact Nat.le_refl 0
    | cons b bytes ih =>
      rw [unpaired_cons]
      split_ifs
      · exact Nat.le_succ_of_le ih
      · exact Nat.succ_le_succ ih
  rw [nonePaired_iff]
  induction bytes with
  | nil => simp [unpaired]
  | cons b bytes ih =>
    rw [unpaired_cons, pair_infix_cons, not_or]
    split_ifs with hpair
    · -- A pair that is taken apart leaves less than there was.
      refine iff_of_false (fun h => ?_) fun h => h.1 hpair
      have hle := hshort bytes
      rw [h, List.length_cons] at hle
      omega
    · rw [List.cons_inj_right]
      exact ih.trans (and_iff_right hpair).symm

theorem head_unpaired (bytes : List UInt8) :
    (unpaired bytes).head? = some 10 ↔ bytes.head? = some 10 ∨ [13, 10] <+: bytes := by
  match bytes with
  | [] => simp [unpaired]
  | [b] => simp [unpaired]
  | b :: c :: rest =>
    rw [unpaired]
    split_ifs with hpair
    · simp [hpair]
    · have hnot : ¬ [13, 10] <+: b :: c :: rest := by
        rw [List.cons_prefix_cons, List.cons_prefix_cons]
        exact fun h => hpair ⟨h.1.symm, h.2.1.symm⟩
      simp [hnot]

/-- A pair is left behind by a pair with a second carriage return in front, and only by this. -/
theorem nonePaired_unpaired_iff : NonePaired (unpaired bytes) ↔ ¬ [13, 13, 10] <:+: bytes := by
  rw [nonePaired_iff, not_iff_not]
  induction bytes with
  | nil => simp [unpaired]
  | cons b bytes ih =>
    rw [unpaired_cons, List.infix_cons_iff, List.cons_prefix_cons, ← ih]
    split_ifs with hpair
    · refine (or_iff_right ?_).symm
      rintro ⟨-, hprefix⟩
      obtain ⟨more, rfl⟩ := hprefix
      simp at hpair
    · rw [pair_infix_cons, head_unpaired, eq_comm]
      refine or_congr_left (and_congr_right fun hb => or_iff_right ?_)
      exact fun hhead => hpair ⟨hb.symm, hhead⟩

/-! ### Bytes and characters -/

theorem utf8Bytes_ascii {c : Char} (h : c.toNat < 128) : utf8Bytes c = [c.toNat.toUInt8] := by
  simp only [utf8Bytes]
  exact if_pos h

theorem high_of_utf8Bytes {c : Char} (h : 128 ≤ c.toNat) : ∀ b ∈ utf8Bytes c, 128 ≤ b.toNat := by
  have hbound : c.toNat < 0x110000 := by
    rcases c.valid with hlow | hhigh
    · exact Nat.lt_trans hlow (by decide)
    · exact hhigh.2
  have hcontinuation : ∀ n, 128 ≤ (0x80 + n % 64).toUInt8.toNat := fun n => by
    rw [toNat_continuation]
    omega
  have hlead : ∀ k, 128 ≤ k → k < 256 → 128 ≤ k.toUInt8.toNat := fun k hk hk' => by rwa [toNat_toUInt8 hk']
  simp only [utf8Bytes]
  rw [if_neg (by omega)]
  split_ifs
  · simp only [List.forall_mem_cons, hcontinuation, true_and]
    exact ⟨hlead _ (by omega) (by omega), by simp⟩
  · simp only [List.forall_mem_cons, hcontinuation, true_and]
    exact ⟨hlead _ (by omega) (by omega), by simp⟩
  · simp only [List.forall_mem_cons, hcontinuation, true_and]
    exact ⟨hlead _ (by omega) (by omega), by simp⟩

/-- An ASCII byte stands for its character and is part of no other. -/
theorem mem_utf8Encoded_ascii {c : Char} (hc : c.toNat < 128) (hraw : RawHigh [g]) :
    c.toNat.toUInt8 ∈ utf8Encoded [g] ↔ g = .char c := by
  have hbyte : c.toNat.toUInt8.toNat = c.toNat := toNat_toUInt8 (by omega)
  constructor
  · intro hmem
    cases g with
    | byte b =>
      obtain rfl : c.toNat.toUInt8 = b := by simpa [utf8Encoded] using hmem
      have hhigh := UInt8.le_iff_toNat_le.mp (hraw _ List.mem_cons_self)
      rw [hbyte] at hhigh
      exact absurd hhigh (Nat.not_le.mpr hc)
    | char d =>
      have hmem : c.toNat.toUInt8 ∈ utf8Bytes d := by simpa [utf8Encoded] using hmem
      by_cases hd : d.toNat < 128
      · rw [utf8Bytes_ascii hd, List.mem_singleton, ← UInt8.toNat_inj, hbyte, toNat_toUInt8 (by omega)] at hmem
        rw [← Char.ofNat_toNat d, ← hmem, Char.ofNat_toNat]
      · have hhigh := high_of_utf8Bytes (by omega) _ hmem
        omega
  · rintro rfl
    simp [utf8Encoded, utf8Bytes_ascii hc]

theorem RawHigh.head (h : RawHigh (g :: rest)) : RawHigh [g] := by
  intro b hb
  exact h b (List.mem_cons.mpr (Or.inl (List.mem_singleton.mp hb)))

theorem RawHigh.tail (h : RawHigh (g :: rest)) : RawHigh rest :=
  fun b hb => h b (List.mem_cons_of_mem g hb)

theorem utf8Encoded_cons (g : Glyph) (rest : List Glyph) :
    utf8Encoded (g :: rest) = utf8Encoded [g] ++ utf8Encoded rest :=
  utf8Encoded_append [g] rest

theorem utf8Encoded_single_ne_nil (g : Glyph) : utf8Encoded [g] ≠ [] := by
  cases g with
  | byte b => simp [utf8Encoded]
  | char c =>
    obtain ⟨b, bs, hbytes, -⟩ := utf8Piece_utf8Bytes c
    simp [utf8Encoded, hbytes]

/-- A text starts with an ASCII character exactly if its bytes start with that byte. -/
theorem head_utf8Encoded {c : Char} (hc : c.toNat < 128) (hraw : RawHigh text) :
    (utf8Encoded text).head? = some c.toNat.toUInt8 ↔ text.head? = some (.char c) := by
  cases text with
  | nil => simp [utf8Encoded]
  | cons g rest =>
    rw [utf8Encoded_cons, List.head?_append_of_ne_nil _ (utf8Encoded_single_ne_nil g), List.head?_cons,
      Option.some.injEq, ← mem_utf8Encoded_ascii hc hraw.head]
    constructor
    · exact List.mem_of_mem_head?
    · intro hmem
      rw [(mem_utf8Encoded_ascii hc hraw.head).mp hmem]
      simp [utf8Encoded, utf8Bytes_ascii hc]

theorem no_return_byte (hraw : RawHigh [g]) (h : g ≠ .char '\r') : 13 ∉ utf8Encoded [g] :=
  fun hmem => h ((mem_utf8Encoded_ascii (c := '\r') (by decide) hraw).mp hmem)

theorem no_feed_byte (hraw : RawHigh [g]) (h : g ≠ .char '\n') : 10 ∉ utf8Encoded [g] :=
  fun hmem => h ((mem_utf8Encoded_ascii (c := '\n') (by decide) hraw).mp hmem)

/-- Neighbours in the text are neighbours in the bytes. -/
theorem pair_utf8Encoded (hraw : RawHigh text) :
    [13, 10] <:+: utf8Encoded text ↔ [Glyph.char '\r', Glyph.char '\n'] <:+: text := by
  induction text with
  | nil => simp [utf8Encoded]
  | cons g rest ih =>
    rw [utf8Encoded_cons, pair_infix_cons, ← ih hraw.tail]
    by_cases hg : g = .char '\r'
    · subst hg
      change [13, 10] <:+: 13 :: utf8Encoded rest ↔ _
      rw [pair_infix_cons, ← head_utf8Encoded (by decide) hraw.tail]
      exact or_congr_left (and_congr_left fun _ => iff_of_true rfl rfl)
    · rw [pair_infix_append (no_return_byte hraw.head hg)]
      exact (or_iff_right fun hfirst => hg hfirst.1).symm

end Amalgam.Text

namespace Amalgam.Rename

open Amalgam.Text

variable {g : Glyph} {text rest : List Glyph} {eol : String}

theorem normalizeNewlines_cons (g : Glyph) (rest : List Glyph) : normalizeNewlines (g :: rest) =
    if g = .char '\r' ∧ rest.head? = some (.char '\n') then normalizeNewlines rest
    else g :: normalizeNewlines rest :=
  dropBefore_cons _ _ g rest

theorem normalizeNewlines_append {front : List Glyph} (h : .char '\r' ∉ front) (rest : List Glyph) :
    normalizeNewlines (front ++ rest) = front ++ normalizeNewlines rest :=
  dropBefore_append h _ rest

theorem normalizeNewlines_rawHigh (h : RawHigh text) : RawHigh (normalizeNewlines text) := by
  induction text with
  | nil => exact h
  | cons g rest ih =>
    rw [normalizeNewlines_cons]
    split_ifs
    · exact ih h.tail
    · exact h.head.append (ih h.tail)

/-- Pairs can be taken apart before or after encoding. -/
theorem utf8Encoded_normalizeNewlines (h : RawHigh text) :
    utf8Encoded (normalizeNewlines text) = unpaired (utf8Encoded text) := by
  induction text with
  | nil => rfl
  | cons g rest ih =>
    rw [normalizeNewlines_cons, utf8Encoded_cons]
    by_cases hg : g = .char '\r'
    · subst hg
      change _ = unpaired (13 :: utf8Encoded rest)
      have hfeed := head_utf8Encoded (c := '\n') (by decide) h.tail
      rw [unpaired_cons, ← ih h.tail]
      by_cases hnext : rest.head? = some (.char '\n')
      · rw [if_pos ⟨rfl, hnext⟩, if_pos ⟨rfl, hfeed.mpr hnext⟩]
      · rw [if_neg fun hpair => hnext hpair.2, if_neg fun hpair => hnext (hfeed.mp hpair.2), utf8Encoded_cons]
        rfl
    · rw [if_neg fun hpair => hg hpair.1, utf8Encoded_cons, ih h.tail, unpaired_append (no_return_byte h.head hg)]

/-- Line ends can be put in before or after encoding. -/
theorem utf8Encoded_withLineEnd (h : RawHigh text) : utf8Encoded (withLineEnd eol text) =
    (utf8Encoded text).flatMap fun b => if b = 10 then utf8Encoded (glyphs eol) else [b] := by
  induction text with
  | nil => rfl
  | cons g rest ih =>
    rw [utf8Encoded_cons, List.flatMap_append, ← ih h.tail, withLineEnd, substitute, List.flatMap_cons,
      utf8Encoded_append]
    congr 1
    by_cases hg : g = .char '\n'
    · subst hg
      simp [utf8Encoded, utf8Bytes_ascii (c := '\n') (by decide)]
    · have hplain : ∀ b ∈ utf8Encoded [g], (if b = 10 then utf8Encoded (glyphs eol) else [b]) = [b] := by
        intro b hb
        refine if_neg ?_
        rintro rfl
        exact no_feed_byte h.head hg hb
      rw [if_neg hg, List.flatMap_congr hplain, List.flatMap_singleton']

theorem utf8Encoded_withLineEnd_feed (h : RawHigh text) : utf8Encoded (withLineEnd "\n" text) = utf8Encoded text := by
  rw [utf8Encoded_withLineEnd h]
  have hsame : ∀ b : UInt8, (if b = 10 then utf8Encoded (glyphs "\n") else [b]) = [b] := by
    intro b
    split_ifs with hb
    · subst hb
      decide
    · rfl
  simp only [hsame, List.flatMap_singleton']

theorem utf8Encoded_withLineEnd_pair (h : RawHigh text) :
    utf8Encoded (withLineEnd "\r\n" text) = paired (utf8Encoded text) := by
  have hpair : utf8Encoded (glyphs "\r\n") = [13, 10] := by decide
  rw [utf8Encoded_withLineEnd h, hpair]
  rfl

end Amalgam.Rename
