import Amalgam.Proofs.Text.Utf8
import Mathlib.Data.List.TakeWhile
/-!
# Every file has a text

Where bytes that are no text are kept, nothing can go wrong in decoding UTF-8 and nothing is lost. At each byte there
starts either a character, whose encoding is exactly the bytes that were taken for it, or a stretch of bytes that begin
no character, all of which are from 128 up and so kept as they are. Encoding the text gives back the bytes of the file,
whatever they were.
-/

namespace Amalgam.Text

variable {b : UInt8} {rest : List UInt8} {ranges : List (UInt8 × UInt8)}

/-! ### What the first byte allows -/

theorem utf8Follow_none {b : UInt8} (h : 0x80 ≤ b.toNat ∧ b.toNat < 0xC2 ∨ 0xF4 < b.toNat) : utf8Follow b = none := by
  simp only [utf8Follow, UInt8.lt_iff_toNat_lt, ← UInt8.toNat_inj, UInt8.reduceToNat]
  rcases h with h | h
  · rw [if_neg (by omega), if_pos h.2]
  · rw [if_neg (by omega), if_neg (by omega), if_neg (by omega), if_neg (by omega), if_neg (by omega),
      if_neg (by omega), if_neg (by omega), if_neg (by omega), if_neg (by omega)]

/-- The first bytes and what they ask for, by the length of the encoding. -/
theorem utf8Follow_cases (h : utf8Follow b = some ranges) :
    b.toNat < 0x80 ∧ ranges = [] ∨
    (0xC2 ≤ b.toNat ∧ b.toNat < 0xE0) ∧ ranges = [(0x80, 0xBF)] ∨
    (0xE0 ≤ b.toNat ∧ b.toNat < 0xF0) ∧ ranges =
      [(if b.toNat = 0xE0 then 0xA0 else 0x80, if b.toNat = 0xED then 0x9F else 0xBF), (0x80, 0xBF)] ∨
    (0xF0 ≤ b.toNat ∧ b.toNat ≤ 0xF4) ∧ ranges =
      [(if b.toNat = 0xF0 then 0x90 else 0x80, if b.toNat = 0xF4 then 0x8F else 0xBF), (0x80, 0xBF), (0x80, 0xBF)] := by
  by_cases hone : b.toNat < 0x80
  · rw [utf8Follow_one hone] at h
    exact Or.inl ⟨hone, (Option.some.inj h).symm⟩
  by_cases hnone : b.toNat < 0xC2 ∨ 0xF4 < b.toNat
  · rw [utf8Follow_none (by omega)] at h
    cases h
  by_cases htwo : b.toNat < 0xE0
  · rw [utf8Follow_two (by omega) htwo] at h
    exact Or.inr (Or.inl ⟨by omega, (Option.some.inj h).symm⟩)
  by_cases hthree : b.toNat < 0xF0
  · rw [utf8Follow_three (by omega) hthree] at h
    exact Or.inr (Or.inr (Or.inl ⟨by omega, (Option.some.inj h).symm⟩))
  · rw [utf8Follow_four (by omega) (by omega)] at h
    exact Or.inr (Or.inr (Or.inr ⟨by omega, (Option.some.inj h).symm⟩))

/-- A continuation byte in a range. -/
def Within (r : UInt8 × UInt8) (b : UInt8) : Prop :=
  r.1 ≤ b ∧ b ≤ r.2

theorem Within.toNat {r : UInt8 × UInt8} (h : Within r b) : r.1.toNat ≤ b.toNat ∧ b.toNat ≤ r.2.toNat :=
  ⟨UInt8.le_iff_toNat_le.mp h.1, UInt8.le_iff_toNat_le.mp h.2⟩

/-- What is taken behind the first byte lies in the ranges, as far as it goes. -/
theorem exists_fitting (ranges : List (UInt8 × UInt8)) (rest : List UInt8) :
    ∃ more, rest = fitting ranges rest ++ more ∧
      List.Forall₂ Within (ranges.take (fitting ranges rest).length) (fitting ranges rest) := by
  induction ranges generalizing rest with
  | nil => exact ⟨rest, by simp [fitting], by simp [fitting]⟩
  | cons r ranges ih =>
    cases rest with
    | nil => exact ⟨[], by simp [fitting], by simp [fitting]⟩
    | cons b rest =>
      obtain ⟨more, hrest, hwithin⟩ := ih rest
      rw [fitting]
      split_ifs with hb
      · refine ⟨more, by rw [List.cons_append, ← hrest], ?_⟩
        have hfirst : Within r b := by simpa [Within] using hb
        exact .cons hfirst hwithin
      · exact ⟨b :: rest, rfl, by simp⟩

/-- The bytes behind a first byte are all from 128 up. -/
theorem low_of_follow (h : utf8Follow b = some ranges) : ∀ r ∈ ranges, 128 ≤ r.1 := by
  have hlow : ∀ p : Prop, [Decidable p] → ∀ k : UInt8, 128 ≤ k → 128 ≤ if p then k else 0x80 := by
    intro p _ k hk
    split_ifs
    · exact hk
    · decide
  rcases utf8Follow_cases h with ⟨-, rfl⟩ | ⟨-, rfl⟩ | ⟨-, rfl⟩ | ⟨-, rfl⟩
  · simp
  · simp
  · simp only [List.forall_mem_cons]
    exact ⟨hlow _ _ (by decide), by decide, by simp⟩
  · simp only [List.forall_mem_cons]
    exact ⟨hlow _ _ (by decide), by decide, by decide, by simp⟩

theorem high_of_forall₂ {bs : List UInt8} (hlow : ∀ r ∈ ranges, 128 ≤ r.1) (h : List.Forall₂ Within ranges bs) :
    ∀ b ∈ bs, 128 ≤ b := by
  induction h with
  | nil => simp
  | cons hfirst _ ih =>
    intro b hb
    rcases List.mem_cons.mp hb with rfl | hb
    · exact UInt8.le_trans (hlow _ List.mem_cons_self) hfirst.1
    · exact ih (fun r hr => hlow r (List.mem_cons_of_mem _ hr)) b hb

/-! ### Characters from bytes -/

theorem toUInt8_eq {k : Nat} (h : k = b.toNat) : k.toUInt8 = b := by
  rw [← UInt8.toNat_inj, toNat_toUInt8 (h ▸ b.toNat_lt), h]

theorem toNat_ofNat_of_valid {n : Nat} (h : n < 0xD800 ∨ 0xDFFF < n ∧ n < 0x110000) : (Char.ofNat n).toNat = n := by
  have hvalid : n.isValidChar := h
  rw [Char.ofNat, dif_pos hvalid]
  rfl

/-- The bytes of a character by its code. -/
theorem utf8Bytes_ofNat {n : Nat} (h : n < 0xD800 ∨ 0xDFFF < n ∧ n < 0x110000) : utf8Bytes (Char.ofNat n) =
    if n < 0x80 then [n.toUInt8]
    else if n < 0x800 then [(0xC0 + n / 64).toUInt8, (0x80 + n % 64).toUInt8]
    else if n < 0x10000 then [(0xE0 + n / 4096).toUInt8, (0x80 + n / 64 % 64).toUInt8, (0x80 + n % 64).toUInt8]
    else [(0xF0 + n / 262144).toUInt8, (0x80 + n / 4096 % 64).toUInt8, (0x80 + n / 64 % 64).toUInt8,
      (0x80 + n % 64).toUInt8] := by
  unfold utf8Bytes
  rw [toNat_ofNat_of_valid h]

theorem utf8Bytes_one (hb : b.toNat < 0x80) : utf8Bytes (Char.ofNat b.toNat) = [b] := by
  rw [utf8Bytes_ofNat (by omega), if_pos hb, toUInt8_eq rfl]

theorem utf8Bytes_two {t : UInt8} (hb : 0xC2 ≤ b.toNat) (hb' : b.toNat < 0xE0) (ht : Within (0x80, 0xBF) t) :
    utf8Bytes (Char.ofNat ((b.toNat - 0xC0) * 64 + (t.toNat - 0x80))) = [b, t] := by
  have ht := ht.toNat
  simp only [UInt8.reduceToNat] at ht
  rw [utf8Bytes_ofNat (by omega), if_neg (by omega), if_pos (by omega), toUInt8_eq (b := b) (by omega),
    toUInt8_eq (b := t) (by omega)]

theorem utf8Bytes_three {t u : UInt8} (hb : 0xE0 ≤ b.toNat) (hb' : b.toNat < 0xF0)
    (ht : Within (if b.toNat = 0xE0 then 0xA0 else 0x80, if b.toNat = 0xED then 0x9F else 0xBF) t)
    (hu : Within (0x80, 0xBF) u) :
    utf8Bytes (Char.ofNat (((b.toNat - 0xE0) * 64 + (t.toNat - 0x80)) * 64 + (u.toNat - 0x80))) = [b, t, u] := by
  -- After `E0` the code needs three bytes because the second byte is high, and after `ED` it is no surrogate.
  have hcode : 0x800 ≤ ((b.toNat - 0xE0) * 64 + (t.toNat - 0x80)) * 64 + (u.toNat - 0x80) ∧
      (((b.toNat - 0xE0) * 64 + (t.toNat - 0x80)) * 64 + (u.toNat - 0x80) < 0xD800 ∨
        0xDFFF < ((b.toNat - 0xE0) * 64 + (t.toNat - 0x80)) * 64 + (u.toNat - 0x80)) ∧
      0x80 ≤ t.toNat ∧ t.toNat ≤ 0xBF ∧ 0x80 ≤ u.toNat ∧ u.toNat ≤ 0xBF := by
    have ht := ht.toNat
    have hu := hu.toNat
    simp only [apply_ite UInt8.toNat, UInt8.reduceToNat] at ht hu
    split_ifs at ht <;> omega
  obtain ⟨hthree, hvalid, ht, ht', hu, hu'⟩ := hcode
  generalize hn : ((b.toNat - 0xE0) * 64 + (t.toNat - 0x80)) * 64 + (u.toNat - 0x80) = n at hthree hvalid
  rw [utf8Bytes_ofNat (by omega), if_neg (by omega), if_neg (by omega), if_pos (by omega),
    toUInt8_eq (b := b) (by omega), toUInt8_eq (b := t) (by omega), toUInt8_eq (b := u) (by omega)]

theorem utf8Bytes_four {t u v : UInt8} (hb : 0xF0 ≤ b.toNat) (hb' : b.toNat ≤ 0xF4)
    (ht : Within (if b.toNat = 0xF0 then 0x90 else 0x80, if b.toNat = 0xF4 then 0x8F else 0xBF) t)
    (hu : Within (0x80, 0xBF) u) (hv : Within (0x80, 0xBF) v) :
    utf8Bytes (Char.ofNat ((((b.toNat - 0xF0) * 64 + (t.toNat - 0x80)) * 64 + (u.toNat - 0x80)) * 64 +
      (v.toNat - 0x80))) = [b, t, u, v] := by
  have hcode : 0x10000 ≤ (((b.toNat - 0xF0) * 64 + (t.toNat - 0x80)) * 64 + (u.toNat - 0x80)) * 64 +
        (v.toNat - 0x80) ∧
      (((b.toNat - 0xF0) * 64 + (t.toNat - 0x80)) * 64 + (u.toNat - 0x80)) * 64 + (v.toNat - 0x80) < 0x110000 ∧
      0x80 ≤ t.toNat ∧ t.toNat ≤ 0xBF ∧ 0x80 ≤ u.toNat ∧ u.toNat ≤ 0xBF ∧ 0x80 ≤ v.toNat ∧ v.toNat ≤ 0xBF := by
    have ht := ht.toNat
    have hu := hu.toNat
    have hv := hv.toNat
    simp only [apply_ite UInt8.toNat, UInt8.reduceToNat] at ht hu hv
    split_ifs at ht <;> omega
  obtain ⟨hfour, hvalid, ht, ht', hu, hu', hv, hv'⟩ := hcode
  generalize hn : (((b.toNat - 0xF0) * 64 + (t.toNat - 0x80)) * 64 + (u.toNat - 0x80)) * 64 + (v.toNat - 0x80) = n
    at hfour hvalid
  rw [utf8Bytes_ofNat (by omega), if_neg (by omega), if_neg (by omega), if_neg (by omega),
    toUInt8_eq (b := b) (by omega), toUInt8_eq (b := t) (by omega), toUInt8_eq (b := u) (by omega),
    toUInt8_eq (b := v) (by omega)]

/-- The code of a first byte and the bytes that it asks for is that of the character they are the encoding of. -/
theorem utf8Bytes_code {tail : List UInt8} (hfollow : utf8Follow b = some ranges)
    (htail : List.Forall₂ Within ranges tail) :
    utf8Bytes (Char.ofNat (tail.foldl (fun n t => n * 64 + (t.toNat - 0x80)) (utf8LeadBits b))) = b :: tail := by
  have hlead : utf8LeadBits b = if b.toNat < 0x80 then b.toNat else if b.toNat < 0xE0 then b.toNat - 0xC0
      else if b.toNat < 0xF0 then b.toNat - 0xE0 else b.toNat - 0xF0 := by
    simp only [utf8LeadBits, UInt8.lt_iff_toNat_lt, UInt8.reduceToNat]
  rw [hlead]
  rcases utf8Follow_cases hfollow with ⟨hone, rfl⟩ | ⟨htwo, rfl⟩ | ⟨hthree, rfl⟩ | ⟨hfour, rfl⟩
  · cases htail
    rw [if_pos hone]
    exact utf8Bytes_one hone
  · cases htail with
    | cons ht hnil =>
      cases hnil
      rw [if_neg (by omega), if_pos htwo.2]
      exact utf8Bytes_two htwo.1 htwo.2 ht
  · cases htail with
    | cons ht htail =>
      cases htail with
      | cons hu hnil =>
        cases hnil
        rw [if_neg (by omega), if_neg (by omega), if_pos hthree.2]
        exact utf8Bytes_three hthree.1 hthree.2 ht hu
  · cases htail with
    | cons ht htail =>
      cases htail with
      | cons hu htail =>
        cases htail with
        | cons hv hnil =>
          cases hnil
          rw [if_neg (by omega), if_neg (by omega), if_neg (by omega)]
          exact utf8Bytes_four hfour.1 hfour.2 ht hu hv

/-! ### Pieces -/

/-- What a piece can be: a character together with its encoding, or bytes from 128 up. -/
inductive Stands (b : UInt8) (rest : List UInt8) : Piece → Prop
  | character (c : Char) (tail more : List UInt8) (hrest : rest = tail ++ more) (hbytes : utf8Bytes c = b :: tail) :
    Stands b rest (.char c (tail.length + 1))
  | raw (tail more : List UInt8) (reason : String) (hrest : rest = tail ++ more)
    (hhigh : ∀ x ∈ b :: tail, (128 : UInt8) ≤ x) : Stands b rest (.fault (b :: tail) reason)

theorem stands_utf8Piece (b : UInt8) (rest : List UInt8) : Stands b rest (utf8Piece b rest) := by
  have hhigh : utf8Follow b ≠ some [] → (128 : UInt8) ≤ b := by
    intro hne
    by_contra hlow
    exact hne (utf8Follow_one (by simpa [UInt8.le_iff_toNat_le] using hlow))
  unfold utf8Piece
  cases hfollow : utf8Follow b with
  | none =>
    refine .raw [] rest _ rfl ?_
    simpa using hhigh (by simp [hfollow])
  | some ranges =>
    obtain ⟨more, hrest, hwithin⟩ := exists_fitting ranges rest
    dsimp only
    split_ifs with hall hend
    · rw [List.take_of_length_le (Nat.le_of_eq hall.symm)] at hwithin
      exact .character _ _ more hrest (utf8Bytes_code hfollow hwithin)
    all_goals
      refine .raw _ more _ hrest (List.forall_mem_cons.mpr ⟨hhigh ?_, ?_⟩)
      · rintro hnil
        obtain rfl := Option.some.inj (hfollow.symm.trans hnil)
        exact hall (by simp [fitting])
      · have hlow := low_of_follow hfollow
        exact high_of_forall₂ (fun r hr => hlow r (List.mem_of_mem_take hr)) hwithin

/-! ### Texts -/

/-- The raw bytes of a text are from 128 up. -/
def RawHigh (text : List Glyph) : Prop :=
  ∀ b, Glyph.byte b ∈ text → (128 : UInt8) ≤ b

theorem utf8Encoded_append (s t : List Glyph) : utf8Encoded (s ++ t) = utf8Encoded s ++ utf8Encoded t :=
  List.flatMap_append

theorem utf8Encoded_bytes (bs : List UInt8) : utf8Encoded (bs.map Glyph.byte) = bs := by
  induction bs with
  | nil => rfl
  | cons b bs ih => exact congrArg (b :: ·) ih

theorem RawHigh.append {s t : List Glyph} (hs : RawHigh s) (ht : RawHigh t) : RawHigh (s ++ t) := by
  intro b hb
  rcases List.mem_append.mp hb with hb | hb
  · exact hs b hb
  · exact ht b hb

/-- Decoding goes through, and what it has passed over is all that encoding does not give back. -/
theorem exists_decodeFrom (codec : String) (skip offset : Nat) (bytes : List UInt8) :
    ∃ text, decodeFrom codec utf8Piece true skip offset bytes = .ok text ∧ utf8Encoded text = bytes.drop skip ∧
      RawHigh text := by
  induction bytes generalizing skip offset with
  | nil => exact ⟨[], by simp [decodeFrom], by simp [utf8Encoded], by simp [RawHigh]⟩
  | cons b rest ih =>
    cases skip with
    | succ skip =>
      rw [decodeFrom, List.drop_succ_cons]
      exact ih skip (offset + 1)
    | zero =>
      rw [decodeFrom, List.drop_zero]
      cases hpiece : utf8Piece b rest with
      | chars cs size =>
        have hstands := hpiece ▸ stands_utf8Piece b rest
        cases hstands with
        | character c tail more hrest hbytes =>
          obtain ⟨text, hdecode, hencode, hhigh⟩ := ih tail.length (offset + 1)
          refine ⟨[Glyph.char c] ++ text, ?_, ?_, ?_⟩
          · simp [hdecode, Except.map]
          · rw [utf8Encoded_append, hencode, hrest, List.drop_left]
            simp [utf8Encoded, hbytes]
          · exact RawHigh.append (by simp [RawHigh]) hhigh
      | fault bs reason =>
        have hstands := hpiece ▸ stands_utf8Piece b rest
        cases hstands with
        | raw tail more _ hrest hbytes =>
          have hkept : (b :: tail).takeWhile (128 ≤ ·) = b :: tail :=
            List.takeWhile_eq_self_iff.mpr fun x hx => by simpa using hbytes x hx
          obtain ⟨text, hdecode, hencode, hhigh⟩ := ih tail.length (offset + 1)
          refine ⟨(b :: tail).map Glyph.byte ++ text, ?_, ?_, ?_⟩
          · simp [hkept, hdecode, Except.map]
          · rw [utf8Encoded_append, utf8Encoded_bytes, hencode, hrest, List.drop_left, List.cons_append]
          · refine RawHigh.append (fun x hx => ?_) hhigh
            obtain ⟨y, hy, heq⟩ := List.mem_map.mp hx
            exact Glyph.byte.inj heq ▸ hbytes y hy

/-- Every byte string decodes in UTF-8 when raw bytes are kept, and encoding the text gives it back. -/
theorem exists_decode_utf8 (bytes : List UInt8) :
    ∃ text, Codec.utf8.decode true bytes = .ok text ∧ utf8Encoded text = bytes ∧ RawHigh text := by
  obtain ⟨text, hdecode, hencode, hhigh⟩ := exists_decodeFrom "utf-8" 0 0 bytes
  refine ⟨text, ?_, hencode, hhigh⟩
  rw [Codec.decode]
  dsimp only
  rw [hdecode]
  rfl

end Amalgam.Text
