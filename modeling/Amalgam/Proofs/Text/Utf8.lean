import Amalgam.Text.Encoding
import Mathlib.Data.List.Forall2
import Mathlib.Tactic.Common
/-!
# UTF-8 is read back

The first byte of a character says how many follow and in which range the second must lie: the range is narrower after
`E0` and `F0`, where a shorter form would do, and after `ED` and `F4`, where the code would be no character. A
character's own bytes keep to the ranges, so decoding takes exactly them for its piece, and what stands after them plays
no part.
-/

namespace Amalgam.Text

/-! ### First bytes -/

theorem utf8Follow_one {b : UInt8} (h : b.toNat < 0x80) : utf8Follow b = some [] := by
  have hb : b < 0x80 := UInt8.lt_iff_toNat_lt.mpr h
  rw [utf8Follow, if_pos hb]

theorem utf8Follow_two {b : UInt8} (h : 0xC2 ≤ b.toNat) (h' : b.toNat < 0xE0) :
    utf8Follow b = some [(0x80, 0xBF)] := by
  simp only [utf8Follow, UInt8.lt_iff_toNat_lt, UInt8.reduceToNat]
  rw [if_neg (by omega), if_neg (by omega), if_pos (by omega)]

theorem utf8Follow_three {b : UInt8} (h : 0xE0 ≤ b.toNat) (h' : b.toNat < 0xF0) : utf8Follow b =
    some [(if b.toNat = 0xE0 then 0xA0 else 0x80, if b.toNat = 0xED then 0x9F else 0xBF), (0x80, 0xBF)] := by
  simp only [utf8Follow, UInt8.lt_iff_toNat_lt, ← UInt8.toNat_inj, UInt8.reduceToNat]
  rw [if_neg (by omega), if_neg (by omega), if_neg (by omega)]
  split_ifs <;> first | rfl | omega

theorem utf8Follow_four {b : UInt8} (h : 0xF0 ≤ b.toNat) (h' : b.toNat ≤ 0xF4) : utf8Follow b =
    some [(if b.toNat = 0xF0 then 0x90 else 0x80, if b.toNat = 0xF4 then 0x8F else 0xBF), (0x80, 0xBF),
      (0x80, 0xBF)] := by
  simp only [utf8Follow, UInt8.lt_iff_toNat_lt, ← UInt8.toNat_inj, UInt8.reduceToNat]
  rw [if_neg (by omega), if_neg (by omega), if_neg (by omega)]
  split_ifs <;> first | rfl | omega

theorem fitting_append {ranges : List (UInt8 × UInt8)} {bs : List UInt8}
    (h : List.Forall₂ (fun r b => r.1 ≤ b ∧ b ≤ r.2) ranges bs) (rest : List UInt8) :
    fitting ranges (bs ++ rest) = bs := by
  induction h with
  | nil => rw [fitting]; simp
  | cons hrange _ ih => simp [fitting, hrange.1, hrange.2, ih]

theorem utf8Piece_of_fits {b : UInt8} {bs : List UInt8} {ranges : List (UInt8 × UInt8)} {n : Nat}
    (hfollow : utf8Follow b = some ranges) (hfits : List.Forall₂ (fun r b => r.1 ≤ b ∧ b ≤ r.2) ranges bs)
    (hcode : bs.foldl (fun n t => n * 64 + (t.toNat - 0x80)) (utf8LeadBits b) = n) (rest : List UInt8) :
    utf8Piece b (bs ++ rest) = .char (Char.ofNat n) (bs.length + 1) := by
  have hlength : bs.length = ranges.length := hfits.length_eq.symm
  simp only [utf8Piece, hfollow, fitting_append hfits rest, hlength, hcode, if_true]

/-! ### Characters -/

theorem toNat_toUInt8 {k : Nat} (h : k < 256) : k.toUInt8.toNat = k := by
  rw [Nat.toUInt8, UInt8.toNat_ofNat']
  exact Nat.mod_eq_of_lt h

theorem le_toUInt8 {r : UInt8 × UInt8} {k : Nat} (hk : k < 256) (hlow : r.1.toNat ≤ k) (hhigh : k ≤ r.2.toNat) :
    r.1 ≤ k.toUInt8 ∧ k.toUInt8 ≤ r.2 := by
  rw [UInt8.le_iff_toNat_le, UInt8.le_iff_toNat_le, toNat_toUInt8 hk]
  exact ⟨hlow, hhigh⟩

theorem toNat_continuation (n : Nat) : (0x80 + n % 64).toUInt8.toNat = 0x80 + n % 64 :=
  toNat_toUInt8 (by omega)

theorem continuation_fits (n : Nat) : (0x80 : UInt8) ≤ (0x80 + n % 64).toUInt8 ∧ (0x80 + n % 64).toUInt8 ≤ 0xBF :=
  le_toUInt8 (r := (0x80, 0xBF)) (by omega) (by simp) (by simp; omega)

/-- The bytes of a character, whatever follows them, are the piece that stands for it. -/
theorem utf8Piece_utf8Bytes (c : Char) :
    ∃ b bs, utf8Bytes c = b :: bs ∧ ∀ rest, utf8Piece b (bs ++ rest) = .char c (bs.length + 1) := by
  have hvalid : c.toNat < 0xD800 ∨ 0xDFFF < c.toNat ∧ c.toNat < 0x110000 := c.valid
  have hcode : Char.ofNat c.toNat = c := Char.ofNat_toNat c
  generalize hn : c.toNat = n at hvalid hcode
  simp only [utf8Bytes, hn]
  split_ifs with h1 h2 h3
  · have hlead := toNat_toUInt8 (show n < 256 by omega)
    refine ⟨_, _, rfl, fun rest => ?_⟩
    rw [utf8Piece_of_fits (n := n) (utf8Follow_one (by omega)) .nil ?_ rest, hcode]
    simp [utf8LeadBits, UInt8.lt_iff_toNat_lt, hlead, h1]
  · have hlead := toNat_toUInt8 (show 0xC0 + n / 64 < 256 by omega)
    refine ⟨_, _, rfl, fun rest => ?_⟩
    rw [utf8Piece_of_fits (n := n) (utf8Follow_two (by omega) (by omega)) (.cons (continuation_fits _) .nil) ?_ rest,
      hcode]
    simp only [utf8LeadBits, UInt8.lt_iff_toNat_lt, hlead, toNat_continuation, List.foldl, UInt8.reduceToNat]
    split_ifs <;> omega
  · have hlead := toNat_toUInt8 (show 0xE0 + n / 4096 < 256 by omega)
    refine ⟨_, _, rfl, fun rest => ?_⟩
    rw [utf8Piece_of_fits (n := n) (utf8Follow_three (by omega) (by omega))
      (.cons ?_ (.cons (continuation_fits _) .nil)) ?_ rest, hcode]
    -- After `E0` the second byte is high because the code has three bytes, after `ED` low because it is no surrogate.
    · refine le_toUInt8 (by omega) ?_ ?_ <;> rw [hlead] <;> split_ifs <;> simp <;> omega
    · simp only [utf8LeadBits, UInt8.lt_iff_toNat_lt, hlead, toNat_continuation, List.foldl, UInt8.reduceToNat]
      split_ifs <;> omega
  · have hlead := toNat_toUInt8 (show 0xF0 + n / 262144 < 256 by omega)
    refine ⟨_, _, rfl, fun rest => ?_⟩
    rw [utf8Piece_of_fits (n := n) (utf8Follow_four (by omega) (by omega))
      (.cons ?_ (.cons (continuation_fits _) (.cons (continuation_fits _) .nil))) ?_ rest, hcode]
    · refine le_toUInt8 (by omega) ?_ ?_ <;> rw [hlead] <;> split_ifs <;> simp <;> omega
    · simp only [utf8LeadBits, UInt8.lt_iff_toNat_lt, hlead, toNat_continuation, List.foldl, UInt8.reduceToNat]
      split_ifs <;> omega

/-! ### Texts -/

theorem decodeFrom_skip (codec : String) (piece : UInt8 → List UInt8 → Piece) (keepRaw : Bool) (bs rest : List UInt8)
    (offset : Nat) : decodeFrom codec piece keepRaw bs.length offset (bs ++ rest) =
      decodeFrom codec piece keepRaw 0 (offset + bs.length) rest := by
  induction bs generalizing offset with
  | nil => rfl
  | cons b bs ih =>
    rw [List.length_cons, List.cons_append, decodeFrom, ih]
    congr 1
    omega

theorem decodeFrom_utf8Encoded (codec : String) (keepRaw : Bool) (cs : List Char) (offset : Nat) :
    decodeFrom codec utf8Piece keepRaw 0 offset (utf8Encoded (cs.map Glyph.char)) = .ok (cs.map Glyph.char) := by
  induction cs generalizing offset with
  | nil => simp [utf8Encoded, decodeFrom]
  | cons c cs ih =>
    obtain ⟨b, bs, hbytes, hpiece⟩ := utf8Piece_utf8Bytes c
    have hcons : utf8Encoded ((c :: cs).map Glyph.char) = b :: (bs ++ utf8Encoded (cs.map Glyph.char)) := by
      simp [utf8Encoded, hbytes]
    rw [hcons, decodeFrom, hpiece, Piece.char]
    simp only [Nat.add_sub_cancel]
    rw [decodeFrom_skip, ih]
    rfl

/-- Text in UTF-8 is read back, whether or not bytes that are no text would be kept. -/
theorem decode_utf8Encoded (keepRaw : Bool) (cs : List Char) :
    Codec.utf8.decode keepRaw (utf8Encoded (cs.map Glyph.char)) = .ok (cs.map Glyph.char) := by
  rw [Codec.decode]
  dsimp only
  rw [decodeFrom_utf8Encoded]
  rfl

end Amalgam.Text
