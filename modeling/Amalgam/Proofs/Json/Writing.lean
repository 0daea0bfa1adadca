import Amalgam.Proofs.Json.Numerals
import Amalgam.Proofs.Value.Result
/-!
# Writing what the grammar spells

What a dialect can say is written without a fault, and the text is a spelling of it, in every style and at every level:
one lemma for each form a character takes between quotes, and one for each kind of value.
-/

namespace Amalgam.Json

open Amalgam.Number Amalgam.Text

/-! ### Texts -/

section Texts

variable {n : Nat}

theorem unitDigits_hex (h : n < 16 ^ 4) : UnitDigits n (hex 4 n) := by
  have hdigits := UnitDigits.mk (hexValue?_digitChar (n := n / 4096) (by omega))
    (hexValue?_digitChar (n := n / 256 % 16) (by omega)) (hexValue?_digitChar (n := n / 16 % 16) (by omega))
    (hexValue?_digitChar (n := n % 16) (by omega))
  rw [hex_four h]
  convert hdigits using 1
  omega

theorem toNat_valid (c : Char) : c.toNat < 0xD800 ∨ 0xDFFF < c.toNat ∧ c.toNat < 0x110000 :=
  c.valid

theorem code_spells {c : Char} (h : c.toNat < 0x10000) : SpellsChar c ('\\' :: 'u' :: hex 4 c.toNat) := by
  have hvalid := toNat_valid c
  have hhigh : isHighUnit c.toNat = false := by
    simp only [isHighUnit, Bool.and_eq_false_iff, decide_eq_false_iff_not]
    omega
  have hlow : isLowUnit c.toNat = false := by
    simp only [isLowUnit, Bool.and_eq_false_iff, decide_eq_false_iff_not]
    omega
  have hcode := SpellsChar.code (unitDigits_hex h) hhigh hlow
  rwa [Char.ofNat_toNat] at hcode

theorem pair_spells {c : Char} (h : 0x10000 ≤ c.toNat) :
    SpellsChar c ('\\' :: 'u' :: hex 4 (0xD800 + (c.toNat - 0x10000) / 1024) ++
      '\\' :: 'u' :: hex 4 (0xDC00 + (c.toNat - 0x10000) % 1024)) := by
  have hvalid := toNat_valid c
  have hhigh : isHighUnit (0xD800 + (c.toNat - 0x10000) / 1024) = true := by
    simp only [isHighUnit, Bool.and_eq_true, decide_eq_true_eq]
    omega
  have hlow : isLowUnit (0xDC00 + (c.toNat - 0x10000) % 1024) = true := by
    simp only [isLowUnit, Bool.and_eq_true, decide_eq_true_eq]
    omega
  have hpair := SpellsChar.pair (unitDigits_hex (by omega)) (unitDigits_hex (by omega)) hhigh hlow
  have hcode : 0x10000 + (0xD800 + (c.toNat - 0x10000) / 1024 - 0xD800) * 1024 +
      (0xDC00 + (c.toNat - 0x10000) % 1024 - 0xDC00) = c.toNat := by omega
  rwa [hcode, Char.ofNat_toNat] at hpair

theorem letter_spells {c e : Char} {d : Char} (hc : c = d) (h : shortEscape? e = some d) : SpellsChar c ['\\', e] :=
  .letter (hc ▸ h)

theorem escapedChar_spells (style : Style) (c : Char) : SpellsChar c (escapedChar style c) := by
  have hcode {n : Nat} (hn : c.toNat = n) : c = Char.ofNat n := by rw [← hn, Char.ofNat_toNat]
  unfold escapedChar
  dsimp only
  by_cases hquote : c = '"'
  · rw [if_pos hquote]
    exact letter_spells hquote rfl
  by_cases hslash : c = '\\'
  · rw [if_neg hquote, if_pos hslash]
    exact letter_spells hslash rfl
  rw [if_neg hquote, if_neg hslash]
  split
  · next h => exact letter_spells h rfl
  split
  · next h => exact letter_spells h rfl
  split
  · next h => exact letter_spells h rfl
  split
  · next h => exact letter_spells (hcode h) rfl
  split
  · next h => exact letter_spells (hcode h) rfl
  split
  · exact code_spells (by omega)
  have hplain : 32 ≤ c.toNat → SpellsChar c [c] := .plain hquote hslash
  split
  · exact hplain (by omega)
  split
  · exact hplain (by omega)
  split
  · next h => exact code_spells h
  · next h => exact pair_spells (not_lt.mp h)

theorem escaped_spells (style : Style) (cs : List Char) : SpellsChars cs (cs.flatMap (escapedChar style)) := by
  induction cs with
  | nil => exact .nil
  | cons c rest ih => exact .cons (escapedChar_spells style c) ih

theorem quotedText_spells {D : Dialect} (style : Style) (s : String) :
    Spells D (.value (.text s)) (quotedText style s).toList := by
  simpa [quotedText] using Spells.text (D := D) (escaped_spells style s.toList)

end Texts

/-! ### One line -/

/-! No spelling of a scalar has a carriage return in it, so nothing is lost when line ends are made plain. -/

section Returns

variable {c : Char} {cs ds : List Char} {n : Nat}

theorem IsDigits.no_return (h : IsDigits ds) : '\r' ∉ ds :=
  fun hmem => absurd (h.2 _ hmem) (by decide)

theorem no_return_minus (negative : Bool) : '\r' ∉ minus negative := by
  cases negative <;> decide

theorem UnitDigits.no_return (h : UnitDigits n ds) : '\r' ∉ ds := by
  obtain ⟨ha, hb, hc, hd⟩ := h
  have hne {a : Char} {k : Nat} (ha : hexValue? a = some k) : '\r' ≠ a := by
    rintro rfl
    cases ha
  simp [hne ha, hne hb, hne hc, hne hd]

theorem SpellsChar.no_return (h : SpellsChar c cs) : '\r' ∉ cs := by
  cases h with
  | plain _ _ hprintable =>
    rintro hmem
    obtain rfl := List.mem_singleton.mp hmem
    exact absurd hprintable (by decide)
  | letter h =>
    intro hmem
    obtain rfl : _ = _ := by simpa using hmem
    cases h
  | code h => simpa using h.no_return
  | pair hds hes => simpa using ⟨hds.no_return, hes.no_return⟩

theorem quotedText_no_return (style : Style) (s : String) : '\r' ∉ (quotedText style s).toList := by
  have hchars : '\r' ∉ s.toList.flatMap (escapedChar style) := by
    intro hmem
    obtain ⟨c, _, hc⟩ := List.mem_flatMap.mp hmem
    exact (escapedChar_spells style c).no_return hc
  simpa [quotedText] using hchars

theorem numeral_no_return (n : Int) : '\r' ∉ (numeral n).toList := by
  obtain ⟨negative, _, htext⟩ := numeral_eq n
  rw [htext, List.mem_append, not_or]
  exact ⟨no_return_minus negative, (isDigits_toDigits _).no_return⟩

theorem Fraction.no_return (h : Fraction ds cs) : '\r' ∉ cs := by
  cases h with
  | absent => simp
  | point h => simpa using h.no_return

theorem Power.no_return {power : Option Int} (h : Power power cs) : '\r' ∉ cs := by
  cases h with
  | absent => simp
  | mark hmark hsign h =>
    have hdigits := h.no_return
    rcases hmark with rfl | rfl <;> cases hsign <;> simpa using hdigits

theorem finite_no_return {negative : Bool} {m : Nat} {e : Int} (h : Binary64.Normal (.finite negative m e)) :
    '\r' ∉ (Binary64.finite negative m e).chars := by
  obtain ⟨s, k, cs, hchars, hspells, _⟩ := finite_chars h
  obtain ⟨whole, fraction, point, mark, power, hwhole, hfraction, hpower, _, rfl, _⟩ := hspells
  simp only [hchars, List.mem_append, not_or]
  exact ⟨no_return_minus negative, hwhole.isDigits.no_return, hfraction.no_return, hpower.no_return⟩

end Returns

/-! ### What a dialect can say -/

/-- The values that a dialect has a spelling for and the writer a form. -/
inductive Sayable (D : Dialect) : Value → Prop
  | null (h : ("null".toList, .null) ∈ D.words) : Sayable D .null
  | bool (b : Bool) (h : ((if b then "true" else "false").toList, .bool b) ∈ D.words) : Sayable D (.bool b)
  | int (n : Int) (h : D.fits (Nat.toDigits 10 n.natAbs).length) : Sayable D (.int n)
  | finite {negative : Bool} {m : Nat} {e : Int} (h : Binary64.Normal (.finite negative m e)) :
      Sayable D (.float (.finite negative m e))
  | nan (h : ("NaN".toList, .float .nan) ∈ D.words) : Sayable D (.float .nan)
  | infinite (negative : Bool)
      (h : ((if negative then "-Infinity" else "Infinity").toList, .float (.infinite negative)) ∈ D.words) :
      Sayable D (.float (.infinite negative))
  | text (s : String) : Sayable D (.text s)
  | list {items : List Value} (h : ∀ v ∈ items, Sayable D v) : Sayable D (.list items)
  | map {fields : Fields} (hkeys : ∀ b ∈ fields, ∃ name, b.1 = .text name) (h : ∀ b ∈ fields, Sayable D b.2) :
      Sayable D (.map fields)

/-! ### Values -/

section Values

variable {D : Dialect} {style : Style} {v : Value}

/-- Written at every level; the text is a spelling, and has no carriage return in it. -/
def Written (D : Dialect) (style : Style) (v : Value) : Prop :=
  ∀ level, ∃ s, render style level v = .ok s ∧ Spells D (.value v) s.toList ∧ '\r' ∉ s.toList

theorem blank_newline (level : Nat) : Blank (newline level).toList := by
  intro c hc
  simp only [newline, repeated, String.toList_append, String.toList_ofList, List.mem_append] at hc
  rcases hc with hc | hc
  · obtain rfl : c = '\n' := by simpa using hc
    rfl
  · obtain rfl := List.eq_of_mem_replicate hc
    rfl

theorem no_return_newline (level : Nat) : '\r' ∉ (newline level).toList := by
  simp [newline, repeated]

theorem floatText_finite (negative : Bool) (m : Nat) (e : Int) :
    (floatText (.finite negative m e)).toList = (Binary64.finite negative m e).chars :=
  String.toList_ofList

/-- What stands between brackets: the parts spell it with any blanks after them. -/
structure Joined (D : Dialect) (part : Part) (level : Nat) (parts : List String) : Prop where
  ne_nil : parts ≠ []
  spells : ∀ after, Blank after → Spells D part ((joined ("," ++ newline level) parts).toList ++ after)
  no_return : '\r' ∉ (joined ("," ++ newline level) parts).toList

theorem joined_cons {level : Nat} {part : String} {parts : List String} (h : parts ≠ []) :
    (joined ("," ++ newline level) (part :: parts)).toList =
      part.toList ++ ',' :: (newline level).toList ++ (joined ("," ++ newline level) parts).toList := by
  rw [joined, String.intercalate_cons_of_ne_nil h]
  simp [joined]

theorem joined_cons_no_return {level : Nat} {part : String} {parts : List String} (h : parts ≠ [])
    (hpart : '\r' ∉ part.toList) (hparts : '\r' ∉ (joined ("," ++ newline level) parts).toList) :
    '\r' ∉ (joined ("," ++ newline level) (part :: parts)).toList := by
  rw [joined_cons h]
  simpa using ⟨hpart, no_return_newline level, hparts⟩

theorem renderItems_joined {items : List Value} (hne : items ≠ []) (h : ∀ v ∈ items, Written D style v) (level : Nat) :
    ∃ parts, renderItems style level items = .ok parts ∧ Joined D (.elements items) level parts := by
  induction items with
  | nil => exact absurd rfl hne
  | cons v rest ih =>
    obtain ⟨hv, hrest⟩ := List.forall_mem_cons.mp h
    obtain ⟨part, hpart, hspells, hclean⟩ := hv level
    cases rest with
    | nil =>
      refine ⟨[part], by simp only [renderItems, hpart]; rfl, by simp, fun after hafter => ?_, by simpa [joined]⟩
      simpa [joined] using Spells.lastElement hspells hafter
    | cons w rest =>
      obtain ⟨parts, hparts, hjoined⟩ := ih (by simp) hrest
      refine ⟨part :: parts, ?_, by simp, fun after hafter => ?_,
        joined_cons_no_return hjoined.ne_nil hclean hjoined.no_return⟩
      · rw [renderItems, hpart, Except.ok_bind, hparts]
        rfl
      · have := Spells.elements hspells Blank.nil (blank_newline level) (hjoined.spells after hafter)
        rw [joined_cons hjoined.ne_nil]
        simpa using this

/-- A name and its value on one line. -/
theorem member_spells (style : Style) (name : String) {part : String} (h : Spells D (.value v) part.toList) :
    Spells D (.member name v) (quotedText style name ++ ": " ++ part).toList := by
  have hcolon : Blank [' '] := by simp [Blank, isSpace]
  simpa [quotedText] using Spells.member (escaped_spells style name.toList) Blank.nil hcolon h

theorem renderFields_joined {fields : Fields} (hne : fields ≠ []) (hkeys : ∀ b ∈ fields, ∃ name, b.1 = .text name)
    (h : ∀ b ∈ fields, Written D style b.2) (level : Nat) :
    ∃ parts, renderFields style level fields = .ok parts ∧ Joined D (.members fields) level parts := by
  induction fields with
  | nil => exact absurd rfl hne
  | cons b rest ih =>
    obtain ⟨key, v⟩ := b
    obtain ⟨hv, hrest⟩ := List.forall_mem_cons.mp h
    obtain ⟨⟨name, hkey⟩, hrestKeys⟩ := List.forall_mem_cons.mp hkeys
    obtain rfl : key = .text name := hkey
    obtain ⟨part, hpart, hspells, hclean⟩ := hv level
    have hmember := member_spells style name hspells
    have hmemberClean : '\r' ∉ (quotedText style name ++ ": " ++ part).toList := by
      simpa using ⟨quotedText_no_return style name, hclean⟩
    cases rest with
    | nil =>
      refine ⟨[quotedText style name ++ ": " ++ part], ?_, by simp, fun after hafter => ?_, ?_⟩
      · simp only [renderFields, keyText, hpart]
        rfl
      · simpa [joined] using Spells.lastMember hmember hafter
      · simpa [joined] using hmemberClean
    | cons c rest =>
      obtain ⟨parts, hparts, hjoined⟩ := ih (by simp) hrestKeys hrest
      refine ⟨(quotedText style name ++ ": " ++ part) :: parts, ?_, by simp, fun after hafter => ?_,
        joined_cons_no_return hjoined.ne_nil hmemberClean hjoined.no_return⟩
      · rw [renderFields, keyText, Except.ok_bind, hpart, Except.ok_bind, hparts]
        rfl
      · have := Spells.members hmember Blank.nil (blank_newline level) (hjoined.spells after hafter)
        rw [joined_cons hjoined.ne_nil]
        simpa using this

theorem written_list {items : List Value} (h : ∀ v ∈ items, Written D style v) : Written D style (.list items) := by
  intro level
  by_cases hne : items = []
  · subst hne
    exact ⟨"[]", rfl, .noElements Blank.nil, by decide⟩
  · obtain ⟨parts, hparts, hjoined⟩ := renderItems_joined hne h (level + 1)
    refine ⟨_, by rw [render, if_neg (by simpa using hne), hparts]; rfl, ?_, ?_⟩
    · have := Spells.list (blank_newline (level + 1)) (hjoined.spells _ (blank_newline level))
      simpa using this
    · simpa using ⟨no_return_newline (level + 1), hjoined.no_return, no_return_newline level⟩

theorem written_map {fields : Fields} (hkeys : ∀ b ∈ fields, ∃ name, b.1 = .text name)
    (h : ∀ b ∈ fields, Written D style b.2) : Written D style (.map fields) := by
  intro level
  by_cases hne : fields = []
  · subst hne
    exact ⟨"\x7b\x7d", rfl, .noMembers Blank.nil, by decide⟩
  · obtain ⟨parts, hparts, hjoined⟩ := renderFields_joined hne hkeys h (level + 1)
    refine ⟨_, by rw [render, if_neg (by simpa using hne), hparts]; rfl, ?_, ?_⟩
    · have := Spells.map (blank_newline (level + 1)) (hjoined.spells _ (blank_newline level))
      simpa using this
    · simpa using ⟨no_return_newline (level + 1), hjoined.no_return, no_return_newline level⟩

theorem Sayable.written (h : Sayable D v) (style : Style) : Written D style v := by
  induction h with
  | null h => exact fun _ => ⟨_, rfl, .word h, by decide⟩
  | bool b h => exact fun _ => ⟨_, rfl, .word h, by cases b <;> decide⟩
  | int n h => exact fun _ => ⟨_, rfl, numeral_spells n h, numeral_no_return n⟩
  | @finite negative m e h =>
    refine fun _ => ⟨_, rfl, ?_⟩
    rw [floatText_finite]
    exact ⟨finite_spells h, finite_no_return h⟩
  | nan h => exact fun _ => ⟨_, rfl, .word h, by decide⟩
  | infinite negative h =>
    refine fun _ => ⟨_, rfl, ?_⟩
    cases negative
    · exact ⟨.word h, by decide⟩
    · exact ⟨.word h, by decide⟩
  | text s => exact fun _ => ⟨_, rfl, quotedText_spells style s, quotedText_no_return style s⟩
  | list _ ih => exact written_list ih
  | map hkeys _ ih => exact written_map hkeys ih

/-- What a dialect can say is written, and the text is a document of it, also with blanks after it. -/
theorem write_document (h : Sayable D v) (style : Style) :
    ∃ s, write style v = .ok s ∧ '\r' ∉ s.toList ∧ ∀ after, Blank after.toList → IsDocument D (s ++ after) v := by
  obtain ⟨s, hs, hspells, hclean⟩ := h.written style 0
  exact ⟨s, hs, hclean, fun after hafter => ⟨[], s.toList, after.toList, Blank.nil, hspells, hafter, by simp⟩⟩

end Values

end Amalgam.Json
