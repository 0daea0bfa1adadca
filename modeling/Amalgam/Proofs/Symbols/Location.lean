import Amalgam.Symbols.Table
import Mathlib.Data.List.TakeWhile
import Mathlib.Tactic.Common
/-!
# Which locations can be read

Reading a location asks two questions about the characters after its last colon: whether they are digits, and which
number they make. More characters are digits than have a value in a numeral, and a numeral may only have so many of
them, so the second question can fail after the first was answered with yes. This is the only way in which a location
cannot be read, and with it the only way in which entries cannot be grouped by file.
-/

namespace Amalgam.Text

theorem splitLast_append {α : Type} [DecidableEq α] {sep : α} (head : List α) {tail : List α} (h : sep ∉ tail) :
    splitLast sep (head ++ sep :: tail) = some (head, tail) := by
  have hnone : splitLast sep tail = none := by
    cases hsplit : splitLast sep tail with
    | none => rfl
    | some parts =>
      have hmem : sep ∈ tail := by simp [(splitLast_eq_some hsplit).1]
      exact absurd hmem h
  induction head with
  | nil => simp [splitLast, hnone]
  | cons c rest ih => simp [splitLast, ih]

/-! ### Digits of all scripts -/

theorem inRanges_eq_true {ranges : List (Nat × Nat)} {n : Nat} :
    inRanges ranges n = true ↔ ∃ r ∈ ranges, r.1 ≤ n ∧ n ≤ r.2 := by
  simp [inRanges]

/-- A number in one table of ranges is in no table that does not meet it. -/
theorem inRanges_eq_false_of_apart {ranges others : List (Nat × Nat)} {n : Nat}
    (hapart : ∀ r ∈ ranges, ∀ s ∈ others, r.2 < s.1 ∨ s.2 < r.1) (h : inRanges ranges n = true) :
    inRanges others n = false := by
  obtain ⟨r, hr, hlow, hhigh⟩ := inRanges_eq_true.mp h
  refine Bool.eq_false_iff.mpr fun hother => ?_
  obtain ⟨s, hs, hlow', hhigh'⟩ := inRanges_eq_true.mp hother
  rcases hapart r hr s hs with hbelow | hbelow
  · omega
  · omega

variable {c : Char}

theorem isBlank_eq_false_of_isDigit (h : isDigit c = true) : isBlank c = false := by
  have hdigit : inRanges ((48, 57) :: Ranges.digit) c.toNat = true := by
    unfold isDigit at h
    split_ifs at h with hascii
    · rw [Char.isDigit_iff_toNat] at h
      exact inRanges_eq_true.mpr ⟨(48, 57), by simp, h⟩
    · obtain ⟨r, hr, hbounds⟩ := inRanges_eq_true.mp h
      exact inRanges_eq_true.mpr ⟨r, List.mem_cons_of_mem _ hr, hbounds⟩
  refine inRanges_eq_false_of_apart ?_ hdigit
  decide +kernel

theorem decimalValue?_lt {v : Nat} (h : decimalValue? c = some v) : v < 10 := by
  unfold decimalValue? at h
  split_ifs at h with hascii hdigit
  · obtain rfl := Option.some.inj h
    have hbounds : 48 ≤ c.toNat ∧ c.toNat ≤ 57 := Char.isDigit_iff_toNat.mp hdigit
    change c.toNat - 48 < 10
    omega
  · obtain ⟨r, _, rfl⟩ := Option.map_eq_some_iff.mp h
    exact Nat.mod_lt _ (by omega)

/-- A digit without a value in a numeral is outside of ASCII. -/
theorem toNat_ge_of_decimalValue?_eq_none (h : isDigit c = true) (hnone : decimalValue? c = none) : 128 ≤ c.toNat := by
  by_contra hascii
  have hlow : c.toNat < 128 := by omega
  simp only [isDigit, hlow, if_true] at h
  simp [decimalValue?, hlow, h] at hnone

end Amalgam.Text

namespace Amalgam.Number

open Amalgam.Text

variable {c : Char} {digits : List Char}

theorem isMargin_eq_false_of_isDigit (h : isDigit c = true) : isMargin c = false := by
  simp [isMargin, isBlank_eq_false_of_isDigit h]

/-- A character with a value is read as the ASCII digit of that value. -/
theorem plainDigit_of_decimalValue? {v : Nat} (h : decimalValue? c = some v) :
    digitIn? 10 (plainDigit c) = some v ∧ plainDigit c ≠ '-' ∧ plainDigit c ≠ '+' := by
  have hdigits : ∀ v < 10, digitIn? 10 (Char.ofNat (48 + v)) = some v ∧ Char.ofNat (48 + v) ≠ '-' ∧
      Char.ofNat (48 + v) ≠ '+' := by decide
  have hplain : plainDigit c = Char.ofNat (48 + v) := by
    rw [plainDigit, h]
    rfl
  rw [hplain]
  exact hdigits v (decimalValue?_lt h)

theorem plainDigit_of_decimalValue?_eq_none (h : decimalValue? c = none) : plainDigit c = c := by
  rw [plainDigit, h]

/-- Only ASCII characters are digits of a base. -/
theorem digitIn?_eq_none {base : Nat} (h : 128 ≤ c.toNat) : digitIn? base c = none := by
  have hbelow : ∀ d : Char, d.toNat < 128 → ¬ c ≤ d := by
    intro d hd hle
    have hnat : c.toNat ≤ d.toNat := hle
    omega
  have hdigit : c.isDigit = false := by
    refine Bool.eq_false_iff.mpr fun hdigit => ?_
    have hbounds : 48 ≤ c.toNat ∧ c.toNat ≤ 57 := Char.isDigit_iff_toNat.mp hdigit
    omega
  simp [digitIn?, hexValue?, hdigit, hbelow 'f' (by decide), hbelow 'F' (by decide)]

theorem digitIn?_plainDigit (h : isDigit c = true) : digitIn? 10 (plainDigit c) = decimalValue? c := by
  cases hvalue : decimalValue? c with
  | some v => exact (plainDigit_of_decimalValue? hvalue).1
  | none =>
    rw [plainDigit_of_decimalValue?_eq_none hvalue]
    exact digitIn?_eq_none (toNat_ge_of_decimalValue?_eq_none h hvalue)

theorem plainDigit_ne_sign (h : isDigit c = true) : plainDigit c ≠ '-' ∧ plainDigit c ≠ '+' := by
  cases hvalue : decimalValue? c with
  | some v => exact (plainDigit_of_decimalValue? hvalue).2
  | none =>
    rw [plainDigit_of_decimalValue?_eq_none hvalue]
    have hhigh := toNat_ge_of_decimalValue?_eq_none h hvalue
    constructor
    · rintro rfl
      exact absurd hhigh (by decide)
    · rintro rfl
      exact absurd hhigh (by decide)

theorem takeSign_digits (h : ∀ c ∈ digits, isDigit c = true) :
    takeSign (digits.map plainDigit) = (false, digits.map plainDigit) := by
  cases digits with
  | nil => rfl
  | cons c rest =>
    obtain ⟨hminus, hplus⟩ := plainDigit_ne_sign (h c List.mem_cons_self)
    simp only [List.map_cons]
    unfold takeSign
    split
    · rename_i heq
      exact absurd (List.cons.inj heq).1 hminus
    · rename_i heq
      exact absurd (List.cons.inj heq).1 hplus
    · rfl

theorem dropBaseMark_ten (cs : List Char) : dropBaseMark 10 cs = cs := by
  unfold dropBaseMark
  split
  · have hnone : baseMark? 10 = none := rfl
    simp [hnone]
  · rfl

/-- Digits that are a numeral: each has a value, and they are no more than are read. -/
def IsNumeral (digits : List Char) : Prop :=
  digits.length ≤ digitLimit ∧ ∀ c ∈ digits, (decimalValue? c).isSome

instance (digits : List Char) : Decidable (IsNumeral digits) :=
  inferInstanceAs (Decidable (_ ∧ _))

theorem drop_length_takeWhile {α : Type} (p : α → Bool) (l : List α) : l.drop (l.takeWhile p).length = l.dropWhile p := by
  induction l with
  | nil => rfl
  | cons x rest ih => cases hx : p x <;> simp [hx, ih]

/-- What follows the numeral at the start of digits that are not all of it is not blank. -/
theorem after_numeral_not_blank (h : ∀ c ∈ digits, isDigit c = true) (hnone : ∃ c ∈ digits, decimalValue? c = none) :
    ((digits.map plainDigit).dropWhile fun c => (digitIn? 10 c).isSome).all isMargin = false := by
  induction digits with
  | nil => simp at hnone
  | cons c rest ih =>
    have hc := h c List.mem_cons_self
    cases hvalue : decimalValue? c with
    | none =>
      have hstop : digitIn? 10 c = none := digitIn?_eq_none (toNat_ge_of_decimalValue?_eq_none hc hvalue)
      simp [plainDigit_of_decimalValue?_eq_none hvalue, hstop, isMargin_eq_false_of_isDigit hc]
    | some v =>
      have hgo : digitIn? 10 (plainDigit c) = some v := (digitIn?_plainDigit hc).trans hvalue
      simp only [List.map_cons, List.dropWhile_cons, hgo, Option.isSome_some, if_true]
      refine ih (fun d hd => h d (List.mem_cons_of_mem _ hd)) ?_
      simpa [hvalue] using hnone

/-- Digits are read as a number exactly if they are a numeral. -/
theorem readInteger_digits (hne : digits ≠ []) (h : ∀ c ∈ digits, isDigit c = true) :
    (∃ n, readInteger 10 digits = .ok n) ↔ IsNumeral digits := by
  have hmargin : digits.dropWhile isMargin = digits := by
    cases digits with
    | nil => rfl
    | cons c rest => simp [isMargin_eq_false_of_isDigit (h c List.mem_cons_self)]
  simp only [readInteger, hmargin, takeSign_digits h, dropBaseMark_ten, drop_length_takeWhile]
  by_cases hall : ∀ c ∈ digits, (decimalValue? c).isSome
  · have hdigits : ∀ d ∈ digits.map plainDigit, (digitIn? 10 d).isSome = true := by
      intro d hd
      obtain ⟨c, hc, rfl⟩ := List.mem_map.mp hd
      rw [digitIn?_plainDigit (h c hc)]
      exact hall c hc
    rw [List.takeWhile_eq_self_iff.mpr hdigits, List.dropWhile_eq_nil_iff.mpr hdigits]
    by_cases hlong : digitLimit < digits.length
    · simp [IsNumeral, hlong, Nat.not_le.mpr hlong]
    · simpa [IsNumeral, hlong, hne, Nat.le_of_not_lt hlong] using hall
  · have hnone : ∃ c ∈ digits, decimalValue? c = none := by simpa using hall
    rw [after_numeral_not_blank h hnone]
    have hnot : ¬ IsNumeral digits := fun hnumeral => hall hnumeral.2
    simp only [hnot, iff_false, not_exists, Bool.not_false, Bool.or_true, if_true]
    intro n
    split_ifs
    · simp
    · simp

end Amalgam.Number

namespace Amalgam.Symbols

open Amalgam.Number Amalgam.Text

/-! ### Locations -/

/-- A location with a number: something before its last colon and digits after it. -/
structure Numbered (location : String) (file digits : List Char) : Prop where
  eq : trim location.toList = file ++ ':' :: digits
  file_ne : file ≠ []
  digits_ne : digits ≠ []
  isDigit : ∀ c ∈ digits, isDigit c = true

/-- A location that can be read: where digits stand for its number, they are a numeral. -/
def Locatable (location : String) : Prop :=
  ∀ file digits, Numbered location file digits → IsNumeral digits

variable {location : String}

theorem Numbered.splitLast_eq {file digits : List Char} (h : Numbered location file digits) :
    splitLast ':' (trim location.toList) = some (file, digits) := by
  rw [h.eq]
  exact splitLast_append file fun hcolon => absurd (h.isDigit ':' hcolon) (by decide)

theorem Numbered.locatable_iff {file digits : List Char} (h : Numbered location file digits) :
    Locatable location ↔ IsNumeral digits := by
  refine ⟨fun hlocatable => hlocatable file digits h, fun hnumeral file' digits' h' => ?_⟩
  have hsame := h'.splitLast_eq.symm.trans h.splitLast_eq
  simp only [Option.some.injEq, Prod.mk.injEq] at hsame
  exact hsame.2 ▸ hnumeral

theorem Numbered.parse_eq {file digits : List Char} (h : Numbered location file digits) :
    Location.parse location = (readInteger 10 digits).map fun n => ⟨String.ofList file, some n.toNat⟩ := by
  have hall : digits.all Text.isDigit = true := List.all_eq_true.mpr h.isDigit
  simp [Location.parse, h.splitLast_eq, h.file_ne, h.digits_ne, hall]

theorem parse_of_not_numbered (h : ∀ file digits, ¬ Numbered location file digits) :
    Location.parse location = .ok ⟨trimmed location, none⟩ := by
  unfold Location.parse
  cases hsplit : splitLast ':' (trim location.toList) with
  | none =>
    simp only [hsplit]
    rfl
  | some parts =>
    obtain ⟨file, digits⟩ := parts
    have hguard : (!file.isEmpty && !digits.isEmpty && digits.all isDigit) = false := by
      refine Bool.eq_false_iff.mpr fun hguard => ?_
      simp only [Bool.and_eq_true, Bool.not_eq_true', List.isEmpty_eq_false_iff, List.all_eq_true] at hguard
      exact h file digits ⟨(splitLast_eq_some hsplit).1, hguard.1.1, hguard.1.2, hguard.2⟩
    simp only [hsplit, hguard]
    rfl

/-- Reading a location returns exactly if it can be read. -/
theorem parse_returns_iff (location : String) :
    (∃ read, Location.parse location = .ok read) ↔ Locatable location := by
  by_cases hnumbered : ∃ file digits, Numbered location file digits
  · obtain ⟨file, digits, h⟩ := hnumbered
    rw [h.parse_eq, h.locatable_iff, ← readInteger_digits h.digits_ne h.isDigit]
    cases readInteger 10 digits <;> simp [Except.map]
  · have hplain : ∀ file digits, ¬ Numbered location file digits := fun file digits h => hnumbered ⟨file, digits, h⟩
    rw [parse_of_not_numbered hplain]
    exact ⟨fun _ file digits h => absurd h (hplain file digits), fun _ => ⟨_, rfl⟩⟩

/-! ### Grouping -/

theorem foldlM_groups_returns_iff (entries : List Entry) (groups : List (String × List Entry)) :
    (∃ result, (entries.foldlM (fun groups e => do
      let location ← e.location
      return addToGroup location.file e groups) groups : Except IntegerFault _) = .ok result) ↔
    ∀ e ∈ entries, Locatable e.filenameLine := by
  induction entries generalizing groups with
  | nil => exact ⟨fun _ => by simp, fun _ => ⟨groups, rfl⟩⟩
  | cons e rest ih =>
    rw [List.forall_mem_cons, ← parse_returns_iff, List.foldlM_cons, Entry.location]
    cases hlocation : Location.parse e.filenameLine with
    | error fault => simp [bind, Except.bind]
    | ok location =>
      have hread : ∃ read, (.ok location : Except IntegerFault Location) = .ok read := ⟨location, rfl⟩
      simp only [hread, true_and]
      exact ih (addToGroup location.file e groups)

/-- Entries are grouped exactly if the locations of all of them can be read. -/
theorem groupByFile_returns_iff (entries : List Entry) :
    (∃ groups, groupByFile entries = .ok groups) ↔ ∀ e ∈ entries, Locatable e.filenameLine :=
  foldlM_groups_returns_iff entries []

end Amalgam.Symbols
