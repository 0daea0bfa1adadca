import Amalgam.Proofs.Json.Document
import Amalgam.Proofs.Json.Grammar
import Amalgam.Proofs.Value.Depth
/-!
# Reading what the grammar spells

Every spelling of a value is read as that value, whatever follows it, if the value nests no deeper than the reader goes
and the names in each of its mappings are distinct. The proofs follow the grammar: one lemma for each way to spell a
character, a number or a value, with the text after it left open.
-/

namespace Amalgam.Json

open Amalgam.Number Amalgam.Text

/-! ### Stretches of a text -/

def Stops (p : Char → Bool) (rest : List Char) : Prop :=
  ∀ c ∈ rest.head?, p c = false

section Stretches

variable {p : Char → Bool} {cs rest : List Char}

theorem takeWhile_stretch (h : ∀ c ∈ cs, p c = true) (hrest : Stops p rest) : (cs ++ rest).takeWhile p = cs := by
  rw [List.takeWhile_append_of_pos h]
  cases rest with
  | nil => simp
  | cons c rest => simp [hrest c rfl]

theorem dropWhile_stretch (h : ∀ c ∈ cs, p c = true) (hrest : Stops p rest) : (cs ++ rest).dropWhile p = rest := by
  rw [List.dropWhile_append_of_pos h]
  cases rest with
  | nil => rfl
  | cons c rest => simp [hrest c rfl]

theorem skipSpace_blank (h : Blank cs) (hrest : Stops isSpace rest) : skipSpace (cs ++ rest) = rest :=
  dropWhile_stretch h hrest

theorem skipSpace_cons (h : Blank cs) {c : Char} (hc : isSpace c = false) (rest : List Char) :
    skipSpace (cs ++ c :: rest) = c :: rest :=
  skipSpace_blank h (by simpa [Stops] using hc)

end Stretches

/-! ### Texts -/

section Texts

variable {c : Char} {cs ds tail opening : List Char} {n fuel : Nat}

theorem UnitDigits.read (h : UnitDigits n ds) (htail : tail ≠ []) : codeUnit? (ds ++ tail) = some (n, tail) := by
  obtain ⟨ha, hb, hc, hd⟩ := h
  have hempty : tail.isEmpty = false := by simpa using htail
  simp [codeUnit?, hempty, ha, hb, hc, hd]

theorem UnitDigits.length (h : UnitDigits n ds) : ds.length = 4 := by
  obtain ⟨ha, hb, hc, hd⟩ := h
  rfl

theorem codeEscape_code (h : UnitDigits n ds) (hhigh : isHighUnit n = false) (hlow : isLowUnit n = false)
    (htail : tail ≠ []) (atMark : List Char) : codeEscape (ds ++ tail) atMark = .ok (Char.ofNat n, tail) := by
  have hchar : unitChar n = Char.ofNat n := by simp [unitChar, hhigh, hlow]
  unfold codeEscape
  rw [h.read htail]
  dsimp only
  split
  · simp [hhigh, hchar]
  · rw [hchar]

theorem codeEscape_pair {high low : Nat} {es : List Char} (hds : UnitDigits high ds) (hes : UnitDigits low es)
    (hhigh : isHighUnit high = true) (hlow : isLowUnit low = true) (htail : tail ≠ []) (atMark : List Char) :
    codeEscape (ds ++ '\\' :: 'u' :: (es ++ tail)) atMark =
      .ok (Char.ofNat (0x10000 + (high - 0xD800) * 1024 + (low - 0xDC00)), tail) := by
  have hlength : 4 < (es ++ tail).length := by
    have := List.length_pos_of_ne_nil htail
    rw [List.length_append, hes.length]
    omega
  unfold codeEscape
  rw [hds.read (by simp)]
  simp only [hhigh, hlow, hlength, hes.read htail, decide_true, Bool.and_true, if_true]

theorem shortEscape?_ne {e : Char} (h : shortEscape? e = some c) : e ≠ 'u' := by
  rintro rfl
  cases h

/-- One character of a text is read from any of its spellings. -/
theorem SpellsChar.read (h : SpellsChar c cs) (htail : tail ≠ []) :
    stringBody opening (fuel + 1) (cs ++ tail) =
      (stringBody opening fuel tail).map fun body => (c :: body.1, body.2) := by
  cases h with
  | plain hquote hslash hprintable =>
    have hcontrol : ¬ c.toNat < 32 := by omega
    simp only [List.singleton_append, stringBody, if_neg hquote, if_neg hslash, if_neg hcontrol]
    cases stringBody opening fuel tail <;> rfl
  | @letter _ e h =>
    have hne := shortEscape?_ne h
    rw [List.cons_append, List.singleton_append, stringBody, if_neg (by decide), if_pos rfl]
    · rw [h]
      cases stringBody opening fuel tail <;> rfl
    · exact hne
  | code h hhigh hlow =>
    rw [List.cons_append, List.cons_append, stringBody, if_neg (by decide), if_pos rfl]
    simp only [codeEscape_code h hhigh hlow htail, Except.ok_bind]
    cases stringBody opening fuel tail <;> rfl
  | @pair high low ds es hds hes hhigh hlow =>
    rw [List.append_assoc, List.cons_append, List.cons_append, stringBody, if_neg (by decide), if_pos rfl]
    simp only [List.cons_append, codeEscape_pair hds hes hhigh hlow htail, Except.ok_bind]
    cases stringBody opening fuel tail <;> rfl

theorem SpellsChar.ne_nil (h : SpellsChar c cs) : cs ≠ [] := by
  cases h <;> simp

theorem SpellsChars.read {chars rest : List Char} (h : SpellsChars chars cs) (hfuel : cs.length < fuel) :
    stringBody opening fuel (cs ++ '"' :: rest) = .ok (chars, rest) := by
  induction h generalizing fuel with
  | nil =>
    obtain ⟨fuel, rfl⟩ := Nat.exists_eq_add_one_of_ne_zero (by omega : fuel ≠ 0)
    rfl
  | @cons c chars cs ds hc hrest ih =>
    obtain ⟨fuel, rfl⟩ := Nat.exists_eq_add_one_of_ne_zero (by omega : fuel ≠ 0)
    have hpos := List.length_pos_of_ne_nil hc.ne_nil
    rw [List.length_append] at hfuel
    rw [List.append_assoc, hc.read (by simp), ih (by omega)]
    rfl

theorem SpellsChars.read_string {s : String} (h : SpellsChars s.toList cs) (rest : List Char) :
    string (cs ++ '"' :: rest) = .ok (s, rest) := by
  unfold string
  rw [h.read (by rw [List.length_append, List.length_cons]; omega)]
  simp [String.ofList_toList]

end Texts

/-! ### Numbers -/

/-- What a number may go on with. -/
def inNumber (c : Char) : Bool :=
  c.isDigit || c == '.' || c == 'e' || c == 'E'

section Numbers

variable {ds rest fraction point mark : List Char} {negative : Bool} {power : Option Int}

theorem Stops.mono {p q : Char → Bool} (h : Stops p rest) (hpq : ∀ c, q c = true → p c = true) : Stops q rest := by
  intro c hc
  by_contra hq
  have hp := hpq c (by simpa using hq)
  rw [h c hc] at hp
  cases hp

theorem ne_of_isDigit {c d : Char} (h : c.isDigit = true) (hd : d.isDigit = false) : c ≠ d := by
  rintro rfl
  rw [h] at hd
  cases hd

theorem IsWhole.read (h : IsWhole ds) (hrest : Stops Char.isDigit rest) : wholePart (ds ++ rest) = (ds, rest) := by
  rcases h with rfl | ⟨hdigits, hhead⟩
  · rfl
  · obtain ⟨c, ds, rfl, hc, hds⟩ := hdigits.exists_cons
    unfold wholePart
    split
    · next heq =>
      obtain ⟨rfl, _⟩ := List.cons.inj heq
      exact absurd rfl hhead
    · rw [takeWhile_stretch hdigits.2 hrest, dropWhile_stretch hdigits.2 hrest]

theorem Fraction.read (h : Fraction fraction point) (hrest : Stops (fun c => c.isDigit || c == '.') rest) :
    fractionPart (point ++ rest) = (fraction, rest) := by
  cases h with
  | absent =>
    unfold fractionPart
    split
    · next heq =>
      have hdot := hrest '.' (by rw [← List.nil_append rest, heq]; rfl)
      cases hdot
    · rfl
  | point hds =>
    have hdigits : Stops Char.isDigit rest := hrest.mono (by simp +contextual)
    have hne : (fraction.isEmpty : Bool) = false := by simpa using hds.1
    simp only [List.cons_append, fractionPart, takeWhile_stretch hds.2 hdigits, dropWhile_stretch hds.2 hdigits, hne]
    rfl

theorem takeSign_read {sign : List Char} (hsign : Sign negative sign) (h : IsDigits ds) (rest : List Char) :
    takeSign (sign ++ ds ++ rest) = (negative, ds ++ rest) := by
  cases hsign with
  | absent =>
    obtain ⟨c, ds, rfl, hc, _⟩ := h.exists_cons
    have hminus : c ≠ '-' := ne_of_isDigit hc (by decide)
    have hplus : c ≠ '+' := ne_of_isDigit hc (by decide)
    simp [takeSign, hminus, hplus]
  | plus => rfl
  | minus => rfl

theorem Power.read (h : Power power mark) (hrest : Stops inNumber rest) :
    exponentPart (mark ++ rest) = (power, rest) := by
  cases h with
  | absent =>
    cases rest with
    | nil => rfl
    | cons c rest =>
      have hc := hrest c rfl
      simp only [inNumber, Bool.or_eq_false_iff, beq_eq_false_iff_ne, ne_eq] at hc
      simp [exponentPart, hc.1.2, hc.2]
  | @mark c negative sign ds hmark hsign hds =>
    have hdigits : Stops Char.isDigit rest := hrest.mono (by simp +contextual [inNumber])
    have hne : (ds.isEmpty : Bool) = false := by simpa using hds.1
    rw [List.cons_append, List.cons_append, exponentPart, if_pos (by simpa using hmark)]
    simp only [takeSign_read hsign hds, takeWhile_stretch hds.2 hdigits, dropWhile_stretch hds.2 hdigits, hne]
    rfl

theorem Power.stops (h : Power power mark) (hrest : Stops inNumber rest) :
    Stops (fun c => c.isDigit || c == '.') (mark ++ rest) := by
  cases h with
  | absent => exact hrest.mono (by simp +contextual [inNumber])
  | mark hmark _ _ => rcases hmark with rfl | rfl <;> simp [Stops]

theorem Fraction.stops (h : Fraction fraction point) (hrest : Stops (fun c => c.isDigit || c == '.') rest) :
    Stops Char.isDigit (point ++ rest) := by
  cases h with
  | absent => exact hrest.mono (by simp +contextual)
  | point => simp [Stops]

/-- A number is read from its parts. -/
theorem number_of_parts (negative : Bool) (hds : IsWhole ds) (hfraction : Fraction fraction point)
    (hpower : Power power mark) (hrest : Stops inNumber rest) :
    number (minus negative ++ (ds ++ (point ++ mark)) ++ rest) =
      if fraction.isEmpty && power.isNone then
        if digitLimit < ds.length then .error (.tooManyDigits ds.length)
        else .ok (.int (signed negative (digitsValue ds)), rest)
      else
        .ok (.float (.ofDecimal ⟨negative, digitsValue (ds ++ fraction), power.getD 0 - fraction.length⟩), rest) := by
  have hmark := hpower.stops hrest
  have hbody : ds ++ (point ++ mark) ++ rest = ds ++ (point ++ (mark ++ rest)) := by simp
  have hwhole := hds.read (hfraction.stops hmark)
  have hne : (ds.isEmpty : Bool) = false := by simpa using hds.isDigits.1
  rw [List.append_assoc, hbody]
  cases negative with
  | true =>
    simp only [minus, if_true, List.singleton_append, number, hwhole, hne, hfraction.read hmark, hpower.read hrest]
    rfl
  | false =>
    have hminus : ∀ tail, ds ++ (point ++ (mark ++ rest)) ≠ '-' :: tail := by
      obtain ⟨c, digits, rfl, hc, _⟩ := hds.isDigits.exists_cons
      exact fun _ heq => ne_of_isDigit hc (by decide) (List.cons.inj heq).1
    simp only [minus, Bool.false_eq_true, if_false, List.nil_append, number, hwhole, hne, hfraction.read hmark,
      hpower.read hrest]
    rfl

end Numbers

/-! ### How values begin -/

/-- What is no blank, closes no bracket and marks no order of bytes. -/
def begins (c : Char) : Bool :=
  !(isSpace c || c == ']' || c == '\x7d' || c == '\ufeff')

section Beginnings

variable {part : Part} {v : Value} {cs rest ds : List Char} {negative : Bool}

theorem begins_of_isDigit {c : Char} (h : c.isDigit = true) : begins c = true := by
  by_contra hc
  simp only [begins, isSpace, Bool.not_eq_true', Bool.not_eq_false, Bool.or_eq_true, decide_eq_true_eq,
    beq_iff_eq] at hc
  rcases hc with (((((rfl | rfl) | rfl) | rfl) | rfl) | rfl) | rfl <;> cases h

theorem begins_number (h : IsWhole ds) (rest : List Char) :
    ∃ c tail, minus negative ++ (ds ++ rest) = c :: tail ∧ begins c = true := by
  cases negative with
  | true => exact ⟨'-', _, rfl, rfl⟩
  | false =>
    obtain ⟨c, ds, rfl, hc, _⟩ := h.isDigits.exists_cons
    exact ⟨c, ds ++ rest, rfl, begins_of_isDigit hc⟩

theorem Spells.begins (h : Spells .readable part cs) : ∃ c tail, cs = c :: tail ∧ begins c = true := by
  induction h with
  | word h =>
    simp only [Dialect.readable, words, List.mem_cons, Prod.mk.injEq, List.not_mem_nil, or_false] at h
    rcases h with ⟨rfl, _⟩ | ⟨rfl, _⟩ | ⟨rfl, _⟩ | ⟨rfl, _⟩ | ⟨rfl, _⟩ | ⟨rfl, _⟩ <;> exact ⟨_, _, rfl, rfl⟩
  | whole hds _ => simpa using begins_number hds []
  | real hds _ _ _ => exact begins_number hds _
  | text | noElements | list | noMembers | map | member => exact ⟨_, _, rfl, rfl⟩
  | lastElement _ _ ih | lastMember _ _ ih =>
    obtain ⟨c, tail, rfl, hc⟩ := ih
    exact ⟨c, _, rfl, hc⟩
  | elements _ _ _ _ ih | members _ _ _ _ ih =>
    obtain ⟨c, tail, rfl, hc⟩ := ih
    exact ⟨c, _, rfl, hc⟩

theorem Spells.length_pos (h : Spells .readable part cs) : 0 < cs.length := by
  obtain ⟨c, tail, rfl, _⟩ := h.begins
  exact Nat.succ_pos _

theorem word?_number (negative : Bool) (h : IsWhole ds) (rest : List Char) :
    word? (minus negative ++ (ds ++ rest)) = none := by
  obtain ⟨c, ds, rfl, hc, _⟩ := h.isDigits.exists_cons
  have hletters : ∀ d ∈ ['n', 't', 'f', 'N', 'I', '-'], d.isDigit = false := by simp
  have hne : ∀ d ∈ ['n', 't', 'f', 'N', 'I', '-'], d ≠ c := fun d hd => (ne_of_isDigit hc (hletters d hd)).symm
  simp only [List.forall_mem_cons] at hne
  cases negative <;> simp [word?, words, minus, hne]

end Beginnings

/-! ### Values -/

/-- What the reader can give: distinct names all the way down, and nested no deeper than `d`. -/
structure Readable (d : Nat) (v : Value) : Prop where
  document : Document v
  within : v.Within d

/-- Reading on after a binding, with the bindings so far. -/
def membersFrom (fuel depth : Nat) (fields : Fields) (tail : List Char) : Except Fault (Fields × List Char) :=
  match skipSpace tail with
  | '\x7d' :: rest => .ok (fields, rest)
  | ',' :: rest => members fuel depth fields (skipSpace rest)
  | rest => .error (.malformed .expectingComma rest)

/-- What the reader makes of a part of a document, with `d` levels left to nest and enough fuel for two calls at each
character. -/
def Reads : Part → List Char → Prop
  | .value v, cs => ∀ {fuel depth d : Nat} {rest : List Char}, 2 * cs.length ≤ fuel + 1 → depth + d ≤ maxDepth →
      Readable d v → Stops inNumber rest → value fuel depth (cs ++ rest) = .ok (v, rest)
  | .elements items, cs => ∀ {fuel depth d : Nat} {rest : List Char}, 2 * cs.length ≤ fuel → depth + d ≤ maxDepth →
      (∀ v ∈ items, Readable d v) → elements fuel depth (cs ++ ']' :: rest) = .ok (items, rest)
  | .member name v, cs => ∀ {fuel depth d : Nat} {before : Fields} {tail : List Char}, 2 * cs.length ≤ fuel + 1 →
      depth + d ≤ maxDepth → Readable d v → Stops inNumber tail →
      members (fuel + 1) depth before (cs ++ tail) = membersFrom fuel depth (before.put (.text name) v) tail
  | .members fields, cs => ∀ {fuel depth d : Nat} {before : Fields} {rest : List Char}, 2 * cs.length ≤ fuel →
      depth + d ≤ maxDepth → (∀ b ∈ fields, Readable d b.2) → Fields.Named (before ++ fields) →
      members fuel depth before (cs ++ '\x7d' :: rest) = .ok (before ++ fields, rest)

section Values

variable {v : Value} {items : List Value} {fields : Fields} {cs ds before after blank : List Char} {d : Nat}

theorem Readable.list (h : Readable d (.list items)) : ∃ k, d = k + 1 ∧ ∀ v ∈ items, Readable k v := by
  obtain ⟨hdocument, hwithin⟩ := h
  obtain ⟨k, rfl, hitems⟩ := Value.within_list.mp hwithin
  cases hdocument with
  | list hdocuments => exact ⟨k, rfl, fun v hv => ⟨hdocuments v hv, hitems v hv⟩⟩

theorem Readable.map (h : Readable d (.map fields)) :
    ∃ k, d = k + 1 ∧ fields.Named ∧ ∀ b ∈ fields, Readable k b.2 := by
  obtain ⟨hdocument, hwithin⟩ := h
  obtain ⟨k, rfl, hfields⟩ := Value.within_map.mp hwithin
  exact ⟨k, rfl, hdocument.named, fun b hb => ⟨hdocument.of_mem hb, (hfields b hb).2⟩⟩

theorem stops_blank {p : Char → Bool} {c : Char} (h : Blank blank) (hp : ∀ c, isSpace c = true → p c = false)
    (hc : p c = false) (rest : List Char) : Stops p (blank ++ c :: rest) := by
  cases blank with
  | nil => simpa [Stops] using hc
  | cons b blank => simpa [Stops] using hp b (h b (by simp))

theorem inNumber_of_isSpace {c : Char} (h : isSpace c = true) : inNumber c = false := by
  simp only [isSpace, Bool.or_eq_true, decide_eq_true_eq] at h
  rcases h with ((rfl | rfl) | rfl) | rfl <;> rfl

theorem reads_word (h : (cs, v) ∈ Dialect.readable.words) : Reads (.value v) cs := by
  intro fuel depth d rest hfuel _ _ _
  simp only [Dialect.readable, words, List.mem_cons, Prod.mk.injEq, List.not_mem_nil, or_false] at h
  have hpos : fuel ≠ 0 := by
    rintro rfl
    rcases h with ⟨rfl, _⟩ | ⟨rfl, _⟩ | ⟨rfl, _⟩ | ⟨rfl, _⟩ | ⟨rfl, _⟩ | ⟨rfl, _⟩ <;> simp at hfuel
  obtain ⟨fuel, rfl⟩ := Nat.exists_eq_add_one_of_ne_zero hpos
  rcases h with ⟨rfl, rfl⟩ | ⟨rfl, rfl⟩ | ⟨rfl, rfl⟩ | ⟨rfl, rfl⟩ | ⟨rfl, rfl⟩ | ⟨rfl, rfl⟩ <;> rfl

theorem value_number (hds : IsWhole ds) (fuel depth : Nat) {negative : Bool} (rest : List Char) :
    value (fuel + 1) depth (minus negative ++ (ds ++ rest)) = number (minus negative ++ (ds ++ rest)) := by
  have hword := word?_number negative hds rest
  obtain ⟨c, digits, rfl, hc, _⟩ := hds.isDigits.exists_cons
  have hquote : c ≠ '"' := ne_of_isDigit hc (by decide)
  have hbrace : c ≠ '\x7b' := ne_of_isDigit hc (by decide)
  have hbracket : c ≠ '[' := ne_of_isDigit hc (by decide)
  cases negative with
  | true =>
    simp only [minus, if_true, List.singleton_append] at hword ⊢
    simp only [value, hword]
    rfl
  | false =>
    simp only [minus, Bool.false_eq_true, if_false, List.nil_append, List.cons_append] at hword ⊢
    simp only [value, hword]
    split
    · next heq => exact absurd (List.cons.inj heq).1 hquote
    · next heq => exact absurd (List.cons.inj heq).1 hbrace
    · next heq => exact absurd (List.cons.inj heq).1 hbracket
    · rfl

theorem minus_append_ne_nil (negative : Bool) (h : IsWhole ds) (rest : List Char) :
    0 < (minus negative ++ (ds ++ rest)).length := by
  have := List.length_pos_of_ne_nil h.isDigits.1
  simp only [List.length_append]
  omega

theorem reads_whole {negative : Bool} (hds : IsWhole ds) (hfits : Dialect.readable.fits ds.length) :
    Reads (.value (.int (signed negative (digitsValue ds)))) (minus negative ++ ds) := by
  intro fuel depth d rest hfuel _ _ hrest
  have hpos := minus_append_ne_nil negative hds []
  rw [List.append_nil] at hpos
  obtain ⟨fuel, rfl⟩ := Nat.exists_eq_add_one_of_ne_zero (by omega : fuel ≠ 0)
  have hnumber := number_of_parts negative hds .absent .absent hrest
  have hlimit : ¬ digitLimit < ds.length := not_lt.mpr hfits
  rw [List.append_assoc, value_number hds]
  simpa [hlimit] using hnumber

theorem reads_real {negative : Bool} {fraction point mark : List Char} {power : Option Int} (hds : IsWhole ds)
    (hfraction : Fraction fraction point) (hpower : Power power mark) (hreal : fraction ≠ [] ∨ power ≠ none) :
    Reads (.value (.float (.ofDecimal ⟨negative, digitsValue (ds ++ fraction), power.getD 0 - fraction.length⟩)))
      (minus negative ++ (ds ++ (point ++ mark))) := by
  intro fuel depth d rest hfuel _ _ hrest
  have hpos := minus_append_ne_nil negative hds (point ++ mark)
  obtain ⟨fuel, rfl⟩ := Nat.exists_eq_add_one_of_ne_zero (by omega : fuel ≠ 0)
  have hparts : (fraction.isEmpty && power.isNone) = false := by
    cases fraction <;> cases power <;> simp_all
  have hnumber := number_of_parts negative hds hfraction hpower hrest
  rw [hparts, if_neg (by simp)] at hnumber
  rw [← hnumber]
  simp only [List.append_assoc]
  exact value_number hds fuel depth _

theorem reads_text {s : String} (h : SpellsChars s.toList cs) : Reads (.value (.text s)) ('"' :: cs ++ ['"']) := by
  intro fuel depth d rest hfuel _ _ _
  simp only [List.length_append, List.length_cons] at hfuel
  obtain ⟨fuel, rfl⟩ := Nat.exists_eq_add_one_of_ne_zero (by omega : fuel ≠ 0)
  have htext := h.read_string rest
  simp only [List.cons_append, List.append_assoc, List.nil_append, value, htext]
  rfl

/-- The reader at an opening bracket that is not closed at once. -/
theorem value_list (fuel depth : Nat) {tail : List Char} (hdepth : depth < maxDepth)
    (htail : ∀ rest, skipSpace tail ≠ ']' :: rest) :
    value (fuel + 1) depth ('[' :: tail) = do
      let (items, after) ← elements fuel (depth + 1) (skipSpace tail)
      return (.list items, after) := by
  rw [value, if_neg (by omega)]
  split
  · next rest heq => exact absurd heq (htail rest)
  · rfl

theorem value_map (fuel depth : Nat) {tail : List Char} (hdepth : depth < maxDepth)
    (htail : ∀ rest, skipSpace tail ≠ '\x7d' :: rest) :
    value (fuel + 1) depth ('\x7b' :: tail) = do
      let (fields, after) ← members fuel (depth + 1) [] (skipSpace tail)
      return (.map fields, after) := by
  rw [value, if_neg (by omega)]
  split
  · next rest heq => exact absurd heq (htail rest)
  · rfl

theorem reads_noElements (h : Blank blank) : Reads (.value (.list [])) ('[' :: blank ++ [']']) := by
  intro fuel depth d rest hfuel hdepth hv _
  obtain ⟨k, rfl, _⟩ := hv.list
  simp only [List.length_append, List.length_cons] at hfuel
  obtain ⟨fuel, rfl⟩ := Nat.exists_eq_add_one_of_ne_zero (by omega : fuel ≠ 0)
  have hskip := skipSpace_cons h (by decide : isSpace ']' = false) rest
  simp only [List.cons_append, List.append_assoc, List.nil_append]
  rw [value, if_neg (by omega), hskip]
  rfl

theorem reads_noMembers (h : Blank blank) : Reads (.value (.map [])) ('\x7b' :: blank ++ ['\x7d']) := by
  intro fuel depth d rest hfuel hdepth hv _
  obtain ⟨k, rfl, _⟩ := hv.map
  simp only [List.length_append, List.length_cons] at hfuel
  obtain ⟨fuel, rfl⟩ := Nat.exists_eq_add_one_of_ne_zero (by omega : fuel ≠ 0)
  have hskip := skipSpace_cons h (by decide : isSpace '\x7d' = false) rest
  simp only [List.cons_append, List.append_assoc, List.nil_append]
  rw [value, if_neg (by omega), hskip]
  rfl

theorem Spells.skip {part : Part} (h : Spells .readable part cs) (hbefore : Blank before) (rest : List Char) :
    skipSpace (before ++ (cs ++ rest)) = cs ++ rest := by
  obtain ⟨c, tail, rfl, hc⟩ := h.begins
  refine skipSpace_cons hbefore ?_ (tail ++ rest)
  simp only [Json.begins, Bool.not_eq_true', Bool.or_eq_false_iff] at hc
  exact hc.1.1.1

theorem reads_list (hbefore : Blank before) (h : Spells .readable (.elements items) cs)
    (ih : Reads (.elements items) cs) : Reads (.value (.list items)) ('[' :: before ++ cs ++ [']']) := by
  intro fuel depth d rest hfuel hdepth hv _
  obtain ⟨k, rfl, hitems⟩ := hv.list
  simp only [List.length_append, List.length_cons] at hfuel
  obtain ⟨fuel, rfl⟩ := Nat.exists_eq_add_one_of_ne_zero (by omega : fuel ≠ 0)
  have hskip := h.skip hbefore (']' :: rest)
  simp only [List.cons_append, List.append_assoc, List.nil_append]
  rw [value_list fuel depth (by omega), hskip, ih (by omega) (by omega) hitems]
  · rfl
  · intro rest' heq
    obtain ⟨c, tail, rfl, hc⟩ := h.begins
    rw [hskip] at heq
    obtain ⟨rfl, _⟩ := List.cons.inj heq
    cases hc

theorem reads_map (hbefore : Blank before) (h : Spells .readable (.members fields) cs)
    (ih : Reads (.members fields) cs) : Reads (.value (.map fields)) ('\x7b' :: before ++ cs ++ ['\x7d']) := by
  intro fuel depth d rest hfuel hdepth hv _
  obtain ⟨k, rfl, hnamed, hfields⟩ := hv.map
  simp only [List.length_append, List.length_cons] at hfuel
  obtain ⟨fuel, rfl⟩ := Nat.exists_eq_add_one_of_ne_zero (by omega : fuel ≠ 0)
  have hskip := h.skip hbefore ('\x7d' :: rest)
  have hmembers : members fuel (depth + 1) [] (cs ++ '\x7d' :: rest) = .ok ([] ++ fields, rest) :=
    ih (by omega) (by omega) hfields hnamed
  simp only [List.cons_append, List.append_assoc, List.nil_append]
  rw [value_map fuel depth (by omega), hskip, hmembers]
  · rfl
  · intro rest' heq
    obtain ⟨c, tail, rfl, hc⟩ := h.begins
    rw [hskip] at heq
    obtain ⟨rfl, _⟩ := List.cons.inj heq
    cases hc

theorem reads_lastElement (h : Spells .readable (.value v) cs) (ih : Reads (.value v) cs) (hafter : Blank after) :
    Reads (.elements [v]) (cs ++ after) := by
  intro fuel depth d rest hfuel hdepth hitems
  have hv : Readable d v := hitems v (by simp)
  rw [List.length_append] at hfuel
  have hpos := h.length_pos
  obtain ⟨fuel, rfl⟩ := Nat.exists_eq_add_one_of_ne_zero (by omega : fuel ≠ 0)
  have hstops : Stops inNumber (after ++ ']' :: rest) := stops_blank hafter (fun _ => inNumber_of_isSpace) rfl rest
  rw [List.append_assoc, elements, ih (by omega) hdepth hv hstops]
  simp only [Except.ok_bind, skipSpace_cons hafter (by decide : isSpace ']' = false)]
  rfl

theorem reads_elements (h : Spells .readable (.value v) cs) (hafter : Blank after) (hbefore : Blank before)
    (hrest : Spells .readable (.elements items) ds) (ih : Reads (.value v) cs) (ihrest : Reads (.elements items) ds) :
    Reads (.elements (v :: items)) (cs ++ after ++ ',' :: before ++ ds) := by
  intro fuel depth d rest hfuel hdepth hitems
  obtain ⟨hv, hitems⟩ := List.forall_mem_cons.mp hitems
  have hpos := h.length_pos
  simp only [List.length_append, List.length_cons] at hfuel
  obtain ⟨fuel, rfl⟩ := Nat.exists_eq_add_one_of_ne_zero (by omega : fuel ≠ 0)
  simp only [List.append_assoc, List.cons_append]
  generalize htail : before ++ (ds ++ ']' :: rest) = tail
  have hskip : skipSpace tail = ds ++ ']' :: rest := htail ▸ hrest.skip hbefore _
  have hstops : Stops inNumber (after ++ ',' :: tail) := stops_blank hafter (fun _ => inNumber_of_isSpace) rfl tail
  rw [elements, ih (by omega) hdepth hv hstops]
  simp only [Except.ok_bind, skipSpace_cons hafter (by decide : isSpace ',' = false), hskip]
  rw [ihrest (by omega) hdepth hitems]
  rfl

theorem reads_member {name : String} {ns : List Char} (hname : SpellsChars name.toList ns) (hbefore : Blank before)
    (hafter : Blank after) (h : Spells .readable (.value v) cs) (ih : Reads (.value v) cs) :
    Reads (.member name v) ('"' :: ns ++ '"' :: before ++ ':' :: after ++ cs) := by
  intro fuel depth d bound tail hfuel hdepth hv htail
  simp only [List.length_append, List.length_cons] at hfuel
  simp only [List.append_assoc, List.cons_append]
  generalize hvalue : after ++ (cs ++ tail) = rest
  have hskip : skipSpace rest = cs ++ tail := hvalue ▸ h.skip hafter tail
  have hread : value fuel depth (cs ++ tail) = .ok (v, tail) := ih (by omega) hdepth hv htail
  rw [members, hname.read_string]
  simp only [Except.ok_bind, skipSpace_cons hbefore (by decide : isSpace ':' = false), hskip, hread]
  rfl

theorem put_of_named {name : String} (h : Fields.Named (fields ++ (.text name, v) :: rest)) :
    fields.put (.text name) v = fields ++ [(.text name, v)] := by
  refine Fields.put_eq_append (Fields.get?_eq_none_iff.mpr fun hmem => ?_) v
  have hnodup := h.nodup
  rw [List.map_append, List.map_cons] at hnodup
  exact (List.nodup_append.mp hnodup).2.2 _ hmem _ List.mem_cons_self rfl

theorem reads_lastMember {name : String} (h : Spells .readable (.member name v) cs) (hafter : Blank after)
    (ih : Reads (.member name v) cs) : Reads (.members [(.text name, v)]) (cs ++ after) := by
  intro fuel depth d bound rest hfuel hdepth hfields hnamed
  have hv : Readable d v := hfields (.text name, v) (by simp)
  rw [List.length_append] at hfuel
  have hpos := h.length_pos
  obtain ⟨fuel, rfl⟩ := Nat.exists_eq_add_one_of_ne_zero (by omega : fuel ≠ 0)
  have hstops : Stops inNumber (after ++ '\x7d' :: rest) := stops_blank hafter (fun _ => inNumber_of_isSpace) rfl rest
  rw [List.append_assoc, ih (by omega) hdepth hv hstops, put_of_named hnamed, membersFrom,
    skipSpace_cons hafter (by decide : isSpace '\x7d' = false)]
  rfl

theorem reads_members {name : String} (h : Spells .readable (.member name v) cs) (hafter : Blank after)
    (hbefore : Blank before) (hrest : Spells .readable (.members fields) ds) (ih : Reads (.member name v) cs)
    (ihrest : Reads (.members fields) ds) :
    Reads (.members ((.text name, v) :: fields)) (cs ++ after ++ ',' :: before ++ ds) := by
  intro fuel depth d bound rest hfuel hdepth hfields hnamed
  obtain ⟨hv, hfields⟩ := List.forall_mem_cons.mp hfields
  have hpos := h.length_pos
  simp only [List.length_append, List.length_cons] at hfuel
  obtain ⟨fuel, rfl⟩ := Nat.exists_eq_add_one_of_ne_zero (by omega : fuel ≠ 0)
  simp only [List.append_assoc, List.cons_append]
  generalize htail : before ++ (ds ++ '\x7d' :: rest) = tail
  have hskip : skipSpace tail = ds ++ '\x7d' :: rest := htail ▸ hrest.skip hbefore _
  have hstops : Stops inNumber (after ++ ',' :: tail) := stops_blank hafter (fun _ => inNumber_of_isSpace) rfl tail
  rw [ih (by omega) hdepth hv hstops, put_of_named hnamed, membersFrom,
    skipSpace_cons hafter (by decide : isSpace ',' = false)]
  have hread : members fuel depth (bound ++ [(.text name, v)]) (ds ++ '\x7d' :: rest) =
      .ok (bound ++ [(.text name, v)] ++ fields, rest) :=
    ihrest (by omega) hdepth hfields (List.append_cons .. ▸ hnamed)
  rw [← List.append_cons] at hread
  simpa only [hskip] using hread

/-! ### Whole documents -/

/-- Every spelling of a part is read. -/
theorem Spells.reads {part : Part} (h : Spells .readable part cs) : Reads part cs := by
  induction h with
  | word h => exact reads_word h
  | whole hds hfits => exact reads_whole hds hfits
  | real hds hfraction hpower hreal => exact reads_real hds hfraction hpower hreal
  | text h => exact reads_text h
  | noElements hblank => exact reads_noElements hblank
  | list hbefore h ih => exact reads_list hbefore h ih
  | noMembers hblank => exact reads_noMembers hblank
  | map hbefore h ih => exact reads_map hbefore h ih
  | lastElement h hafter ih => exact reads_lastElement h ih hafter
  | elements h hafter hbefore hrest ih ihrest => exact reads_elements h hafter hbefore hrest ih ihrest
  | member hname hbefore hafter h ih => exact reads_member hname hbefore hafter h ih
  | lastMember h hafter ih => exact reads_lastMember h hafter ih
  | members h hafter hbefore hrest ih ihrest => exact reads_members h hafter hbefore hrest ih ihrest

/-- A document is read as the value that it spells. -/
theorem parse_spelled {s : String} (h : IsDocument .readable s v) (hv : Readable maxDepth v) : parse s = .ok v := by
  obtain ⟨before, cs, after, hbefore, hcs, hafter, hs⟩ := h
  have hskip : skipSpace s.toList = cs ++ after := by
    have := hcs.skip hbefore after
    rwa [hs, List.append_assoc]
  have hread : value (2 * s.toList.length + 2) 0 (cs ++ after) = .ok (v, after) := by
    refine hcs.reads ?_ (Nat.zero_add _).le hv ?_
    · simp only [hs, List.length_append]
      omega
    · intro c hc
      exact inNumber_of_isSpace (hafter c (List.mem_of_mem_head? hc))
  have hend : skipSpace after = [] := by
    have hskipped : skipSpace (after ++ []) = [] := skipSpace_blank hafter (by simp [Stops])
    rwa [List.append_nil] at hskipped
  unfold parse
  dsimp only
  split
  · next tail heq =>
    exfalso
    obtain ⟨c, rest, rfl, hc⟩ := hcs.begins
    rw [hs] at heq
    cases before with
    | nil =>
      obtain ⟨rfl, _⟩ := List.cons.inj heq
      cases hc
    | cons b before =>
      obtain ⟨rfl, _⟩ := List.cons.inj heq
      cases hbefore _ List.mem_cons_self
  · rw [hskip, hread]
    simp only [Except.ok_bind, hend]
    rfl

end Values

end Amalgam.Json
