import Amalgam.Proofs.Rename.Parts
/-!
# Where a name is found

A search for a name goes over a text from the left. At each position the name stands as a whole word or it does not:
where it stands the search takes the place and goes on behind it, anywhere else it goes on by one glyph. Said this way,
without what the search carries along to know the neighbours, it is a relation between a position and the spans that are
found from there on, and each property of the spans is one induction over it.

Places can overlap when the name has glyphs that are no word characters, and of these the search keeps the one that
starts first. The places of a word cannot: in front of the later one would stand a glyph of the earlier one, which is a
word character. Of a word the search therefore finds every place, and these are the longest runs that equal it.
-/

namespace Amalgam.Rename

open Amalgam.Text

variable {name text front rest : List Glyph} {i j skip : Nat} {s : Nat × Nat} {spans : List (Nat × Nat)}

/-- A name stands at a position as a whole word: it is spelled there, and no word character is directly in front of it
or behind it. -/
structure StandsAt (name text : List Glyph) (i : Nat) : Prop where
  spelled : name <+: text.drop i
  before : ∀ k, k + 1 = i → isOpen text[k]? = true
  behind : isOpen text[i + name.length]? = true

theorem StandsAt.end_le (hname : name ≠ []) (h : StandsAt name text i) : i + name.length ≤ text.length := by
  have hpos : 0 < name.length := List.length_pos_iff.mpr hname
  have hle := h.spelled.length_le
  rw [List.length_drop] at hle
  omega

/-! ### Searching -/

/-- What a search finds from a position on. -/
inductive Search (name text : List Glyph) : Nat → List (Nat × Nat) → Prop where
  | done : Search name text text.length []
  | found {i : Nat} {spans : List (Nat × Nat)} : StandsAt name text i → Search name text (i + name.length) spans →
      Search name text i ((i, i + name.length) :: spans)
  | passed {i : Nat} {spans : List (Nat × Nat)} : ¬ StandsAt name text i → Search name text (i + 1) spans →
      Search name text i spans

theorem startsWithWord_iff :
    startsWithWord name front.getLast? rest = true ↔ StandsAt name (front ++ rest) front.length := by
  have hbefore : isOpen front.getLast? = true ↔ ∀ k, k + 1 = front.length → isOpen (front ++ rest)[k]? = true := by
    rw [List.getLast?_eq_getElem?]
    cases hlen : front.length with
    | zero => simp [List.length_eq_zero_iff.mp hlen, isOpen]
    | succ n => simp [List.getElem?_append_left (show n < front.length by omega)]
  have hbehind : (rest.drop name.length).head? = (front ++ rest)[front.length + name.length]? := by
    rw [List.head?_drop, List.getElem?_append_right (by omega), Nat.add_sub_cancel_left]
  simp only [startsWithWord, Bool.and_eq_true, List.isPrefixOf_iff_prefix, hbefore, hbehind]
  constructor
  · rintro ⟨⟨hspelled, hfront⟩, hafter⟩
    exact ⟨by rwa [List.drop_left], hfront, hafter⟩
  · rintro ⟨hspelled, hfront, hafter⟩
    rw [List.drop_left] at hspelled
    exact ⟨⟨hspelled, hfront⟩, hafter⟩

/-- From the glyph that begins a place the text goes on to the end of the name at least. -/
theorem skip_of_startsWithWord {g : Glyph} (hname : name ≠ [])
    (h : startsWithWord name front.getLast? (g :: rest) = true) :
    name.length - 1 ≤ rest.length ∧ front.length + 1 + (name.length - 1) = front.length + name.length := by
  have hpos : 0 < name.length := List.length_pos_iff.mpr hname
  have hend := (startsWithWord_iff.mp h).end_le hname
  rw [List.length_append, List.length_cons] at hend
  omega

theorem search_spansFrom (hname : name ≠ []) (front : List Glyph) (hskip : skip ≤ rest.length) :
    Search name (front ++ rest) (front.length + skip) (spansFrom name skip front.length front.getLast? rest) := by
  induction rest generalizing front skip with
  | nil =>
    obtain rfl : skip = 0 := Nat.le_zero.mp hskip
    have hend : front.length + 0 = (front ++ []).length := by simp
    rw [spansFrom, if_neg (by simp [hname]), hend]
    exact .done
  | cons g rest ih =>
    -- Behind the glyph the search goes on in the same text, with one more glyph in front.
    have hnext : ∀ more ≤ rest.length, Search name (front ++ g :: rest) (front.length + 1 + more)
        (spansFrom name more (front.length + 1) (some g) rest) := by
      intro more hmore
      simpa using ih (front ++ [g]) hmore
    cases skip with
    | succ more =>
      have hmore := hnext more (Nat.le_of_succ_le_succ hskip)
      rw [spansFrom]
      rwa [Nat.add_assoc, Nat.add_comm 1] at hmore
    | zero =>
      rw [spansFrom]
      split_ifs with hstarts
      · obtain ⟨hle, hend⟩ := skip_of_startsWithWord hname hstarts
        have hbehind := hnext (name.length - 1) hle
        rw [hend] at hbehind
        exact .found (startsWithWord_iff.mp hstarts) hbehind
      · exact .passed (mt startsWithWord_iff.mpr hstarts) (hnext 0 (Nat.zero_le _))

theorem search_wordSpans (hname : name ≠ []) (text : List Glyph) : Search name text 0 (wordSpans name text) :=
  search_spansFrom hname [] (Nat.zero_le _)

/-! ### What is found -/

namespace Search

theorem le_start (h : Search name text i spans) : ∀ s ∈ spans, i ≤ s.1 := by
  induction h with
  | done => simp
  | found _ _ ih =>
    intro s hs
    rcases List.mem_cons.mp hs with rfl | hs
    · exact Nat.le_refl _
    · exact Nat.le_trans (Nat.le_add_right _ _) (ih s hs)
  | passed _ _ ih => exact fun s hs => Nat.le_of_succ_le (ih s hs)

theorem stands (h : Search name text i spans) : ∀ s ∈ spans, s.2 = s.1 + name.length ∧ StandsAt name text s.1 := by
  induction h with
  | done => simp
  | found hstands _ ih =>
    intro s hs
    rcases List.mem_cons.mp hs with rfl | hs
    · exact ⟨rfl, hstands⟩
    · exact ih s hs
  | passed _ _ ih => exact ih

theorem ordered (hname : name ≠ []) (h : Search name text i spans) :
    spans.Pairwise fun s t => s.1 < t.1 ∧ s.2 ≤ t.1 := by
  have hpos : 0 < name.length := List.length_pos_iff.mpr hname
  induction h with
  | done => exact .nil
  | found _ hrest ih =>
    refine List.pairwise_cons.mpr ⟨?_, ih⟩
    intro t ht
    have hle := hrest.le_start t ht
    exact ⟨by dsimp only; omega, hle⟩
  | passed _ _ ih => exact ih

/-- The places that are not found are those that overlap an earlier one that is. -/
theorem complete (hname : name ≠ []) (h : Search name text i spans) (hj : i ≤ j) (hstands : StandsAt name text j) :
    ∃ s ∈ spans, s.1 = j ∨ s.1 < j ∧ j < s.2 := by
  induction h with
  | done =>
    have hpos : 0 < name.length := List.length_pos_iff.mpr hname
    have hend := hstands.end_le hname
    omega
  | @found i spans _ _ ih =>
    by_cases hinside : j < i + name.length
    · refine ⟨(i, i + name.length), List.mem_cons_self, ?_⟩
      rcases Nat.eq_or_lt_of_le hj with heq | hlt
      · exact Or.inl heq
      · exact Or.inr ⟨hlt, hinside⟩
    · obtain ⟨s, hs, hcovers⟩ := ih (Nat.le_of_not_lt hinside)
      exact ⟨s, List.mem_cons_of_mem _ hs, hcovers⟩
  | passed hnot _ ih =>
    apply ih
    refine Nat.lt_of_le_of_ne hj ?_
    rintro rfl
    exact hnot hstands

end Search

/-! ### Longest runs -/

/-- There is at least one glyph between two positions, and all of them are word characters. -/
def IsStretch (text : List Glyph) (s : Nat × Nat) : Prop :=
  s.1 < s.2 ∧ ∀ k, s.1 ≤ k → k < s.2 → isOpen text[k]? = false

/-- A stretch of word characters that lies in no other one. -/
def IsRun (text : List Glyph) (s : Nat × Nat) : Prop :=
  IsStretch text s ∧ ∀ t, IsStretch text t → t.1 ≤ s.1 → s.2 ≤ t.2 → t = s

namespace IsStretch

theorem end_le (h : IsStretch text s) : s.2 ≤ text.length := by
  obtain ⟨hlt, hword⟩ := h
  by_contra hnot
  have hlast := hword (s.2 - 1) (by omega) (by omega)
  rw [List.getElem?_eq_none (by omega)] at hlast
  cases hlast

theorem cons (h : IsStretch text s) (hi : i + 1 = s.1) (hword : isOpen text[i]? = false) :
    IsStretch text (i, s.2) := by
  obtain ⟨hlt, hwords⟩ := h
  refine ⟨by dsimp only; omega, ?_⟩
  intro k hle hk
  rcases Nat.eq_or_lt_of_le hle with rfl | hbehind
  · exact hword
  · exact hwords k (by dsimp only at hbehind; omega) hk

theorem snoc (h : IsStretch text s) (hword : isOpen text[s.2]? = false) : IsStretch text (s.1, s.2 + 1) := by
  refine ⟨Nat.lt_succ_of_lt h.1, ?_⟩
  intro k hle hk
  rcases Nat.eq_or_lt_of_le (Nat.le_of_lt_succ hk) with rfl | hbefore
  · exact hword
  · exact h.2 k hle hbefore

end IsStretch

/-- A stretch can be made longer only by its neighbours. -/
theorem isRun_iff : IsRun text s ↔
    IsStretch text s ∧ (∀ k, k + 1 = s.1 → isOpen text[k]? = true) ∧ isOpen text[s.2]? = true := by
  constructor
  · rintro ⟨hstretch, hlongest⟩
    refine ⟨hstretch, ?_, ?_⟩
    · intro k hk
      by_contra hword
      have hlonger := hstretch.cons hk (Bool.eq_false_iff.mpr hword)
      have hsame : k = s.1 := congrArg Prod.fst (hlongest _ hlonger (by dsimp only; omega) (Nat.le_refl _))
      omega
    · by_contra hword
      have hlonger := hstretch.snoc (Bool.eq_false_iff.mpr hword)
      have hsame : s.2 + 1 = s.2 := congrArg Prod.snd (hlongest _ hlonger (Nat.le_refl _) (Nat.le_succ _))
      omega
  · rintro ⟨hstretch, hbefore, hbehind⟩
    refine ⟨hstretch, ?_⟩
    intro t ht hstart hstop
    have hlt := hstretch.1
    have hfirst : t.1 = s.1 := by
      by_contra hne
      have hword := ht.2 (s.1 - 1) (by omega) (by omega)
      rw [hbefore (s.1 - 1) (by omega)] at hword
      cases hword
    have hlast : t.2 = s.2 := by
      by_contra hne
      have hword := ht.2 s.2 (by omega) (by omega)
      rw [hbehind] at hword
      cases hword
    exact Prod.ext hfirst hlast

theorem isStretch_of_spelled (hname : IsWord name) (h : name <+: text.drop i) :
    IsStretch text (i, i + name.length) := by
  refine ⟨Nat.lt_add_of_pos_right (List.length_pos_iff.mpr hname.1), ?_⟩
  intro k hle hlt
  dsimp only at hle hlt
  obtain ⟨more, hmore⟩ := h
  have hinside : k - i < name.length := by omega
  have hglyph : text[k]? = some name[k - i] := by
    calc text[k]? = (text.drop i)[k - i]? := by rw [List.getElem?_drop, Nat.add_sub_cancel' hle]
      _ = some name[k - i] := by
        rw [← hmore, List.getElem?_append_left hinside, List.getElem?_eq_getElem hinside]
  rw [hglyph, isOpen_some, hname.2 _ (List.getElem_mem hinside)]
  rfl

theorem standsAt_iff_isRun (hname : IsWord name) :
    StandsAt name text i ↔ name <+: text.drop i ∧ IsRun text (i, i + name.length) := by
  rw [isRun_iff]
  constructor
  · rintro ⟨hspelled, hbefore, hbehind⟩
    exact ⟨hspelled, isStretch_of_spelled hname hspelled, hbefore, hbehind⟩
  · rintro ⟨hspelled, -, hbefore, hbehind⟩
    exact ⟨hspelled, hbefore, hbehind⟩

theorem extract_eq_iff (hle : s.1 ≤ s.2) (hend : s.2 ≤ text.length) :
    text.extract s.1 s.2 = name ↔ s.2 = s.1 + name.length ∧ name <+: text.drop s.1 := by
  rw [List.extract_eq_take_drop]
  constructor
  · intro h
    have hlen := congrArg List.length h
    rw [List.length_take, List.length_drop] at hlen
    exact ⟨by omega, h ▸ List.take_prefix _ _⟩
  · rintro ⟨hlen, hspelled⟩
    rw [hlen, Nat.add_sub_cancel_left]
    exact (List.prefix_iff_eq_take.mp hspelled).symm

/-- All places of a word are found. -/
theorem mem_wordSpans_of_standsAt (hname : IsWord name) (h : StandsAt name text i) :
    (i, i + name.length) ∈ wordSpans name text := by
  have hsearch := search_wordSpans hname.1 text
  obtain ⟨t, ht, hcovers⟩ := hsearch.complete hname.1 (Nat.zero_le i) h
  obtain ⟨hend, hstands⟩ := hsearch.stands t ht
  have hfirst : t.1 = i := by
    rcases hcovers with heq | ⟨hlt, hinside⟩
    · exact heq
    · have hword := (isStretch_of_spelled hname hstands.spelled).2 (i - 1) (by dsimp only; omega) (by dsimp only; omega)
      rw [h.before (i - 1) (by omega)] at hword
      cases hword
  have hplace : t = (i, i + name.length) := Prod.ext hfirst (by rw [hend, hfirst])
  rwa [hplace] at ht

theorem mem_wordSpans_iff (hname : IsWord name) :
    s ∈ wordSpans name text ↔ IsRun text s ∧ text.extract s.1 s.2 = name := by
  constructor
  · intro hs
    obtain ⟨hend, hstands⟩ := (search_wordSpans hname.1 text).stands s hs
    obtain ⟨hspelled, hrun⟩ := (standsAt_iff_isRun hname).mp hstands
    rw [← hend] at hrun
    exact ⟨hrun, (extract_eq_iff (Nat.le_of_lt hrun.1.1) hrun.1.end_le).mpr ⟨hend, hspelled⟩⟩
  · rintro ⟨hrun, htext⟩
    obtain ⟨hend, hspelled⟩ := (extract_eq_iff (Nat.le_of_lt hrun.1.1) hrun.1.end_le).mp htext
    have hplace : s = (s.1, s.1 + name.length) := Prod.ext rfl hend
    rw [hplace] at hrun ⊢
    exact mem_wordSpans_of_standsAt hname ((standsAt_iff_isRun hname).mpr ⟨hspelled, hrun⟩)

/-! ### What takes the place of the spans -/

/-- A text from a position on, with another text in the place of each span. -/
def filled (new text : List Glyph) : (position : Nat) → List (Nat × Nat) → List Glyph
  | position, [] => text.drop position
  | position, s :: spans => text.extract position s.1 ++ new ++ filled new text s.2 spans

theorem filled_glyph {g : Glyph} (hg : text[i]? = some g) (h : ∀ s ∈ spans, i + 1 ≤ s.1) (new : List Glyph) :
    filled new text i spans = g :: filled new text (i + 1) spans := by
  obtain ⟨hlt, rfl⟩ := List.getElem?_eq_some_iff.mp hg
  cases spans with
  | nil => exact List.drop_eq_getElem_cons hlt
  | cons s spans =>
    have hstart : i + 1 ≤ s.1 := h s List.mem_cons_self
    have hextract : text.extract i s.1 = text[i] :: text.extract (i + 1) s.1 := by
      rw [List.extract_eq_take_drop, List.extract_eq_take_drop, List.drop_eq_getElem_cons hlt,
        show s.1 - i = s.1 - (i + 1) + 1 by omega, List.take_succ_cons]
    rw [filled, filled, hextract]
    rfl

/-- Replacing goes over the text as the search does. -/
theorem replaceFrom_filled (hname : name ≠ []) (new front : List Glyph) (hskip : skip ≤ rest.length) :
    replaceFrom name new skip front.getLast? rest =
      (filled new (front ++ rest) (front.length + skip) (spansFrom name skip front.length front.getLast? rest),
        (spansFrom name skip front.length front.getLast? rest).length) := by
  induction rest generalizing front skip with
  | nil => simp [replaceFrom, spansFrom, hname, filled]
  | cons g rest ih =>
    have hnext : ∀ more ≤ rest.length, replaceFrom name new more (some g) rest =
        (filled new (front ++ g :: rest) (front.length + 1 + more)
          (spansFrom name more (front.length + 1) (some g) rest),
          (spansFrom name more (front.length + 1) (some g) rest).length) := by
      intro more hmore
      simpa using ih (front ++ [g]) hmore
    cases skip with
    | succ more =>
      rw [replaceFrom, spansFrom, hnext more (Nat.le_of_succ_le_succ hskip), Nat.add_assoc, Nat.add_comm 1]
    | zero =>
      rw [replaceFrom, spansFrom]
      split_ifs with hstarts hempty
      · exact absurd (List.isEmpty_iff.mp hempty) hname
      · obtain ⟨hle, hend⟩ := skip_of_startsWithWord hname hstarts
        rw [hnext (name.length - 1) hle, hend]
        simp [filled]
      · have hglyph : (front ++ g :: rest)[front.length]? = some g := by simp
        have hahead : ∀ s ∈ spansFrom name 0 (front.length + 1) (some g) rest, front.length + 1 ≤ s.1 := by
          simpa using (search_spansFrom hname (front ++ [g]) (Nat.zero_le rest.length)).le_start
        rw [hnext 0 (Nat.zero_le _), Nat.add_zero front.length, filled_glyph hglyph hahead, Nat.add_zero]

/-! ### The spans of a name -/

/-- The spans of a name are places of it, in their order and apart, and a place that is none of them overlaps an earlier
one that is. The spans of a word are the longest runs of the text that equal it. Whatever the name is, the spans are what
renaming replaces and counts. -/
theorem wordSpans_exact (hname : name ≠ []) (text : List Glyph) :
    (wordSpans name text).Pairwise (fun s t => s.1 < t.1 ∧ s.2 ≤ t.1) ∧
      (∀ s ∈ wordSpans name text,
        s.2 = s.1 + name.length ∧ text.extract s.1 s.2 = name ∧ StandsAt name text s.1) ∧
      (∀ i, StandsAt name text i → ∃ s ∈ wordSpans name text, s.1 = i ∨ s.1 < i ∧ i < s.2) ∧
      ((∀ g ∈ name, g.isWord = true) →
        ∀ s, s ∈ wordSpans name text ↔ IsRun text s ∧ text.extract s.1 s.2 = name) ∧
      ∀ new, replaceWord name new text =
        (filled new text 0 (wordSpans name text), (wordSpans name text).length) := by
  have hsearch := search_wordSpans hname text
  refine ⟨hsearch.ordered hname, ?_, ?_, ?_, ?_⟩
  · intro s hs
    obtain ⟨hend, hstands⟩ := hsearch.stands s hs
    have hle : s.2 ≤ text.length := hend ▸ hstands.end_le hname
    exact ⟨hend, (extract_eq_iff (by omega) hle).mpr ⟨hend, hstands.spelled⟩, hstands⟩
  · intro i hstands
    exact hsearch.complete hname (Nat.zero_le i) hstands
  · intro hword s
    exact mem_wordSpans_iff ⟨hname, hword⟩
  · intro new
    exact replaceFrom_filled hname new [] (Nat.zero_le _)

/-- A name that overlaps itself, and a word that has letters outside of ASCII and is found beside a longer one. -/
theorem wordSpans_exact_overlapping :
    let name := glyphs "a.a"
    let text := glyphs "a.a.a a.ab a.a"
    let word := glyphs "größe"
    let line := glyphs "größe größen (größe)"
    (name ≠ [] ∧ wordSpans name text = [(0, 3), (11, 14)] ∧
        StandsAt name text 2 ∧ (∃ s ∈ wordSpans name text, s.1 < 2 ∧ 2 < s.2) ∧
        replaceWord name (glyphs "b") text = (glyphs "b.a a.ab b", 2)) ∧
      word ≠ [] ∧ (∀ g ∈ word, g.isWord = true) ∧
        ∀ s, IsRun line s ∧ line.extract s.1 s.2 = word ↔ s = (0, 5) ∨ s = (14, 19) := by
  intro name text word line
  have hname : name ≠ [] := by decide
  have hword : word ≠ [] := by decide
  have hwords : ∀ g ∈ word, g.isWord = true := by decide +kernel
  have hspans : wordSpans name text = [(0, 3), (11, 14)] := by decide +kernel
  have hfound : wordSpans word line = [(0, 5), (14, 19)] := by decide +kernel
  have hsecond : StandsAt name text 2 := by
    refine ⟨by decide +kernel, ?_, by decide +kernel⟩
    intro k hk
    obtain rfl : k = 1 := by omega
    decide +kernel
  obtain ⟨-, -, hcomplete, -, hreplaced⟩ := wordSpans_exact hname text
  obtain ⟨-, -, -, hruns, -⟩ := wordSpans_exact hword line
  refine ⟨⟨hname, hspans, hsecond, ?_, ?_⟩, hword, hwords, ?_⟩
  · obtain ⟨s, hs, hstart | hcovers⟩ := hcomplete 2 hsecond
    · rw [hspans] at hs
      simp only [List.mem_cons, List.not_mem_nil, or_false] at hs
      rcases hs with rfl | rfl <;> simp at hstart
    · exact ⟨s, hs, hcovers⟩
  · rw [hreplaced, hspans]
    decide +kernel
  · intro s
    rw [← hruns hwords, hfound]
    simp

end Amalgam.Rename
