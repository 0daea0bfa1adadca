import Amalgam.Rename.Word
import Mathlib.Data.List.SplitBy
import Mathlib.Data.List.TakeWhile
import Mathlib.Tactic.Common
/-!
# The parts of a text

A text falls into its longest runs of word characters and the single glyphs between them. Looking for a whole word is
looking for a part: where a name is itself a run of word characters, replacing it glyph by glyph, with a look at what
stands before and after each match, is the same as replacing the parts that equal it.

A rewriting that goes part by part and leaves every glyph between the runs where it is never glues two parts together,
whatever it puts in the place of a run. This is why such rewritings can be joined at any place where no run goes on,
and why two of them, one after the other, are one.
-/

namespace Amalgam.Rename

open Amalgam.Text

variable {g : Glyph} {w rest s t name : List Glyph} {f : List Glyph → List Glyph}

/-- The longest runs of word characters in a text and, one by one, the glyphs between them. -/
def parts (text : List Glyph) : List (List Glyph) :=
  text.splitBy fun g h => g.isWord && h.isWord

def IsWord (w : List Glyph) : Prop :=
  w ≠ [] ∧ ∀ g ∈ w, g.isWord = true

/-- No run of word characters goes on from one text into the other: the last glyph of the first and the first glyph of
the second are not both part of a word. -/
def Apart (s t : List Glyph) : Prop :=
  isOpen s.getLast? = true ∨ isOpen t.head? = true

@[simp] theorem isOpen_some (g : Glyph) : isOpen (some g) = !g.isWord := rfl

theorem IsWord.head_isWord (h : IsWord (g :: rest)) : g.isWord = true :=
  h.2 g List.mem_cons_self

theorem IsWord.not_mem (h : IsWord w) (hg : g.isWord = false) : g ∉ w := by
  intro hmem
  rw [h.2 g hmem] at hg
  cases hg

/-! ### Splitting -/

@[simp] theorem parts_nil : parts [] = [] := rfl

theorem flatten_parts (text : List Glyph) : (parts text).flatten = text :=
  List.flatten_splitBy _ text

theorem parts_append (h : Apart s t) : parts (s ++ t) = parts s ++ parts t := by
  apply List.splitBy_append
  intro g hg k hk
  rcases h with h | h
  · rw [Option.mem_def.mp hg, isOpen_some, Bool.not_eq_true'] at h
    rw [h, Bool.false_and]
  · rw [Option.mem_def.mp hk, isOpen_some, Bool.not_eq_true'] at h
    rw [h, Bool.and_false]

theorem parts_word (h : IsWord w) : parts w = [w] := by
  apply List.splitBy_of_isChain h.1
  apply List.Pairwise.isChain
  apply List.pairwise_of_forall_mem_list
  intro g hg k hk
  rw [h.2 g hg, h.2 k hk, Bool.and_self]

theorem parts_word_append (h : IsWord w) (hrest : isOpen rest.head? = true) : parts (w ++ rest) = w :: parts rest := by
  rw [parts_append (Or.inr hrest), parts_word h, List.singleton_append]

theorem parts_single (g : Glyph) : parts [g] = [[g]] := rfl

theorem parts_other (hg : g.isWord = false) (rest : List Glyph) : parts (g :: rest) = [g] :: parts rest := by
  have hopen : Apart [g] rest := Or.inl (by simp [hg])
  exact parts_append hopen

/-- Texts by their parts: a glyph that is no part of a word, or a run that ends where it ends, in front of a text. -/
@[elab_as_elim]
theorem induction_on_parts {motive : List Glyph → Prop} (text : List Glyph) (nil : motive [])
    (other : ∀ g rest, g.isWord = false → motive rest → motive (g :: rest))
    (word : ∀ w rest, IsWord w → isOpen rest.head? = true → motive rest → motive (w ++ rest)) : motive text := by
  match text with
  | [] => exact nil
  | g :: rest =>
    by_cases hg : g.isWord = true
    · have hsplit : g :: rest = (g :: rest.takeWhile Glyph.isWord) ++ rest.dropWhile Glyph.isWord := by
        rw [List.cons_append, List.takeWhile_append_dropWhile]
      have hopen : isOpen (rest.dropWhile Glyph.isWord).head? = true := by
        have hstop := List.head?_dropWhile_not Glyph.isWord rest
        cases hhead : (rest.dropWhile Glyph.isWord).head? with
        | none => rfl
        | some k =>
          rw [hhead] at hstop
          simpa using hstop
      have hword : IsWord (g :: rest.takeWhile Glyph.isWord) := by
        refine ⟨List.cons_ne_nil _ _, ?_⟩
        intro k hk
        rcases List.mem_cons.mp hk with rfl | hk
        · exact hg
        · exact List.mem_takeWhile_imp hk
      rw [hsplit]
      exact word _ _ hword hopen (induction_on_parts _ nil other word)
    · exact other g rest (by simpa using hg) (induction_on_parts rest nil other word)
termination_by text.length
decreasing_by
  · have hle := List.length_dropWhile_le Glyph.isWord rest
    simp only [List.length_cons]
    omega
  · simp

theorem part_cases {p text : List Glyph} (h : p ∈ parts text) : IsWord p ∨ ∃ g, g.isWord = false ∧ p = [g] := by
  induction text using induction_on_parts with
  | nil => cases h
  | other g rest hg ih =>
    rw [parts_other hg] at h
    rcases List.mem_cons.mp h with rfl | h
    · exact Or.inr ⟨g, hg, rfl⟩
    · exact ih h
  | word w rest hw hopen ih =>
    rw [parts_word_append hw hopen] at h
    rcases List.mem_cons.mp h with rfl | h
    · exact Or.inl hw
    · exact ih h

theorem parts_part {p text : List Glyph} (h : p ∈ parts text) : parts p = [p] := by
  rcases part_cases h with hword | ⟨g, -, rfl⟩
  · exact parts_word hword
  · exact parts_single g

/-! ### Replacing a word -/

theorem IsWord.ne_single (h : IsWord name) (hg : g.isWord = false) : [g] ≠ name := by
  rintro rfl
  exact h.not_mem hg List.mem_cons_self

theorem startsWithWord_other (h : IsWord name) (hg : g.isWord = false) (before : Option Glyph) (rest : List Glyph) :
    startsWithWord name before (g :: rest) = false := by
  match name, h with
  | [], h => exact absurd rfl h.1
  | k :: ks, h =>
    have hne : k ≠ g := by
      rintro rfl
      exact h.not_mem hg List.mem_cons_self
    simp [startsWithWord, List.isPrefixOf, hne]

/-- A word that begins where a run begins is the run. -/
theorem startsWithWord_word (h : IsWord name) (hw : IsWord w) (hrest : isOpen rest.head? = true)
    {before : Option Glyph} (hbefore : isOpen before = true) :
    startsWithWord name before (w ++ rest) = decide (w = name) := by
  rw [Bool.eq_iff_iff, decide_eq_true_iff]
  simp only [startsWithWord, hbefore, Bool.and_true, Bool.and_eq_true, List.isPrefixOf_iff_prefix]
  constructor
  · rintro ⟨hstarts, hopen⟩
    -- A shorter name would be followed by a word character, and a longer one would reach over the end of the run.
    rcases List.prefix_or_prefix_of_prefix hstarts (List.prefix_append w rest) with hshort | hlong
    · obtain ⟨more, rfl⟩ := hshort
      rw [List.append_assoc, List.drop_left] at hopen
      cases more with
      | nil => exact List.append_nil name
      | cons k ks =>
        have hk : k.isWord = true := hw.2 k (by simp)
        simp [hk] at hopen
    · obtain ⟨more, rfl⟩ := hlong
      cases more with
      | nil => exact (List.append_nil w).symm
      | cons k ks =>
        have hk : k.isWord = true := h.2 k (by simp)
        rw [List.prefix_append_right_inj] at hstarts
        cases rest with
        | nil => simp at hstarts
        | cons r rs =>
          obtain rfl := (List.cons_prefix_cons.mp hstarts).1
          simp [hk] at hrest
  · rintro rfl
    refine ⟨List.prefix_append w rest, ?_⟩
    rwa [List.drop_left]

theorem startsWithWord_inside (name : List Glyph) {b : Glyph} (hb : b.isWord = true) (text : List Glyph) :
    startsWithWord name (some b) text = false := by
  simp [startsWithWord, hb]

theorem replaceFrom_skip (name new s rest : List Glyph) (before : Option Glyph) :
    replaceFrom name new s.length before (s ++ rest) = replaceFrom name new 0 (s.getLast?.or before) rest := by
  induction s generalizing before with
  | nil => rfl
  | cons g more ih =>
    rw [List.length_cons, List.cons_append, replaceFrom, ih, List.getLast?_cons]
    cases more.getLast? <;> rfl

theorem replaceFrom_cons {before : Option Glyph} (h : startsWithWord name before (g :: rest) = false)
    (new : List Glyph) : replaceFrom name new 0 before (g :: rest) =
      (g :: (replaceFrom name new 0 (some g) rest).1, (replaceFrom name new 0 (some g) rest).2) := by
  rw [replaceFrom]
  simp [h]

theorem replaceFrom_inside (name new : List Glyph) (hs : ∀ g ∈ s, g.isWord = true) {b : Glyph} (hb : b.isWord = true)
    (rest : List Glyph) : replaceFrom name new 0 (some b) (s ++ rest) =
      (s ++ (replaceFrom name new 0 (s.getLast?.or (some b)) rest).1,
        (replaceFrom name new 0 (s.getLast?.or (some b)) rest).2) := by
  induction s generalizing b with
  | nil => rfl
  | cons g more ih =>
    have hg : g.isWord = true := hs g List.mem_cons_self
    have hmore : ∀ g ∈ more, g.isWord = true := fun k hk => hs k (List.mem_cons_of_mem g hk)
    have hlast : (g :: more).getLast?.or (some b) = more.getLast?.or (some g) := by
      rw [List.getLast?_cons]
      cases more.getLast? <;> rfl
    rw [List.cons_append, replaceFrom_cons (startsWithWord_inside name hb _), ih hmore hg, hlast]
    rfl

/-- Each run that equals the name is replaced, and each is counted. -/
theorem replaceFrom_eq (h : IsWord name) (new text : List Glyph) {before : Option Glyph}
    (hbefore : isOpen before = true ∨ isOpen text.head? = true) :
    replaceFrom name new 0 before text =
      ((parts text).flatMap fun p => if p = name then new else p, (parts text).count name) := by
  induction text using induction_on_parts generalizing before with
  | nil => simp [replaceFrom, h.1]
  | other g rest hg ih =>
    have hnext : isOpen (some g) = true ∨ isOpen rest.head? = true := Or.inl (by simp [hg])
    have hne : [g] ≠ name := h.ne_single hg
    rw [replaceFrom_cons (startsWithWord_other h hg before rest), ih hnext, parts_other hg]
    simp [hne]
  | word w rest hw hopen ih =>
    match w, hw with
    | [], hw => exact absurd rfl hw.1
    | g :: more, hw =>
      have hg : g.isWord = true := hw.head_isWord
      have hfront : isOpen before = true := by
        rcases hbefore with hbefore | hbefore
        · exact hbefore
        · simp [hg] at hbefore
      have hmore : ∀ k ∈ more, k.isWord = true := fun k hk => hw.2 k (List.mem_cons_of_mem g hk)
      have hstart := startsWithWord_word h hw hopen hfront
      rw [parts_word_append hw hopen]
      by_cases hname : g :: more = name
      · -- The match takes the run away, and the search goes on behind it.
        subst hname
        rw [List.cons_append] at hstart ⊢
        rw [replaceFrom]
        simp only [hstart, decide_true, if_true, List.isEmpty_cons, Bool.false_eq_true, if_false, List.length_cons,
          Nat.add_sub_cancel, replaceFrom_skip, ih (Or.inr hopen)]
        simp
      · have hnone : startsWithWord name before (g :: (more ++ rest)) = false := by
          rw [← List.cons_append, hstart, decide_eq_false hname]
        rw [List.cons_append, replaceFrom_cons hnone, replaceFrom_inside name new hmore hg, ih (Or.inr hopen)]
        simp [hname]

theorem replaceWord_eq (h : IsWord name) (new text : List Glyph) : replaceWord name new text =
    ((parts text).flatMap fun p => if p = name then new else p, (parts text).count name) :=
  replaceFrom_eq h new text (Or.inl rfl)

/-! ### Rewriting part by part -/

def rewriteParts (f : List Glyph → List Glyph) (text : List Glyph) : List Glyph :=
  (parts text).flatMap f

/-- Glyphs that are no part of a word stay. -/
def KeepsOthers (f : List Glyph → List Glyph) : Prop :=
  ∀ g, g.isWord = false → f [g] = [g]

theorem rewriteParts_part {p text : List Glyph} (f : List Glyph → List Glyph) (h : p ∈ parts text) :
    rewriteParts f p = f p := by
  rw [rewriteParts, parts_part h, List.flatMap_singleton]

theorem rewriteParts_word (f : List Glyph → List Glyph) (h : IsWord w) : rewriteParts f w = f w := by
  rw [rewriteParts, parts_word h, List.flatMap_singleton]

theorem rewriteParts_append (f : List Glyph → List Glyph) (h : Apart s t) :
    rewriteParts f (s ++ t) = rewriteParts f s ++ rewriteParts f t := by
  rw [rewriteParts, parts_append h, List.flatMap_append]
  rfl

theorem rewriteParts_other (hf : KeepsOthers f) (hg : g.isWord = false) (rest : List Glyph) :
    rewriteParts f (g :: rest) = g :: rewriteParts f rest := by
  rw [rewriteParts, parts_other hg, List.flatMap_cons, hf g hg]
  rfl

theorem rewriteParts_word_append (f : List Glyph → List Glyph) (hw : IsWord w) (hrest : isOpen rest.head? = true) :
    rewriteParts f (w ++ rest) = f w ++ rewriteParts f rest := by
  rw [rewriteParts, parts_word_append hw hrest, List.flatMap_cons]
  rfl

theorem rewriteParts_congr {f' : List Glyph → List Glyph} {text : List Glyph} (h : ∀ p ∈ parts text, f p = f' p) :
    rewriteParts f text = rewriteParts f' text :=
  List.flatMap_congr h

theorem rewriteParts_self {text : List Glyph} (h : ∀ p ∈ parts text, f p = p) : rewriteParts f text = text := by
  rw [rewriteParts_congr h, rewriteParts, List.flatMap_id', flatten_parts]

theorem isOpen_head_rewriteParts (hf : KeepsOthers f) (h : isOpen s.head? = true) :
    isOpen (rewriteParts f s).head? = true := by
  cases s with
  | nil => rfl
  | cons g rest =>
    have hg : g.isWord = false := by simpa using h
    rw [rewriteParts_other hf hg]
    simp [hg]

theorem isOpen_last_rewriteParts (hf : KeepsOthers f) (h : isOpen s.getLast? = true) :
    isOpen (rewriteParts f s).getLast? = true := by
  cases s using List.reverseRecOn with
  | nil => rfl
  | append_singleton front g =>
    have hg : g.isWord = false := by simpa using h
    have hapart : Apart front [g] := Or.inr (by simp [hg])
    have hlast : rewriteParts f [g] = [g] := rewriteParts_other hf hg []
    rw [rewriteParts_append f hapart, hlast]
    simp [hg]

/-- What is apart stays apart, whatever the runs become. -/
theorem Apart.rewritten (h : Apart s t) (hf : KeepsOthers f) : Apart (rewriteParts f s) (rewriteParts f t) :=
  h.imp (isOpen_last_rewriteParts hf) (isOpen_head_rewriteParts hf)

/-- What a part became falls into parts of its own and never runs into its neighbours. -/
theorem parts_rewriteParts (hf : KeepsOthers f) (text : List Glyph) :
    parts (rewriteParts f text) = (parts text).flatMap fun p => parts (f p) := by
  induction text using induction_on_parts with
  | nil => rfl
  | other g rest hg ih =>
    rw [rewriteParts_other hf hg, parts_other hg, ih, parts_other hg, List.flatMap_cons, hf g hg, parts_single,
      List.singleton_append]
  | word w rest hw hopen ih =>
    -- Whatever the run ends in now, the glyph behind it is no part of a word and is still there.
    have hapart : Apart (f w) (rewriteParts f rest) := Or.inr (isOpen_head_rewriteParts hf hopen)
    rw [rewriteParts_word_append f hw hopen, parts_append hapart, ih, parts_word_append hw hopen, List.flatMap_cons]

theorem rewriteParts_rewriteParts (hf : KeepsOthers f) (f' : List Glyph → List Glyph) (text : List Glyph) :
    rewriteParts f' (rewriteParts f text) = rewriteParts (fun p => rewriteParts f' (f p)) text := by
  rw [rewriteParts, parts_rewriteParts hf, List.flatMap_assoc]
  rfl

end Amalgam.Rename
