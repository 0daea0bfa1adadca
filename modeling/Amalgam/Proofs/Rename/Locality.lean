import Amalgam.Proofs.Rename.Sequence
/-!
# Renaming is local

Each rewriting of a table goes part by part, and so does the whole table: whatever the rewritings put in, a run of word
characters becomes what the table makes of this run alone, and what stands between the runs stays. A text can therefore
be cut wherever no run goes on, and its pieces can be renamed one by one.

A table can only reach names that are found in display names. A word that is no identifier, or that is listed as a
keyword, is safe from every table. No other word is, not even a keyword of the language that is missing from the list.
-/

namespace Amalgam.Rename

open Amalgam.Text Amalgam.Symbols

variable {r : Rewrite} {rs : List Rewrite} {s t text : List Glyph} {entries : List Entry}

theorem Rewrite.run_append (r : Rewrite) (h : Apart s t) : r.run (s ++ t) = r.run s ++ r.run t :=
  rewriteParts_append r.part h

theorem Rewrite.apart_run (r : Rewrite) (h : Apart s t) : Apart (r.run s) (r.run t) :=
  h.rewritten r.keepsOthers

theorem Rewrite.run_of_absent (h : glyphs r.name ∉ parts text) : r.run text = text := by
  apply rewriteParts_self
  intro p hp
  apply if_neg
  rintro rfl
  exact h hp

/-! ### All rewritings of a table -/

theorem rewriteAll_cons (r : Rewrite) (rs : List Rewrite) (text : List Glyph) :
    rewriteAll (r :: rs) text = rewriteAll rs (r.run text) := rfl

theorem rewriteAll_of_absent (h : ∀ r ∈ rs, glyphs r.name ∉ parts text) : rewriteAll rs text = text := by
  induction rs with
  | nil => rfl
  | cons r rest ih =>
    rw [rewriteAll_cons, Rewrite.run_of_absent (h r List.mem_cons_self)]
    exact ih fun r' hr' => h r' (List.mem_cons_of_mem r hr')

theorem rewriteAll_append (rs : List Rewrite) (h : Apart s t) :
    rewriteAll rs (s ++ t) = rewriteAll rs s ++ rewriteAll rs t := by
  induction rs generalizing s t with
  | nil => rfl
  | cons r rest ih =>
    rw [rewriteAll_cons, r.run_append h]
    exact ih (r.apart_run h)

/-- The whole table, too, goes part by part. -/
theorem rewriteAll_eq_rewriteParts (rs : List Rewrite) (text : List Glyph) :
    rewriteAll rs text = rewriteParts (rewriteAll rs) text := by
  induction rs generalizing text with
  | nil => exact (rewriteParts_self fun p _ => rfl).symm
  | cons r rest ih =>
    -- On a part the first rewriting is what it does to parts, and the rest goes part by part on what that leaves.
    have hparts : ∀ p ∈ parts text, rewriteParts (rewriteAll rest) (r.part p) = rewriteAll (r :: rest) p := by
      intro p hp
      rw [← ih, rewriteAll_cons, Rewrite.run, rewriteParts_part r.part hp]
    calc rewriteAll (r :: rest) text
        = rewriteParts (rewriteAll rest) (rewriteParts r.part text) := ih (r.run text)
      _ = rewriteParts (fun p => rewriteParts (rewriteAll rest) (r.part p)) text :=
          rewriteParts_rewriteParts r.keepsOthers _ text
      _ = rewriteParts (rewriteAll (r :: rest)) text := rewriteParts_congr hparts

theorem rewriteAll_other {g : Glyph} (hg : g.isWord = false) (rs : List Rewrite) : rewriteAll rs [g] = [g] := by
  apply rewriteAll_of_absent
  intro r _ hmem
  rw [parts_single, List.mem_singleton] at hmem
  exact r.isWord.ne_single hg hmem.symm

/-- Counts add up over pieces of a text, for each name and all in all. -/
theorem replaced_append (rs : List Rewrite) (h : Apart s t) :
    (∀ name, countOf name (replaced rs (s ++ t)) = countOf name (replaced rs s) + countOf name (replaced rs t)) ∧
      Number.total ((replaced rs (s ++ t)).map Prod.snd) =
        Number.total ((replaced rs s).map Prod.snd) + Number.total ((replaced rs t).map Prod.snd) := by
  induction rs generalizing s t with
  | nil => exact ⟨fun name => rfl, rfl⟩
  | cons r rest ih =>
    obtain ⟨hcounts, htotal⟩ := ih (r.apart_run h)
    have hhere : (parts (s ++ t)).count (glyphs r.name) =
        (parts s).count (glyphs r.name) + (parts t).count (glyphs r.name) := by
      rw [parts_append h, List.count_append]
    constructor
    · intro name
      simp only [replaced, r.run_append h, countOf_cons, hcounts, hhere]
      split_ifs <;> omega
    · simp only [replaced, r.run_append h, List.map_cons, Number.total, htotal, hhere]
      omega

/-! ### Words that no table reaches -/

theorem name_of_mem_rewrites (h : r ∈ rewrites entries) : isIdentifier r.name.toList = true ∧ r.name ∉ keywords := by
  obtain ⟨e, -, he⟩ := List.mem_filterMap.mp h
  exact bareName_sound (rewrite?_eq_some.mp he).2.1

theorem rewriteAll_word_of_ne {w : String} (hw : IsWord (glyphs w)) (h : ∀ r ∈ rs, r.name ≠ w) :
    rewriteAll rs (glyphs w) = glyphs w := by
  apply rewriteAll_of_absent
  intro r hr hmem
  rw [parts_word hw, List.mem_singleton] at hmem
  exact h r hr (glyphs_inj.mp hmem)

/-- An identifier that is not listed as a keyword is renamed by the table that has it as its only display name. -/
theorem rewriteAll_identifier {w new : String} (hw : isIdentifier w.toList = true) (hkeyword : w ∉ keywords)
    (hnew : trimmed new ≠ "") : rewriteAll (rewrites [⟨"", w, some new⟩]) (glyphs w) = glyphs (trimmed new) := by
  have hword := isWord_of_identifier hw
  have hrename : (⟨"", w, some new⟩ : Entry).hasRename = true := bne_iff_ne.mpr hnew
  have hrewrite : rewrite? ⟨"", w, some new⟩ = some ⟨w, trimmed new, hword⟩ :=
    rewrite?_eq_some.mpr ⟨hrename, bareName_identifier hw hkeyword, rfl⟩
  rw [rewrites_cons_some hrewrite, rewriteAll_cons, Rewrite.run, rewriteParts_word _ hword]
  exact if_pos rfl

/-- A word is safe from every table exactly if it is listed as a keyword or is no identifier. -/
theorem safe_word_iff {w : String} (hw : IsWord (glyphs w)) :
    (∀ entries, rewriteAll (rewrites entries) (glyphs w) = glyphs w) ↔
      w ∈ keywords ∨ isIdentifier w.toList = false := by
  constructor
  · intro hsafe
    by_contra hnot
    rw [not_or, Bool.not_eq_false] at hnot
    -- A table that renames this word alone would have to give the word back, whatever its new name is.
    have hrenamed : ∀ new, trimmed new ≠ "" → trimmed new = w := by
      intro new hnew
      rw [← glyphs_inj, ← rewriteAll_identifier hnot.2 hnot.1 hnew, hsafe]
    have hfirst : "a" = w := hrenamed "a" (by decide)
    have hsecond : "b" = w := hrenamed "b" (by decide)
    rw [← hfirst] at hsecond
    revert hsecond
    decide
  · intro hsafe entries
    apply rewriteAll_word_of_ne hw
    rintro r hr rfl
    obtain ⟨hidentifier, hkeyword⟩ := name_of_mem_rewrites hr
    rcases hsafe with hlisted | hnone
    · exact hkeyword hlisted
    · rw [hidentifier] at hnone
      cases hnone

theorem isWord_of_keyword {k : String} (h : k ∈ keywords) : IsWord (glyphs k) := by
  have hall : keywords.all (fun k => isIdentifier k.toList) = true := by decide +kernel
  exact isWord_of_identifier (List.all_eq_true.mp hall k h)

/-! ### The table -/

/-- Where no run goes on, a text can be cut and renamed piece by piece, and the counts add up. Each run becomes what it
becomes by itself, a glyph that is no part of a word stays in its place, and so does a word that is listed as a keyword;
a word outside of the list stays for all tables only if it is no identifier. -/
theorem renameText_local (entries : List Entry) (h : Apart s t) (path : String) :
    let rename text := renameText text entries { filePath := path }
    ((rename (s ++ t)).text = (rename s).text ++ (rename t).text ∧
        (∀ name, countOf name (rename (s ++ t)).report.replacements =
          countOf name (rename s).report.replacements + countOf name (rename t).report.replacements) ∧
        (rename (s ++ t)).report.total = (rename s).report.total + (rename t).report.total) ∧
      (∀ text, (rename text).text = rewriteParts (fun run => (rename run).text) text) ∧
      (∀ front g back, g.isWord = false →
        (rename (front ++ g :: back)).text = (rename front).text ++ g :: (rename back).text) ∧
      (∀ front k back, k ∈ keywords → Apart front (glyphs k) → Apart (glyphs k) back →
        (rename (front ++ glyphs k ++ back)).text = (rename front).text ++ glyphs k ++ (rename back).text) ∧
      ∀ w, IsWord (glyphs w) →
        ((∀ table report, (renameText (glyphs w) table report).text = glyphs w) ↔
          w ∈ keywords ∨ isIdentifier w.toList = false) := by
  intro rename
  have htext : ∀ text, (rename text).text = rewriteAll (rewrites entries) text := fun text => renameText_text text _ _
  obtain ⟨hcounts, htotal⟩ := replaced_append (rewrites entries) h
  refine ⟨⟨?_, ?_, ?_⟩, ?_, ?_, ?_, ?_⟩
  · rw [htext, htext, htext, rewriteAll_append _ h]
  · intro name
    have hnil : countOf name [] = 0 := rfl
    simp only [rename, renameText_replacements, countOf_tally, hcounts, hnil]
    omega
  · simp only [rename, renameText_total, htotal]
  · intro text
    simp only [htext]
    exact rewriteAll_eq_rewriteParts _ text
  · intro front g back hg
    have hfront : Apart front (g :: back) := Or.inr (by simp [hg])
    have hback : Apart [g] back := Or.inl (by simp [hg])
    rw [htext, htext, htext, rewriteAll_append _ hfront, ← List.singleton_append, rewriteAll_append _ hback,
      rewriteAll_other hg, List.singleton_append]
  · intro front k back hk hfront hback
    have hword := isWord_of_keyword hk
    have hopen : Apart (front ++ glyphs k) back := by
      unfold Apart at hback ⊢
      rwa [List.getLast?_append_of_ne_nil front hword.1]
    have hstays : rewriteAll (rewrites entries) (glyphs k) = glyphs k := (safe_word_iff hword).mpr (Or.inl hk) entries
    rw [htext, htext, htext, rewriteAll_append _ hopen, rewriteAll_append _ hfront, hstays]
  · intro w hw
    rw [← safe_word_iff hw]
    simp only [renameText_text]
    exact ⟨fun hsafe table => hsafe table {}, fun hsafe table _ => hsafe table⟩

/-- A cut behind a name, of which one rewriting makes two words and the next finds one of them. -/
theorem renameText_local_at_call :
    let table : List Entry := [⟨"a.c:1", "FUNCTION_DECL:f(int)", some "lib::f"⟩, ⟨"a.c:2", "VAR_DECL:lib", some "x y"⟩]
    let rename text := renameText (glyphs text) table { filePath := "a.c" }
    Apart (glyphs "return f") (glyphs "(f2, f);") ∧
      (rename "return f(f2, f);").text = glyphs "return x y::f" ++ glyphs "(f2, x y::f);" ∧
      (rename "return f(f2, f);").report.total =
        (rename "return f").report.total + (rename "(f2, f);").report.total := by
  intro table rename
  have hcut : Apart (glyphs "return f") (glyphs "(f2, f);") := Or.inr (by decide)
  obtain ⟨hfront, hback⟩ : (rename "return f").text = glyphs "return x y::f" ∧
      (rename "(f2, f);").text = glyphs "(f2, x y::f);" := by
    decide +kernel
  obtain ⟨⟨htext, -, htotal⟩, -⟩ := renameText_local table hcut "a.c"
  refine ⟨hcut, ?_, htotal⟩
  rw [← hfront, ← hback]
  exact htext

/-- A keyword of the language that is not in the list is renamed like any other word. -/
theorem thread_local_renamed :
    let table : List Entry := [⟨"a.c:1", "thread_local", some "tl"⟩]
    IsWord (glyphs "thread_local") ∧ Apart (glyphs "thread_local") (glyphs " int n;") ∧
      (renameText (glyphs "thread_local int n;") table {}).text = glyphs "tl int n;" := by
  have hidentifier : isIdentifier "thread_local".toList = true := by decide +kernel
  refine ⟨isWord_of_identifier hidentifier, Or.inr (by decide), ?_⟩
  decide +kernel

end Amalgam.Rename
