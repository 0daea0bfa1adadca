import Amalgam.Proofs.Rename.AtOnce
/-!
# Clean tables

In a clean table no new name has one of the names that are looked for among its words. No rewriting then produces or
destroys what another one looks for, except that it takes away its own name. So each rewriting finds what the original
text has of its name, unless an earlier one was for the same name, and the order of different names does not matter. And
after all of them nothing is left to be found.
-/

namespace Amalgam.Rename

open Amalgam.Text Amalgam.Symbols

variable {rs : List Rewrite} {text : List Glyph} {entries : List Entry}

/-- No new name has a name that is looked for among its words. Entries that rename nothing do not count. -/
def Clean (rs : List Rewrite) : Prop :=
  ∀ r ∈ rs, ∀ r' ∈ rs, glyphs r.name ∉ parts (glyphs r'.new)

instance (rs : List Rewrite) : Decidable (Clean rs) :=
  inferInstanceAs (Decidable (∀ r ∈ rs, ∀ r' ∈ rs, _))

/-- The entry gives a new name to this name. -/
def renames (name : String) (e : Entry) : Bool :=
  e.hasRename && bareName e.kindDisplayName == some name

/-- The tables have the same rewritings for each name, and in the same order. -/
def SamePerName (ss rs : List Rewrite) : Prop :=
  ∀ name, ss.filter (fun r => r.name = name) = rs.filter fun r => r.name = name

theorem Clean.settledOn (h : Clean rs) (text : List Glyph) : SettledOn text rs := by
  apply settledOn_of_absent
  apply List.pairwise_of_forall_mem_list
  intro r hr later hlater
  exact h later hlater r hr

/-! ### What is left of a name -/

/-- A rewriting takes away its own name and leaves the number of any other, if it puts none in. -/
theorem count_run {name : String} {r : Rewrite} (h : glyphs name ∉ parts (glyphs r.new)) (text : List Glyph) :
    (parts (r.run text)).count (glyphs name) = if r.name = name then 0 else (parts text).count (glyphs name) := by
  have hpart : ∀ p ∈ parts text, (parts (r.part p)).count (glyphs name) =
      if r.name = name then 0 else [p].count (glyphs name) := by
    intro p hp
    by_cases hown : p = glyphs r.name
    · subst hown
      rw [Rewrite.part, if_pos rfl, List.count_eq_zero_of_not_mem h]
      split_ifs with hname
      · rfl
      · have hne : glyphs name ≠ glyphs r.name := fun heq => hname (glyphs_inj.mp heq).symm
        rw [List.count_eq_zero_of_not_mem (by simpa using hne)]
    · rw [Rewrite.part, if_neg hown, parts_part hp]
      split_ifs with hname
      · subst hname
        exact List.count_eq_zero_of_not_mem (by simpa using Ne.symm hown)
      · rfl
  have hcut : parts (r.run text) = (parts text).flatMap fun p => parts (r.part p) :=
    parts_rewriteParts r.keepsOthers text
  rw [hcut]
  -- From here on only the list of the parts matters, and the count is a sum over it.
  generalize parts text = ps at hpart
  induction ps with
  | nil => simp
  | cons p rest ih =>
    have hrest := ih fun q hq => hpart q (List.mem_cons_of_mem p hq)
    rw [List.flatMap_cons, List.count_append, hrest, hpart p List.mem_cons_self]
    split_ifs with hname
    · rfl
    · rw [← List.count_append, List.singleton_append]

theorem count_rewriteAll {name : String} (h : ∀ r ∈ rs, glyphs name ∉ parts (glyphs r.new)) (text : List Glyph) :
    (parts (rewriteAll rs text)).count (glyphs name) =
      if name ∈ rs.map Rewrite.name then 0 else (parts text).count (glyphs name) := by
  induction rs generalizing text with
  | nil => rfl
  | cons r rest ih =>
    have hrest := ih (fun r' hr' => h r' (List.mem_cons_of_mem r hr')) (r.run text)
    rw [rewriteAll_cons, hrest, count_run (h r List.mem_cons_self), List.map_cons]
    by_cases hname : r.name = name
    · simp [hname]
    · simp [hname, Ne.symm hname]

/-- Of the rewritings for one name the first replaces all there is. -/
theorem countOf_replaced {name : String} (h : ∀ r ∈ rs, glyphs name ∉ parts (glyphs r.new)) (text : List Glyph) :
    countOf name (replaced rs text) =
      if name ∈ rs.map Rewrite.name then (parts text).count (glyphs name) else 0 := by
  induction rs generalizing text with
  | nil => rfl
  | cons r rest ih =>
    have hrest := ih (fun r' hr' => h r' (List.mem_cons_of_mem r hr')) (r.run text)
    rw [replaced, countOf_cons, hrest, count_run (h r List.mem_cons_self), List.map_cons]
    dsimp only
    by_cases hname : r.name = name
    · simp [hname]
    · simp [hname, Ne.symm hname]

theorem Clean.absent_rewriteAll (h : Clean rs) (text : List Glyph) :
    ∀ r ∈ rs, glyphs r.name ∉ parts (rewriteAll rs text) := by
  intro r hr
  rw [← List.count_eq_zero, count_rewriteAll (h r hr), if_pos (List.mem_map_of_mem hr)]

theorem replaced_of_absent (h : ∀ r ∈ rs, glyphs r.name ∉ parts text) : ∀ c ∈ replaced rs text, c.2 = 0 := by
  induction rs with
  | nil => simp [replaced]
  | cons r rest ih =>
    have hfirst := h r List.mem_cons_self
    rw [replaced, Rewrite.run_of_absent hfirst]
    intro c hc
    rcases List.mem_cons.mp hc with rfl | hc
    · exact List.count_eq_zero_of_not_mem hfirst
    · exact ih (fun r' hr' => h r' (List.mem_cons_of_mem r hr')) c hc

theorem total_eq_zero {counts : List (String × Nat)} (h : ∀ c ∈ counts, c.2 = 0) :
    Number.total (counts.map Prod.snd) = 0 := by
  induction counts with
  | nil => rfl
  | cons c rest ih =>
    rw [List.map_cons, Number.total, h c List.mem_cons_self, ih fun c' hc' => h c' (List.mem_cons_of_mem c hc')]

theorem countOf_eq_zero_of_counts {name : String} {counts : List (String × Nat)} (h : ∀ c ∈ counts, c.2 = 0) :
    countOf name counts = 0 :=
  total_eq_zero fun c hc => h c (List.mem_of_mem_filter hc)

/-! ### The order of the entries -/

theorem newFor_filter (rs : List Rewrite) (name : String) :
    newFor (rs.filter fun r => r.name = name) (glyphs name) = newFor rs (glyphs name) := by
  simp only [newFor, List.find?_filter, glyphs_inj, decide_eq_true_eq, and_self]

theorem rewrites_filter (entries : List Entry) (name : String) :
    rewrites (entries.filter (renames name)) = (rewrites entries).filter fun r => r.name = name := by
  induction entries with
  | nil => rfl
  | cons e rest ih =>
    cases h : rewrite? e with
    | none =>
      have hrenames : renames name e = false := by
        rcases rewrite?_eq_none.mp h with hrename | hname
        · simp [renames, hrename]
        · simp [renames, hname]
      rw [List.filter_cons_of_neg (by simp [hrenames]), rewrites_cons_none h, ih]
    | some r =>
      obtain ⟨hrename, hname, -⟩ := rewrite?_eq_some.mp h
      have hrenames : renames name e = (r.name == name) := by simp [renames, hrename, hname]
      rw [rewrites_cons_some h]
      by_cases hsame : r.name = name
      · rw [List.filter_cons_of_pos (by simp [hrenames, hsame]), rewrites_cons_some h, ih,
          List.filter_cons_of_pos (by simp [hsame])]
      · rw [List.filter_cons_of_neg (by simp [hrenames, hsame]), ih, List.filter_cons_of_neg (by simp [hsame])]

theorem samePerName_rewrites {reordered : List Entry}
    (h : ∀ name, reordered.filter (renames name) = entries.filter (renames name)) :
    SamePerName (rewrites reordered) (rewrites entries) := by
  intro name
  rw [← rewrites_filter, h, rewrites_filter]

theorem SamePerName.mem {ss : List Rewrite} (h : SamePerName ss rs) {r : Rewrite} (hr : r ∈ ss) : r ∈ rs := by
  have hmem : r ∈ ss.filter fun r' => r'.name = r.name := List.mem_filter.mpr ⟨hr, by simp⟩
  rw [h] at hmem
  exact List.mem_of_mem_filter hmem

theorem SamePerName.newFor_eq {ss : List Rewrite} (h : SamePerName ss rs) (p : List Glyph) :
    newFor ss p = newFor rs p := by
  by_cases hname : ∃ name, glyphs name = p
  · obtain ⟨name, rfl⟩ := hname
    rw [← newFor_filter ss, h, newFor_filter]
  · have hnone : ∀ r : Rewrite, glyphs r.name ≠ p := fun r heq => hname ⟨r.name, heq⟩
    rw [newFor_of_absent fun r _ => hnone r, newFor_of_absent fun r _ => hnone r]

/-- Acting at once, a clean table depends only on the first rewriting for each name. -/
theorem Clean.rewriteAll_eq {ss : List Rewrite} (hclean : Clean rs) (h : SamePerName ss rs) (text : List Glyph) :
    rewriteAll ss text = rewriteAll rs text := by
  have hss : Clean ss := fun r hr r' hr' => hclean r (h.mem hr) r' (h.mem hr')
  rw [rewriteAll_eq_atOnce (hss.settledOn text), rewriteAll_eq_atOnce (hclean.settledOn text)]
  exact rewriteParts_congr fun p _ => h.newFor_eq p

/-! ### The table -/

/-- A clean table yields the same text in every order that keeps the entries for one name in their order. A second run
finds nothing. The counts are those of the original text, and the first entry for a name decides. -/
theorem clean_table (hclean : Clean (rewrites entries)) (text : List Glyph) (path : String) :
    let pass := renameText text entries { filePath := path }
    let again := renameText pass.text entries { filePath := path }
    (∀ reordered report, (∀ name, reordered.filter (renames name) = entries.filter (renames name)) →
        (renameText text reordered report).text = pass.text) ∧
      (again.text = pass.text ∧ again.report.total = 0 ∧ ∀ c ∈ again.report.replacements, c.2 = 0) ∧
      pass.report.replacements = ((rewrites entries).map Rewrite.name).eraseDups.map (fun name =>
        (name, (parts text).count (glyphs name))) ∧
      pass.text = atOnce (rewrites entries) text := by
  intro pass again
  have htext : pass.text = rewriteAll (rewrites entries) text := renameText_text text entries _
  have habsent : ∀ r ∈ rewrites entries, glyphs r.name ∉ parts pass.text := by
    rw [htext]
    exact hclean.absent_rewriteAll text
  have hzero := replaced_of_absent habsent
  refine ⟨?_, ⟨?_, ?_, ?_⟩, ?_, ?_⟩
  · intro reordered report h
    rw [renameText_text, htext, hclean.rewriteAll_eq (samePerName_rewrites h)]
  · rw [renameText_text, rewriteAll_of_absent habsent]
  · rw [renameText_total, total_eq_zero hzero]
  · rw [renameText_replacements_eq]
    intro c hc
    obtain ⟨name, -, rfl⟩ := List.mem_map.mp hc
    exact countOf_eq_zero_of_counts hzero
  · rw [renameText_replacements_eq]
    apply List.map_congr_left
    intro name hname
    rw [List.mem_eraseDups] at hname
    obtain ⟨r, hr, rfl⟩ := List.mem_map.mp hname
    rw [countOf_replaced (hclean r hr), if_pos hname]
  · rw [htext, rewriteAll_eq_atOnce (hclean.settledOn text)]

/-- An overloaded name with another name between its entries, in two orders. -/
theorem clean_table_overloaded :
    let first : Entry := ⟨"a.c:1", "f(int)", some "lib f2"⟩
    let second : Entry := ⟨"a.c:2", "f(char)", some "unused"⟩
    let other : Entry := ⟨"a.c:3", "g", some "h()"⟩
    let rename text table := renameText (glyphs text) table { filePath := "a.c" }
    Clean (rewrites [first, other, second]) ∧
      (∀ name, [first, second, other].filter (renames name) = [first, other, second].filter (renames name)) ∧
      (rename "f(g, f)" [first, second, other]).text = glyphs "lib f2(h(), lib f2)" ∧
      (rename "lib f2(h(), lib f2)" [first, other, second]).text = glyphs "lib f2(h(), lib f2)" ∧
      (rename "f(g, f)" [first, other, second]).report.replacements = [("f", 2), ("g", 1)] := by
  intro first second other rename
  obtain ⟨hclean, hsecond, hother, hrenamed⟩ : Clean (rewrites [first, other, second]) ∧
      bareName "f(char)" = some "f" ∧ bareName "g" = some "g" ∧
      (rename "f(g, f)" [first, other, second]).text = glyphs "lib f2(h(), lib f2)" := by
    decide +kernel
  have horder : ∀ name,
      [first, second, other].filter (renames name) = [first, other, second].filter (renames name) := by
    intro name
    have hapart : renames name second = false ∨ renames name other = false := by
      by_cases hname : name = "f"
      · exact Or.inr (by simp [renames, other, hother, hname])
      · exact Or.inl (by simp [renames, second, hsecond, Ne.symm hname])
    simp only [List.filter_cons, List.filter_nil]
    rcases hapart with hapart | hapart
    · simp [hapart]
    · simp [hapart]
  obtain ⟨hsame, ⟨hagain, -⟩, hcounts, -⟩ := clean_table hclean (glyphs "f(g, f)") "a.c"
  refine ⟨hclean, horder, ?_, ?_, ?_⟩
  · exact (hsame [first, second, other] { filePath := "a.c" } horder).trans hrenamed
  · rw [hrenamed] at hagain
    exact hagain
  · rw [hcounts]
    decide +kernel

end Amalgam.Rename
