import Amalgam.Proofs.Rename.Locality
/-!
# Tables that act at once

A table could be meant as a single substitution: every name in the text as it was gives way to its own new name. Run one
after the other, the rewritings do this only as long as none of them finds its name in what an earlier one has put in. A
name becomes what the rewritings after its own make of its new name, so the table acts at once exactly if they leave
each new name alone. A table in which two names are exchanged is not of this kind: it makes one name of the two.
-/

namespace Amalgam.Rename

open Amalgam.Text Amalgam.Symbols

variable {rs : List Rewrite} {text : List Glyph}

/-- What the first rewriting for a part has in its place. -/
def newFor (rs : List Rewrite) (p : List Glyph) : List Glyph :=
  match rs.find? fun r => glyphs r.name = p with
  | some r => glyphs r.new
  | none => p

/-- All names of the original text replaced in one go. -/
def atOnce (rs : List Rewrite) (text : List Glyph) : List Glyph :=
  rewriteParts (newFor rs) text

/-- Every new name that a text gets is left alone by the rewritings after its own. -/
def SettledOn (text : List Glyph) : List Rewrite → Prop
  | [] => True
  | r :: after =>
    (glyphs r.name ∈ parts text → rewriteAll after (glyphs r.new) = glyphs r.new) ∧ SettledOn text after

theorem newFor_cons_self (r : Rewrite) (rs : List Rewrite) : newFor (r :: rs) (glyphs r.name) = glyphs r.new := by
  simp [newFor]

theorem newFor_cons_other {r : Rewrite} {p : List Glyph} (h : glyphs r.name ≠ p) (rs : List Rewrite) :
    newFor (r :: rs) p = newFor rs p := by
  simp [newFor, h]

theorem newFor_of_absent {p : List Glyph} (h : ∀ r ∈ rs, glyphs r.name ≠ p) : newFor rs p = p := by
  have hnone : rs.find? (fun r => glyphs r.name = p) = none :=
    List.find?_eq_none.mpr fun r hr => by simpa using h r hr
  rw [newFor, hnone]

theorem glyphs_name_ne {r r' : Rewrite} (h : r.name ∉ rs.map Rewrite.name) (hr' : r' ∈ rs) :
    glyphs r.name ≠ glyphs r'.name := by
  intro heq
  rw [glyphs_inj.mp heq] at h
  exact h (List.mem_map_of_mem hr')

/-! ### What a name becomes -/

theorem rewriteAll_name (r : Rewrite) (after : List Rewrite) :
    rewriteAll (r :: after) (glyphs r.name) = rewriteAll after (glyphs r.new) := by
  rw [rewriteAll_cons, Rewrite.run, rewriteParts_word _ r.isWord, Rewrite.part, if_pos rfl]

theorem rewriteAll_cons_other {r : Rewrite} {p : List Glyph} (hp : p ∈ parts text) (h : glyphs r.name ≠ p)
    (after : List Rewrite) : rewriteAll (r :: after) p = rewriteAll after p := by
  rw [rewriteAll_cons, Rewrite.run, rewriteParts_part _ hp, Rewrite.part, if_neg (Ne.symm h)]

/-- A name becomes what the rewritings after the first one for it make of its new name. -/
theorem rewriteAll_first {before after : List Rewrite} {r : Rewrite} (h : ∀ r' ∈ before, r'.name ≠ r.name) :
    rewriteAll (before ++ r :: after) (glyphs r.name) = rewriteAll after (glyphs r.new) := by
  have hbefore : rewriteAll before (glyphs r.name) = glyphs r.name := rewriteAll_word_of_ne r.isWord h
  rw [rewriteAll, List.foldl_append]
  change rewriteAll (r :: after) (rewriteAll before (glyphs r.name)) = _
  rw [hbefore, rewriteAll_name]

/-! ### Which tables act at once -/

theorem rewriteAll_part_of_settled {p : List Glyph} (hp : p ∈ parts text) (h : SettledOn text rs) :
    rewriteAll rs p = newFor rs p := by
  induction rs with
  | nil => rfl
  | cons r after ih =>
    by_cases hname : glyphs r.name = p
    · subst hname
      rw [rewriteAll_name, newFor_cons_self]
      exact h.1 hp
    · rw [rewriteAll_cons_other hp hname, newFor_cons_other hname]
      exact ih h.2

theorem rewriteAll_eq_atOnce (h : SettledOn text rs) : rewriteAll rs text = atOnce rs text := by
  rw [rewriteAll_eq_rewriteParts]
  exact rewriteParts_congr fun p hp => rewriteAll_part_of_settled hp h

/-- If a table acts at once on its names, its new names are left alone. -/
theorem settledOn_of_atOnce (hnames : (rs.map Rewrite.name).Nodup)
    (h : ∀ r ∈ rs, rewriteAll rs (glyphs r.name) = glyphs r.new) (text : List Glyph) : SettledOn text rs := by
  induction rs with
  | nil => exact trivial
  | cons r after ih =>
    rw [List.map_cons, List.nodup_cons] at hnames
    constructor
    · intro _
      rw [← rewriteAll_name]
      exact h r List.mem_cons_self
    · apply ih hnames.2
      intro r' hr'
      have hne := glyphs_name_ne hnames.1 hr'
      have hpart : glyphs r'.name ∈ parts (glyphs r'.name) := by
        rw [parts_word r'.isWord]
        exact List.mem_singleton_self _
      rw [← rewriteAll_cons_other hpart hne]
      exact h r' (List.mem_cons_of_mem r hr')

theorem atOnce_name (hnames : (rs.map Rewrite.name).Nodup) {r : Rewrite} (hr : r ∈ rs) :
    atOnce rs (glyphs r.name) = glyphs r.new := by
  rw [atOnce, rewriteParts_word _ r.isWord]
  induction rs with
  | nil => cases hr
  | cons first after ih =>
    rw [List.map_cons, List.nodup_cons] at hnames
    rcases List.mem_cons.mp hr with rfl | hr
    · exact newFor_cons_self r after
    · rw [newFor_cons_other (glyphs_name_ne hnames.1 hr)]
      exact ih hnames.2 hr

/-- It is enough that no later name is a word of a new name. -/
theorem settledOn_of_absent (h : rs.Pairwise fun r later => glyphs later.name ∉ parts (glyphs r.new))
    (text : List Glyph) : SettledOn text rs := by
  induction rs with
  | nil => exact trivial
  | cons r after ih =>
    rw [List.pairwise_cons] at h
    exact ⟨fun _ => rewriteAll_of_absent h.1, ih h.2⟩

/-- Tables with different names. Where the new names that a text gets are left alone by the rewritings after their own,
the table acts on it at once, and for this it is enough that no later name is a word of a new name. It acts at once on
every text only if all its new names are left alone. In any case a name becomes what the rewritings after its own make
of its new name. -/
theorem table_at_once {entries : List Entry} (hnames : ((rewrites entries).map Rewrite.name).Nodup) :
    (∀ text report, SettledOn text (rewrites entries) →
        (renameText text entries report).text = atOnce (rewrites entries) text) ∧
      ((∀ text report, (renameText text entries report).text = atOnce (rewrites entries) text) ↔
        ∀ text, SettledOn text (rewrites entries)) ∧
      ((rewrites entries).Pairwise (fun r later => glyphs later.name ∉ parts (glyphs r.new)) →
        ∀ text, SettledOn text (rewrites entries)) ∧
      ∀ before r after report, rewrites entries = before ++ r :: after →
        (renameText (glyphs r.name) entries report).text = rewriteAll after (glyphs r.new) := by
  have hsettled : ∀ text report, SettledOn text (rewrites entries) →
      (renameText text entries report).text = atOnce (rewrites entries) text := by
    intro text report h
    rw [renameText_text, rewriteAll_eq_atOnce h]
  refine ⟨hsettled, ⟨?_, fun h text report => hsettled text report (h text)⟩, settledOn_of_absent, ?_⟩
  · intro h
    apply settledOn_of_atOnce hnames
    intro r hr
    rw [← renameText_text _ _ {}, h, atOnce_name hnames hr]
  · intro before r after report hsplit
    rw [hsplit, List.map_append, List.nodup_append] at hnames
    rw [renameText_text, hsplit]
    apply rewriteAll_first
    intro r' hr'
    exact hnames.2.2 r'.name (List.mem_map_of_mem hr') r.name (by simp)

/-- A chain of two names that is renamed from its end. -/
theorem chain_from_end_at_once :
    let table : List Entry := [⟨"a.c:1", "b", some "c"⟩, ⟨"a.c:2", "a", some "b"⟩]
    ((rewrites table).map Rewrite.name).Nodup ∧ SettledOn (glyphs "a + b") (rewrites table) ∧
      (renameText (glyphs "a + b") table {}).text = atOnce (rewrites table) (glyphs "a + b") ∧
      atOnce (rewrites table) (glyphs "a + b") = glyphs "b + c" := by
  intro table
  obtain ⟨hnames, hapart, hnew⟩ : ((rewrites table).map Rewrite.name).Nodup ∧
      ((rewrites table).Pairwise fun r later => glyphs later.name ∉ parts (glyphs r.new)) ∧
      atOnce (rewrites table) (glyphs "a + b") = glyphs "b + c" := by
    decide +kernel
  obtain ⟨hatOnce, -, hsettled, -⟩ := table_at_once hnames
  have hsettled := hsettled hapart (glyphs "a + b")
  exact ⟨hnames, hsettled, hatOnce _ {} hsettled, hnew⟩

/-- Two names that are exchanged become one. -/
theorem exchanged_names_merge :
    let table : List Entry := [⟨"a.c:1", "a", some "b"⟩, ⟨"a.c:2", "b", some "a"⟩]
    ((rewrites table).map Rewrite.name).Nodup ∧
      (renameText (glyphs "a + b") table {}).text = glyphs "a + a" ∧
      atOnce (rewrites table) (glyphs "a + b") = glyphs "b + a" := by
  decide +kernel

end Amalgam.Rename
