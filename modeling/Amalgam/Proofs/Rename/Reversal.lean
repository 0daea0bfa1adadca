import Amalgam.Proofs.Rename.Clean
/-!
# Renaming back

A new name is fresh if it is a name that can be looked for in turn, if no entry looks for it, and if the text does not
have it yet. A table with fresh new names that all differ can be taken back: the entries that give each new name its old
name back find exactly what the table has put in. No rewriting of either table touches what another one of the same
table puts in, so both act at once and their order is of no account. Each part of the text can then be looked at by
itself.

The old names need not differ. Of several entries for a name the first has renamed all there is, and the others have
nothing to take back.
-/

namespace Amalgam.Rename

open Amalgam.Text Amalgam.Symbols

variable {rs ss : List Rewrite} {text : List Glyph} {entries inverse : List Entry}

/-- The new names are names, none of them is looked for, and none is a word of the text. -/
structure Fresh (rs : List Rewrite) (text : List Glyph) : Prop where
  identifier : ∀ r ∈ rs, isIdentifier r.new.toList = true
  not_keyword : ∀ r ∈ rs, r.new ∉ keywords
  not_name : ∀ r ∈ rs, r.new ∉ rs.map Rewrite.name
  absent : ∀ r ∈ rs, glyphs r.new ∉ parts text

/-- The rewritings give each new name its old name back, in whatever order. -/
def Reverses (ss rs : List Rewrite) : Prop :=
  (ss.map fun s => (s.name, s.new)).Perm (rs.map fun r => (r.new, r.name))

/-- The entries have the new names for their display names and the old names for their new names, in whatever order. -/
def Inverse (inverse entries : List Entry) : Prop :=
  (inverse.map fun e => (e.kindDisplayName, e.newDisplayName)).Perm
    ((rewrites entries).map fun r => (r.new, some r.name))

instance (inverse entries : List Entry) : Decidable (Inverse inverse entries) :=
  inferInstanceAs (Decidable (List.Perm _ _))

/-! ### A table acting on a part -/

theorem newFor_cases (rs : List Rewrite) (p : List Glyph) :
    (∃ r ∈ rs, glyphs r.name = p ∧ newFor rs p = glyphs r.new) ∨
      (∀ r ∈ rs, glyphs r.name ≠ p) ∧ newFor rs p = p := by
  cases hfind : rs.find? fun r => glyphs r.name = p with
  | some r =>
    have hname : glyphs r.name = p := by simpa using List.find?_some hfind
    refine Or.inl ⟨r, List.mem_of_find?_eq_some hfind, hname, ?_⟩
    rw [newFor, hfind]
  | none =>
    have hnone : ∀ r ∈ rs, glyphs r.name ≠ p := fun r hr => by simpa using List.find?_eq_none.mp hfind r hr
    exact Or.inr ⟨hnone, newFor_of_absent hnone⟩

theorem keepsOthers_newFor (rs : List Rewrite) : KeepsOthers (newFor rs) := fun _ hg =>
  newFor_of_absent fun r _ => (r.isWord.ne_single hg).symm

/-- A table whose new names are words that it does not look for is clean. -/
theorem clean_of_words (hword : ∀ r ∈ rs, IsWord (glyphs r.new)) (hname : ∀ r ∈ rs, r.new ∉ rs.map Rewrite.name) :
    Clean rs := by
  intro r hr r' hr' hmem
  rw [parts_word (hword r' hr'), List.mem_singleton, glyphs_inj] at hmem
  exact hname r' hr' (hmem ▸ List.mem_map_of_mem hr)

/-! ### There and back -/

theorem Fresh.isWord (h : Fresh rs text) {r : Rewrite} (hr : r ∈ rs) : IsWord (glyphs r.new) :=
  isWord_of_identifier (h.identifier r hr)

namespace Reverses

theorem names_perm (h : Reverses ss rs) : (ss.map Rewrite.name).Perm (rs.map Rewrite.new) := by
  have hnames := h.map Prod.fst
  rw [List.map_map, List.map_map] at hnames
  exact hnames

theorem exists_of_mem (h : Reverses ss rs) {s : Rewrite} (hs : s ∈ ss) : ∃ r ∈ rs, r.new = s.name ∧ r.name = s.new := by
  have hmem : (s.name, s.new) ∈ rs.map fun r => (r.new, r.name) := h.mem_iff.mp (List.mem_map_of_mem hs)
  simpa using hmem

theorem exists_mem (h : Reverses ss rs) {r : Rewrite} (hr : r ∈ rs) : ∃ s ∈ ss, s.name = r.new ∧ s.new = r.name := by
  have hmem : (r.new, r.name) ∈ ss.map fun s => (s.name, s.new) := h.mem_iff.mpr (List.mem_map_of_mem hr)
  simpa using hmem

theorem clean (h : Reverses ss rs) (hfresh : Fresh rs text) : Clean ss := by
  apply clean_of_words
  · intro s hs
    obtain ⟨r, -, -, hname⟩ := h.exists_of_mem hs
    exact hname ▸ r.isWord
  · intro s hs hmem
    obtain ⟨r, hr, -, hname⟩ := h.exists_of_mem hs
    obtain ⟨r', hr', hnew⟩ := List.mem_map.mp (h.names_perm.mem_iff.mp hmem)
    -- What one rewriting gives back would be the new name of another one.
    exact hfresh.not_name r' hr' (hnew.trans hname.symm ▸ List.mem_map_of_mem hr)

/-- What a part has become turns into the part again. -/
theorem atOnce_newFor (h : Reverses ss rs) (hfresh : Fresh rs text) (hnews : (rs.map Rewrite.new).Nodup)
    {p : List Glyph} (hp : p ∈ parts text) : atOnce ss (newFor rs p) = p := by
  rcases newFor_cases rs p with ⟨r, hr, rfl, hnew⟩ | ⟨hnone, hnew⟩
  · obtain ⟨s, hs, hname, hback⟩ := h.exists_mem hr
    have hnames : (ss.map Rewrite.name).Nodup := h.names_perm.nodup_iff.mpr hnews
    rw [hnew, ← hname, atOnce_name hnames hs, hback]
  · have hother : ∀ s ∈ ss, glyphs s.name ≠ p := by
      rintro s hs rfl
      obtain ⟨r, hr, hname, -⟩ := h.exists_of_mem hs
      exact hfresh.absent r hr (hname ▸ hp)
    rw [hnew, atOnce, rewriteParts_part _ hp, newFor_of_absent hother]

theorem rewriteAll_rewriteAll (h : Reverses ss rs) (hfresh : Fresh rs text) (hnews : (rs.map Rewrite.new).Nodup) :
    rewriteAll ss (rewriteAll rs text) = text := by
  have hclean : Clean rs := clean_of_words (fun r hr => hfresh.isWord hr) hfresh.not_name
  calc rewriteAll ss (rewriteAll rs text)
      = atOnce ss (atOnce rs text) := by
        rw [rewriteAll_eq_atOnce ((h.clean hfresh).settledOn _), rewriteAll_eq_atOnce (hclean.settledOn text)]
    _ = rewriteParts (fun p => atOnce ss (newFor rs p)) text :=
        rewriteParts_rewriteParts (keepsOthers_newFor rs) (newFor ss) text
    _ = text := rewriteParts_self fun p hp => h.atOnce_newFor hfresh hnews hp

end Reverses

/-! ### The inverse entries -/

theorem trimmed_identifier {name : String} (h : isIdentifier name.toList = true) : trimmed name = name := by
  have hblank : ∀ c ∈ name.toList, isBlank c = false := fun c hc =>
    isBlank_eq_false_of_isWord (isWord_of_isIdentifier h c hc)
  rw [trimmed, trim_of_no_blank hblank, String.ofList_toList]

/-- An entry for a name that is looked for as it is, with a name for its new name. -/
theorem rewrite?_plain {e : Entry} {name new : String} (hsymbol : e.kindDisplayName = name)
    (hdisplay : e.newDisplayName = some new) (hname : isIdentifier name.toList = true) (hkeyword : name ∉ keywords)
    (hnew : isIdentifier new.toList = true) : ∃ s, rewrite? e = some s ∧ s.name = name ∧ s.new = new := by
  have hnewName : e.newName = new := by
    rw [Entry.newName, hdisplay]
    exact trimmed_identifier hnew
  have hrename : e.hasRename = true := by
    rw [Entry.hasRename, hnewName, bne_iff_ne]
    rintro rfl
    exact isIdentifier_ne_nil hnew rfl
  refine ⟨⟨name, new, isWord_of_identifier hname⟩, rewrite?_eq_some.mpr ⟨hrename, ?_, hnewName.symm⟩, rfl, rfl⟩
  rw [hsymbol]
  exact bareName_identifier hname hkeyword

/-- No inverse entry is passed over, and each looks for its display name as it is. -/
theorem rewrites_plain (h : ∀ e ∈ inverse, ∃ new, e.newDisplayName = some new ∧ isIdentifier new.toList = true ∧
      isIdentifier e.kindDisplayName.toList = true ∧ e.kindDisplayName ∉ keywords) :
    (rewrites inverse).map (fun s => (s.name, some s.new)) =
      inverse.map fun e => (e.kindDisplayName, e.newDisplayName) := by
  induction inverse with
  | nil => rfl
  | cons e rest ih =>
    obtain ⟨new, hdisplay, hnew, hname, hkeyword⟩ := h e List.mem_cons_self
    obtain ⟨s, hrewrite, hsname, hsnew⟩ := rewrite?_plain rfl hdisplay hname hkeyword hnew
    rw [rewrites_cons_some hrewrite, List.map_cons, List.map_cons, hsname, hsnew, hdisplay,
      ih fun e' he' => h e' (List.mem_cons_of_mem e he')]

theorem Inverse.reverses (h : Inverse inverse entries) (hfresh : Fresh (rewrites entries) text) :
    Reverses (rewrites inverse) (rewrites entries) := by
  have hnames : ∀ e ∈ inverse, ∃ new, e.newDisplayName = some new ∧ isIdentifier new.toList = true ∧
      isIdentifier e.kindDisplayName.toList = true ∧ e.kindDisplayName ∉ keywords := by
    intro e he
    obtain ⟨r, hr, hpair⟩ := List.mem_map.mp (h.mem_iff.mp (List.mem_map_of_mem he))
    obtain ⟨hsymbol, hdisplay⟩ := Prod.mk.inj hpair
    refine ⟨r.name, hdisplay.symm, (name_of_mem_rewrites hr).1, ?_, ?_⟩
    · exact hsymbol ▸ hfresh.identifier r hr
    · exact hsymbol ▸ hfresh.not_keyword r hr
  unfold Inverse at h
  rw [← rewrites_plain hnames] at h
  have hpairs := h.map fun pair => (pair.1, pair.2.getD "")
  simpa only [Reverses, List.map_map, Function.comp_def, Option.getD_some] using hpairs

/-! ### The table -/

/-- A table whose new names differ and are fresh is taken back by its inverse entries in any order. -/
theorem renameText_reversed (hnews : ((rewrites entries).map Rewrite.new).Nodup)
    (hfresh : Fresh (rewrites entries) text) (hinverse : Inverse inverse entries) (report report' : Report) :
    (renameText (renameText text entries report).text inverse report').text = text := by
  rw [renameText_text, renameText_text]
  exact (hinverse.reverses hfresh).rewriteAll_rewriteAll hfresh hnews

/-- Two names and a raw byte, a new name with blanks around it, and the inverse entries in the other order. -/
theorem renameText_reversed_swapped :
    let table : List Entry := [⟨"a.c:1", "FUNCTION_DECL:f(int)", some " get_f\t"⟩, ⟨"a.c:2", "ns::g", some "g2"⟩]
    let back : List Entry := [⟨"", "g2", some "g"⟩, ⟨"", "get_f", some "f"⟩]
    let text := glyphs "f(g, f2) + " ++ .byte 255 :: glyphs "f"
    ((rewrites table).map Rewrite.new).Nodup ∧ Fresh (rewrites table) text ∧ Inverse back table ∧
      (renameText text table {}).text = glyphs "get_f(g2, f2) + " ++ .byte 255 :: glyphs "get_f" ∧
      (renameText (glyphs "get_f(g2, f2) + " ++ .byte 255 :: glyphs "get_f") back {}).text = text := by
  intro table back text
  obtain ⟨hnews, ⟨hidentifier, hkeyword, hname, habsent⟩, hinverse, hrenamed⟩ :
      ((rewrites table).map Rewrite.new).Nodup ∧
      ((∀ r ∈ rewrites table, isIdentifier r.new.toList = true) ∧ (∀ r ∈ rewrites table, r.new ∉ keywords) ∧
        (∀ r ∈ rewrites table, r.new ∉ (rewrites table).map Rewrite.name) ∧
        ∀ r ∈ rewrites table, glyphs r.new ∉ parts text) ∧
      Inverse back table ∧
      (renameText text table {}).text = glyphs "get_f(g2, f2) + " ++ .byte 255 :: glyphs "get_f" := by
    decide +kernel
  have hfresh : Fresh (rewrites table) text := ⟨hidentifier, hkeyword, hname, habsent⟩
  have hback := renameText_reversed hnews hfresh hinverse {} {}
  rw [hrenamed] at hback
  exact ⟨hnews, hfresh, hinverse, hrenamed, hback⟩

end Amalgam.Rename
