import Amalgam.Proofs.Rename.Parts
import Amalgam.Proofs.Rename.Report
import Amalgam.Proofs.Symbols.Name
/-!
# A table as a sequence of rewritings

Of a table only its rewritings matter for a text: those entries that have a new name and a name to replace, each as the
word it looks for and what it puts there. Applying the table is running these from the first to the last, each on what
the one before has made of the text. What is counted is the number of runs that each replaces when its turn comes, and a
name that several of them look for has the sum of their counts. The report is written beside the text and has no part in
it: without one the text comes out the same.
-/

namespace Amalgam.Rename

open Amalgam.Text Amalgam.Symbols

theorem isWord_glyphs {s : String} (hne : s.toList ≠ []) (h : ∀ c ∈ s.toList, isWord c = true) :
    IsWord (glyphs s) := by
  refine ⟨by simpa [glyphs] using hne, ?_⟩
  intro g hg
  obtain ⟨c, hc, rfl⟩ := List.mem_map.mp hg
  exact h c hc

theorem isWord_of_identifier {name : String} (h : isIdentifier name.toList = true) : IsWord (glyphs name) :=
  isWord_glyphs (isIdentifier_ne_nil h) (isWord_of_isIdentifier h)

theorem glyphs_inj {s t : String} : glyphs s = glyphs t ↔ s = t := by
  constructor
  · intro h
    rw [← glyphText_glyphs s, h, glyphText_glyphs]
  · rintro rfl
    rfl

/-! ### One rewriting -/

/-- A word to look for and what to put in its place. -/
structure Rewrite where
  name : String
  new : String
  isWord : IsWord (glyphs name)

namespace Rewrite

variable (r : Rewrite)

def part (p : List Glyph) : List Glyph :=
  if p = glyphs r.name then glyphs r.new else p

/-- Cuts a text into its parts and puts the new name, as it is, in the place of each part that is the name. -/
def run (text : List Glyph) : List Glyph :=
  rewriteParts r.part text

theorem keepsOthers : KeepsOthers r.part := by
  intro g hg
  exact if_neg (r.isWord.ne_single hg)

end Rewrite

/-- What an entry asks for, if it has a new name and its display name holds a name. -/
def rewrite? (e : Entry) : Option Rewrite :=
  if e.hasRename then
    (bareName e.kindDisplayName).pmap (fun name hname => ⟨name, e.newName, hname⟩)
      fun _ hname => isWord_of_identifier (bareName_sound hname).1
  else none

def rewrites (entries : List Entry) : List Rewrite :=
  entries.filterMap rewrite?

/-- All rewritings from the first to the last, each on the text that the one before left behind. -/
def rewriteAll (rs : List Rewrite) (text : List Glyph) : List Glyph :=
  rs.foldl (fun t r => r.run t) text

/-- How many runs each rewriting replaces when its turn comes. -/
def replaced : List Rewrite → List Glyph → List (String × Nat)
  | [], _ => []
  | r :: rs, text => (r.name, (parts text).count (glyphs r.name)) :: replaced rs (r.run text)

/-- The sum of all counts of a name. -/
def countOf (name : String) (counts : List (String × Nat)) : Nat :=
  Number.total ((counts.filter fun c => c.1 = name).map Prod.snd)

variable {e : Entry} {r : Rewrite}

theorem rewrite?_eq_some : rewrite? e = some r ↔
    e.hasRename = true ∧ bareName e.kindDisplayName = some r.name ∧ r.new = e.newName := by
  unfold rewrite?
  split_ifs with hrename
  · rw [Option.pmap_eq_some_iff]
    constructor
    · rintro ⟨name, hword, hname, rfl⟩
      exact ⟨hrename, hname, rfl⟩
    · rintro ⟨-, hname, hnew⟩
      refine ⟨r.name, r.isWord, hname, ?_⟩
      rw [← hnew]
  · simp [hrename]

theorem rewrite?_eq_none : rewrite? e = none ↔ e.hasRename = false ∨ bareName e.kindDisplayName = none := by
  unfold rewrite?
  split_ifs with hrename
  · rw [Option.pmap_eq_none_iff]
    simp [hrename]
  · simp [hrename]

theorem rewrites_cons_none (h : rewrite? e = none) (entries : List Entry) :
    rewrites (e :: entries) = rewrites entries :=
  List.filterMap_cons_none h

theorem rewrites_cons_some (h : rewrite? e = some r) (entries : List Entry) :
    rewrites (e :: entries) = r :: rewrites entries :=
  List.filterMap_cons_some h

/-! ### Counting by name -/

theorem countOf_cons (name : String) (c : String × Nat) (counts : List (String × Nat)) :
    countOf name (c :: counts) = (if c.1 = name then c.2 else 0) + countOf name counts := by
  by_cases h : c.1 = name
  · simp [countOf, h, Number.total]
  · simp [countOf, h]

theorem countOf_eq_zero {name : String} {counts : List (String × Nat)} (h : name ∉ counts.map Prod.fst) :
    countOf name counts = 0 := by
  induction counts with
  | nil => rfl
  | cons c rest ih =>
    rw [List.map_cons, List.mem_cons, not_or] at h
    rw [countOf_cons, if_neg (Ne.symm h.1), ih h.2]

theorem countOf_addCount (k name : String) (n : Nat) (counts : List (String × Nat)) :
    countOf k (addCount name n counts) = countOf k counts + if name = k then n else 0 := by
  induction counts with
  | nil => rw [addCount, countOf_cons, Nat.add_comm]
  | cons c rest ih =>
    rw [addCount]
    by_cases hname : c.1 = name
    · subst hname
      rw [if_pos rfl, countOf_cons, countOf_cons]
      dsimp only
      split_ifs
      · omega
      · rfl
    · rw [if_neg hname, countOf_cons, countOf_cons, ih]
      dsimp only
      omega

theorem total_addCount (name : String) (n : Nat) (counts : List (String × Nat)) :
    Number.total ((addCount name n counts).map Prod.snd) = Number.total (counts.map Prod.snd) + n := by
  induction counts with
  | nil => simp [addCount, Number.total]
  | cons c rest ih =>
    rw [addCount]
    split_ifs
    · simp only [List.map_cons, Number.total]
      omega
    · simp only [List.map_cons, Number.total, ih]
      omega

/-- Adds counts one after the other. -/
def tally (counts init : List (String × Nat)) : List (String × Nat) :=
  counts.foldl (fun sums c => addCount c.1 c.2 sums) init

theorem countOf_tally (name : String) (counts init : List (String × Nat)) :
    countOf name (tally counts init) = countOf name init + countOf name counts := by
  induction counts generalizing init with
  | nil => rfl
  | cons c rest ih =>
    change countOf name (tally rest (addCount c.1 c.2 init)) = _
    rw [ih, countOf_addCount, countOf_cons]
    omega

theorem total_tally (counts init : List (String × Nat)) : Number.total ((tally counts init).map Prod.snd) =
    Number.total (init.map Prod.snd) + Number.total (counts.map Prod.snd) := by
  induction counts generalizing init with
  | nil => rfl
  | cons c rest ih =>
    change Number.total ((tally rest (addCount c.1 c.2 init)).map Prod.snd) = _
    rw [ih, total_addCount, List.map_cons, Number.total]
    omega

theorem nodup_eraseDups (names : List String) : names.eraseDups.Nodup := by
  induction names using List.reverseRecOn with
  | nil => exact List.nodup_nil
  | append_singleton rest name ih =>
    rw [names_snoc]
    split_ifs with hmem
    · exact ih
    · refine List.nodup_append.mpr ⟨ih, List.pairwise_singleton _ name, ?_⟩
      intro other hother last hlast heq
      obtain rfl := List.mem_singleton.mp hlast
      exact hmem (heq ▸ hother)

theorem eq_map_countOf {counts : List (String × Nat)} (h : (counts.map Prod.fst).Nodup) :
    counts = (counts.map Prod.fst).map fun name => (name, countOf name counts) := by
  induction counts with
  | nil => rfl
  | cons c rest ih =>
    rw [List.map_cons, List.nodup_cons] at h
    have hrest : ∀ name ∈ rest.map Prod.fst, countOf name (c :: rest) = countOf name rest := by
      intro name hname
      have hne : c.1 ≠ name := by
        rintro rfl
        exact h.1 hname
      rw [countOf_cons, if_neg hne, Nat.zero_add]
    have hfirst : countOf c.1 (c :: rest) = c.2 := by
      rw [countOf_cons, if_pos rfl, countOf_eq_zero h.1, Nat.add_zero]
    rw [List.map_cons, List.map_cons, hfirst, List.map_congr_left fun name hname => by rw [hrest name hname],
      ← ih h.2]

/-! ### The entries in turn -/

theorem Pass.apply_of_none (p : Pass) (h : rewrite? e = none) :
    (p.apply e).text = p.text ∧ (p.apply e).report.replacements = p.report.replacements := by
  rw [rewrite?_eq_none] at h
  unfold Pass.apply
  rcases h with h | h
  · simp [h]
  · cases hrename : e.hasRename
    · simp
    · simp [h]

theorem Pass.apply_of_some (p : Pass) (h : rewrite? e = some r) : (p.apply e).text = r.run p.text ∧
    (p.apply e).report.replacements =
      addCount r.name ((parts p.text).count (glyphs r.name)) p.report.replacements := by
  obtain ⟨hrename, hname, hnew⟩ := rewrite?_eq_some.mp h
  have hreplace : replaceWord (glyphs r.name) (glyphs e.newName) p.text =
      (r.run p.text, (parts p.text).count (glyphs r.name)) := by
    rw [replaceWord_eq r.isWord, ← hnew]
    rfl
  unfold Pass.apply
  simp only [hrename, Bool.not_true, Bool.false_eq_true, if_false, hname, hreplace, and_self]

theorem foldl_apply (entries : List Entry) (p : Pass) :
    (entries.foldl Pass.apply p).text = rewriteAll (rewrites entries) p.text ∧
      (entries.foldl Pass.apply p).report.replacements =
        tally (replaced (rewrites entries) p.text) p.report.replacements := by
  induction entries generalizing p with
  | nil => exact ⟨rfl, rfl⟩
  | cons e rest ih =>
    obtain ⟨htext, hcounts⟩ := ih (p.apply e)
    rw [List.foldl_cons, htext, hcounts]
    cases h : rewrite? e with
    | none =>
      obtain ⟨hsame, hnothing⟩ := p.apply_of_none h
      rw [rewrites_cons_none h, hsame, hnothing]
      exact ⟨rfl, rfl⟩
    | some r =>
      obtain ⟨hrun, hcount⟩ := p.apply_of_some h
      rw [rewrites_cons_some h, hrun, hcount]
      exact ⟨rfl, rfl⟩

theorem renameText_text (text : List Glyph) (entries : List Entry) (report : Report) :
    (renameText text entries report).text = rewriteAll (rewrites entries) text :=
  (foldl_apply entries _).1

theorem renameText_replacements (text : List Glyph) (entries : List Entry) (path : String) :
    (renameText text entries { filePath := path }).report.replacements = tally (replaced (rewrites entries) text) [] :=
  (foldl_apply entries _).2

theorem renameText_total (text : List Glyph) (entries : List Entry) (path : String) :
    (renameText text entries { filePath := path }).report.total =
      Number.total ((replaced (rewrites entries) text).map Prod.snd) := by
  rw [Report.total, renameText_replacements, total_tally]
  exact Nat.zero_add _

theorem filterMap_renamedSymbols (entries : List Entry) :
    (renamedSymbols entries).filterMap bareName = (rewrites entries).map Rewrite.name := by
  induction entries with
  | nil => rfl
  | cons e rest ih =>
    rw [renamedSymbols] at ih ⊢
    cases h : rewrite? e with
    | none =>
      rw [rewrites_cons_none h, ← ih]
      rcases rewrite?_eq_none.mp h with hrename | hname
      · rw [List.filter_cons_of_neg (by simp [hrename])]
      · cases hrename : e.hasRename
        · rw [List.filter_cons_of_neg (by simp [hrename])]
        · rw [List.filter_cons_of_pos hrename, List.map_cons, List.filterMap_cons_none hname]
    | some r =>
      obtain ⟨hrename, hname, -⟩ := rewrite?_eq_some.mp h
      rw [rewrites_cons_some h, List.map_cons, ← ih, List.filter_cons_of_pos hrename, List.map_cons,
        List.filterMap_cons_some hname]

/-- The report has each name once, where it is first looked for, with the sum of its counts. -/
theorem renameText_replacements_eq (text : List Glyph) (entries : List Entry) (path : String) :
    (renameText text entries { filePath := path }).report.replacements =
      ((rewrites entries).map Rewrite.name).eraseDups.map fun name =>
        (name, countOf name (replaced (rewrites entries) text)) := by
  have hnames : (renameText text entries { filePath := path }).report.replacements.map Prod.fst =
      ((rewrites entries).map Rewrite.name).eraseDups := by
    rw [(renameText_reports text entries path).names, namesOf, filterMap_renamedSymbols]
  have hnodup := nodup_eraseDups ((rewrites entries).map Rewrite.name)
  rw [← hnames] at hnodup
  rw [eq_map_countOf hnodup, hnames]
  apply List.map_congr_left
  intro name _
  rw [renameText_replacements, countOf_tally]
  exact congrArg (Prod.mk name) (Nat.zero_add _)

/-! ### Without a report -/

theorem Draft.apply_eq (p : Pass) (e : Entry) :
    Draft.apply ⟨p.text, p.records⟩ e = ⟨(p.apply e).text, (p.apply e).records⟩ := by
  unfold Draft.apply Pass.apply
  split_ifs
  · rfl
  · cases bareName e.kindDisplayName with
    | none => rfl
    | some name => rfl

/-- A run that reports nothing is a run that reports, less its report. -/
theorem renameUnreported_eq (text : List Glyph) (entries : List Entry) (report : Report) :
    renameUnreported text entries =
      ⟨(renameText text entries report).text, (renameText text entries report).records⟩ := by
  -- The report differs from step to step, so the induction is over runs from any pass.
  have hrun : ∀ p : Pass, entries.foldl Draft.apply ⟨p.text, p.records⟩ =
      ⟨(entries.foldl Pass.apply p).text, (entries.foldl Pass.apply p).records⟩ := by
    induction entries with
    | nil => exact fun p => rfl
    | cons e rest ih =>
      intro p
      rw [List.foldl_cons, Draft.apply_eq, ih, List.foldl_cons]
  exact hrun { text := text, report := report }

/-! ### The table -/

/-- What applying a table to a text yields and reports. -/
theorem renameText_sequential (text : List Glyph) (entries : List Entry) (path : String) :
    (∀ report, (renameText text entries report).text = (rewrites entries).foldl (fun t r => r.run t) text) ∧
      (renameText text entries { filePath := path }).report.replacements =
        ((rewrites entries).map Rewrite.name).eraseDups.map (fun name =>
          (name, countOf name (replaced (rewrites entries) text))) ∧
      (renameText text entries { filePath := path }).report.skipped =
        (renamedSymbols entries).filter (fun symbol => (bareName symbol).isNone) ∧
      (renameText text entries { filePath := path }).report.total =
        Number.total ((replaced (rewrites entries) text).map Prod.snd) ∧
      ∀ report, (renameUnreported text entries).text = (renameText text entries report).text := by
  refine ⟨renameText_text text entries, renameText_replacements_eq text entries path,
    (renameText_reports text entries path).nameless, renameText_total text entries path, ?_⟩
  intro report
  rw [renameUnreported_eq text entries report]

end Amalgam.Rename
