import Amalgam.Proofs.Rename.File
import Amalgam.Proofs.Symbols.Grouping
/-!
# What a renaming reports

A report can be told from the entries alone, without the text: its replacements name what the symbols to be renamed
hold, each name once and where it is first seen, and it skips exactly the symbols that hold no name. Only the counts
depend on the text.
-/

namespace Amalgam.Rename

open Amalgam.Text Amalgam.Symbols

def renamedSymbols (entries : List Entry) : List String :=
  (entries.filter Entry.hasRename).map Entry.kindDisplayName

/-- The names that symbols hold, without repeats and as they are first seen. -/
def namesOf (symbols : List String) : List String :=
  (symbols.filterMap bareName).eraseDups

/-- The symbols that hold no name. -/
def namelessOf (symbols : List String) : List String :=
  symbols.filter fun s => (bareName s).isNone

theorem map_fst_addCount (name : String) (n : Nat) (counts : List (String × Nat)) :
    (addCount name n counts).map Prod.fst =
      if name ∈ counts.map Prod.fst then counts.map Prod.fst else counts.map Prod.fst ++ [name] := by
  induction counts with
  | nil => simp [addCount]
  | cons count rest ih =>
    rw [addCount]
    by_cases hname : count.1 = name
    · simp [hname]
    · have hne : name ≠ count.1 := fun h => hname h.symm
      simp only [hname, if_false, List.map_cons, ih, List.mem_cons, hne, false_or]
      split_ifs <;> rfl

theorem renamedSymbols_snoc (entries : List Entry) (e : Entry) : renamedSymbols (entries ++ [e]) =
    renamedSymbols entries ++ if e.hasRename then [e.kindDisplayName] else [] := by
  by_cases h : e.hasRename = true
  · simp [renamedSymbols, List.filter_append, h]
  · simp [renamedSymbols, List.filter_append, h]

theorem namesOf_snoc (symbols : List String) (s : String) : namesOf (symbols ++ [s]) =
    match bareName s with
    | some name => if name ∈ namesOf symbols then namesOf symbols else namesOf symbols ++ [name]
    | none => namesOf symbols := by
  rw [namesOf, List.filterMap_append]
  cases h : bareName s with
  | none => simp [namesOf, h]
  | some name =>
    simp only [List.filterMap_cons, h, List.filterMap_nil]
    exact names_snoc (symbols.filterMap bareName) name

theorem namelessOf_snoc (symbols : List String) (s : String) : namelessOf (symbols ++ [s]) =
    namelessOf symbols ++ if (bareName s).isNone then [s] else [] := by
  by_cases h : (bareName s).isNone = true
  · simp [namelessOf, List.filter_append, h]
  · simp [namelessOf, List.filter_append, h]

/-- The report tells what the symbols hold. -/
structure Reports (symbols : List String) (report : Report) : Prop where
  names : report.replacements.map Prod.fst = namesOf symbols
  nameless : report.skipped = namelessOf symbols

theorem reports_empty (path : String) : Reports [] { filePath := path } := ⟨rfl, rfl⟩

/-- One more entry adds its symbol to what is told, if it has a new name. -/
theorem Reports.apply {entries : List Entry} {p : Pass} (h : Reports (renamedSymbols entries) p.report) (e : Entry) :
    Reports (renamedSymbols (entries ++ [e])) (p.apply e).report := by
  rw [renamedSymbols_snoc]
  by_cases hrename : e.hasRename = true
  · rw [if_pos hrename]
    simp only [Pass.apply, hrename, Bool.not_true, Bool.false_eq_true, if_false]
    cases hname : bareName e.kindDisplayName with
    | none =>
      refine ⟨?_, ?_⟩
      · rw [namesOf_snoc, hname]
        exact h.names
      · rw [namelessOf_snoc, hname, ← h.nameless]
        rfl
    | some name =>
      refine ⟨?_, ?_⟩
      · rw [namesOf_snoc, hname, ← h.names]
        exact map_fst_addCount name _ _
      · rw [namelessOf_snoc, hname, ← h.nameless]
        exact (List.append_nil _).symm
  · rw [if_neg hrename, List.append_nil, Pass.apply, if_pos (by simpa using hrename)]
    exact h

theorem reports_foldl {done : List Entry} (entries : List Entry) {p : Pass}
    (h : Reports (renamedSymbols done) p.report) :
    Reports (renamedSymbols (done ++ entries)) (entries.foldl Pass.apply p).report := by
  induction entries generalizing done p with
  | nil => rwa [List.append_nil]
  | cons e rest ih =>
    have hrest := ih (h.apply e)
    rwa [List.append_assoc, List.singleton_append] at hrest

/-- What applying entries to a text reports. -/
theorem renameText_reports (text : List Glyph) (entries : List Entry) (path : String) :
    Reports (renamedSymbols entries) (renameText text entries { filePath := path }).report := by
  have hnothing : Reports (renamedSymbols []) ({ filePath := path } : Report) := reports_empty path
  exact reports_foldl (p := { text := text, report := { filePath := path } }) entries hnothing

/-- What a renaming that succeeds reports, also when there is nothing to rename. -/
theorem renameFile_reports {settings : Config.RenameSettings} {path : String} {entries : List Entry} {report : Report}
    {w w' : World} (h : (renameFile settings path entries).runIn w = (.ok report, w')) :
    Reports (renamedSymbols entries) report := by
  unfold renameFile at h
  dsimp only at h
  split_ifs at h with hnone
  · cases h
    have hnothing : renamedSymbols entries = [] := by simpa [renamedSymbols] using hnone
    rw [hnothing]
    exact reports_empty _
  · obtain ⟨text, w₁, _, h⟩ := Action.runIn_bind_eq_ok h
    obtain ⟨_, w₂, _, h⟩ := Action.runIn_bind_eq_ok h
    obtain ⟨eol, w₃, _, h⟩ := Action.runIn_bind_eq_ok h
    obtain ⟨_, w₄, _, hreport⟩ := Action.runIn_bind_eq_ok h
    cases hreport
    have htold := renameText_reports (normalizeNewlines text) entries (Path.ofText path).text
    exact ⟨htold.names, htold.nameless⟩

end Amalgam.Rename
