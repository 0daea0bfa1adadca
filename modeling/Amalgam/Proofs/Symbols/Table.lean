import Amalgam.Proofs.Symbols.Csv
import Amalgam.Symbols.Table
import Mathlib.Data.List.TakeWhile
/-!
# Reading a written table

What is written of a list of entries is read back as the same list, but for two things that a table does not show: an
entry without a new name comes back with an empty one, and a row of blanks is no entry.
-/

namespace Amalgam

open Amalgam.Text

theorem Text.trim_eq_nil_iff {cs : List Char} : trim cs = [] ↔ ∀ c ∈ cs, isBlank c = true := by
  rw [trim, trimEnd, List.reverse_eq_nil_iff, List.dropWhile_eq_nil_iff]
  simp only [List.mem_reverse, trimStart]
  constructor
  · intro hall
    -- What is left after the first blanks would start with a character that is none.
    rw [← List.dropWhile_eq_nil_iff]
    by_contra hne
    have hhead := List.head_dropWhile_not isBlank hne
    rw [hall _ (List.head_mem hne)] at hhead
    cases hhead
  · exact fun hall c hc => hall c (List.dropWhile_subset _ hc)

theorem Text.isBlankText_iff {s : String} : isBlankText s = true ↔ trimmed s = "" := by
  have hempty : trimmed s = "" ↔ trim s.toList = [] := by
    rw [trimmed, ← String.toList_inj, String.toList_ofList]
    rfl
  rw [hempty, trim_eq_nil_iff, isBlankText, List.all_eq_true]

namespace Symbols

/-- The entry with an empty new name if it has none. -/
def Entry.filled (e : Entry) : Entry :=
  { e with newDisplayName := some (e.newDisplayName.getD "") }

/-- Nothing but blanks stands in the cells of the entry. -/
def Entry.isBlank (e : Entry) : Bool :=
  e.cells.all fun c => trimmed c = ""

/-- The entries that a table of the given ones is read as. -/
def readBack (entries : List Entry) : List Entry :=
  (entries.filter fun e => !e.isBlank).map Entry.filled

theorem rowEntry_cells (e : Entry) : rowEntry columns e.cells = if e.isBlank then none else some e.filled := by
  have hblank : e.cells.all isBlankText = e.isBlank := by
    rw [Bool.eq_iff_iff, Entry.isBlank, List.all_eq_true, List.all_eq_true]
    simp only [isBlankText_iff, decide_eq_true_eq]
  rw [rowEntry, hblank]
  rfl

theorem filterMap_rowEntry (entries : List Entry) :
    (entries.map Entry.cells).filterMap (rowEntry columns) = readBack entries := by
  induction entries with
  | nil => rfl
  | cons e rest ih =>
    rw [List.map_cons, List.filterMap_cons, rowEntry_cells, readBack, List.filter_cons]
    cases hblank : e.isBlank <;> simp [ih, readBack]

theorem format_eq (entries : List Entry) :
    format entries = String.ofList ((columns :: entries.map Entry.cells).flatMap Csv.row) := by
  simp [format, List.flatMap_map]

/-- A written table is read back. -/
theorem parse_format {entries : List Entry} (hlimit : ∀ e ∈ entries, ∀ c ∈ e.cells, c.length ≤ 131072) :
    parse (format entries) = .ok (readBack entries) := by
  have hcells : ∀ cells ∈ columns :: entries.map Entry.cells, ∀ c ∈ cells, c.length ≤ Csv.fieldLimit := by
    intro cells hmem c hc
    rcases List.mem_cons.mp hmem with rfl | hmem
    · exact (show ∀ name ∈ columns, name.length ≤ Csv.fieldLimit by decide) c hc
    · obtain ⟨e, he, rfl⟩ := List.mem_map.mp hmem
      exact hlimit e he c hc
  have hheader : header columns = .ok columns := by decide
  rw [parse, format_eq, Csv.read_rows hcells]
  simp only [hheader]
  exact congrArg Except.ok (filterMap_rowEntry entries)

/-- Quotes at the ends of cells, line ends of both kinds, a null character, no new name, and a row of blanks. -/
theorem parse_format_quotes :
    let entries : List Entry := [⟨"\"a,\x00\"\"", "x\r\n\ny\r", none⟩, ⟨" ", "\t\r", some "\n"⟩, ⟨"", "\"", some ""⟩]
    (∀ e ∈ entries, ∀ c ∈ e.cells, c.length ≤ 131072) ∧ parse (format entries) =
      .ok [⟨"\"a,\x00\"\"", "x\r\n\ny\r", some ""⟩, ⟨"", "\"", some ""⟩] := by
  intro entries
  have hlimit : ∀ e ∈ entries, ∀ c ∈ e.cells, c.length ≤ 131072 := by decide
  have hback : readBack entries = [⟨"\"a,\x00\"\"", "x\r\n\ny\r", some ""⟩, ⟨"", "\"", some ""⟩] := by decide
  exact ⟨hlimit, (parse_format hlimit).trans (congrArg Except.ok hback)⟩

end Symbols

end Amalgam
