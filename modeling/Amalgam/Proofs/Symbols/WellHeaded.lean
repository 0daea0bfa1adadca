import Amalgam.Proofs.Symbols.Table
import Mathlib.Data.List.Forall2
/-!
# Which texts are tables

A text without carriage returns has records, and reading them raises no fault as long as no cell is too long. So a text
is refused for its header alone. What the rows below hold is decided cell by cell, by the place of a cell under the
names of the header: a row that is too short lacks cells, and one that is too long has cells that no name stands over.
-/

namespace Amalgam.Symbols

open Amalgam.Text

/-! ### Headers -/

/-- A row has cells, and those a table must have are among the columns they name. -/
def IsHeader (row : List String) : Prop :=
  row ≠ [] ∧ "filename_line" ∈ row.map columnName ∧ "kind_display_name" ∈ row.map columnName

/-- The first record of a table is a header. -/
def WellHeaded (records : List (List String)) : Prop :=
  ∃ first rows, records = first :: rows ∧ IsHeader first

theorem header_of_isHeader {row : List String} (h : IsHeader row) : header row = .ok (row.map columnName) := by
  obtain ⟨hne, hfile, hkind⟩ := h
  have hmissing : (requiredColumns.filter fun c => !(row.map columnName).contains c) = [] := by
    simp only [requiredColumns, columns, List.take, List.filter_eq_nil_iff]
    simp [-List.mem_map, hfile, hkind]
  rw [header, if_neg (by simpa using hne)]
  simp only [hmissing]

theorem header_of_not_isHeader {row : List String} (h : ¬IsHeader row) : ∃ fault, header row = .error fault := by
  rw [header]
  split_ifs with hempty
  · exact ⟨_, rfl⟩
  simp only
  split
  · rename_i hmissing
    refine absurd ⟨by simpa using hempty, ?_⟩ h
    simpa [-List.mem_map, requiredColumns, columns] using hmissing
  · exact ⟨_, rfl⟩

/-! ### Cells by place -/

/-- The value of a row in a column: the last cell that the row has under the column's name, or the empty text. -/
def IsCell (names row : List String) (column value : String) : Prop :=
  (∃ i : Nat, names[i]? = some column ∧ row[i]? = some value ∧ ∀ j > i, names[j]? = some column → row[j]? = none) ∨
    (∀ i : Nat, names[i]? = some column → row[i]? = none) ∧ value = ""

section

variable {pairs : List (String × String)} {column value : String}

theorem getElem?_ne_of_lookup (h : pairs.reverse.lookup column = none) (i : Nat) (value : String) :
    pairs[i]? ≠ some (column, value) := by
  intro hpair
  have hmem := List.mem_reverse.mpr (List.mem_of_getElem? hpair)
  simpa using List.lookup_eq_none_iff.mp h _ hmem

/-- In the reversed list the last pair of a name is found first. -/
theorem exists_last_of_lookup (h : pairs.reverse.lookup column = some value) :
    ∃ i : Nat, pairs[i]? = some (column, value) ∧ ∀ j > i, ∀ value', pairs[j]? ≠ some (column, value') := by
  obtain ⟨behind, before, hpairs, hbehind⟩ := List.lookup_eq_some_iff.mp h
  have hpairs' : pairs = before.reverse ++ (column, value) :: behind.reverse := by
    simpa using List.reverse_eq_append_iff.mp hpairs
  refine ⟨before.length, by simp [hpairs'], fun j hj value' hlater => ?_⟩
  obtain ⟨k, rfl⟩ := Nat.exists_eq_add_of_lt hj
  have hindex : before.length + k + 1 - before.reverse.length = k + 1 := by
    rw [List.length_reverse]
    omega
  rw [hpairs', List.getElem?_append_right (by simp; omega), hindex, List.getElem?_cons_succ] at hlater
  have hmem : (column, value') ∈ behind := List.mem_reverse.mp (List.mem_of_getElem? hlater)
  simpa using hbehind _ hmem

end

theorem isCell_cell (names row : List String) (column : String) : IsCell names row column (cell names row column) := by
  have hmissing : ∀ {i : Nat}, names[i]? = some column → (∀ value, (names.zip row)[i]? ≠ some (column, value)) →
      row[i]? = none := fun hname h =>
    Option.eq_none_iff_forall_ne_some.mpr fun value hvalue =>
      h value (List.getElem?_zip_eq_some.mpr ⟨hname, hvalue⟩)
  rw [cell]
  cases hlookup : (names.zip row).reverse.lookup column with
  | none => exact Or.inr ⟨fun i hname => hmissing hname (getElem?_ne_of_lookup hlookup i), rfl⟩
  | some value =>
    obtain ⟨i, hfound, hlast⟩ := exists_last_of_lookup hlookup
    obtain ⟨hname, hvalue⟩ := List.getElem?_zip_eq_some.mp hfound
    exact Or.inl ⟨i, hname, hvalue, fun j hj hname' => hmissing hname' (hlast j hj)⟩

/-! ### Rows -/

/-- Some cell of a row is not blank. -/
def HasText (row : List String) : Prop :=
  ∃ cell ∈ row, trimmed cell ≠ ""

instance (row : List String) : Decidable (HasText row) :=
  inferInstanceAs (Decidable (∃ cell ∈ row, trimmed cell ≠ ""))

/-- An entry holds the values of a row in the three columns. -/
structure IsEntry (names row : List String) (e : Entry) : Prop where
  filenameLine : IsCell names row "filename_line" e.filenameLine
  kindDisplayName : IsCell names row "kind_display_name" e.kindDisplayName
  newDisplayName : ∃ value, e.newDisplayName = some value ∧ IsCell names row "new_display_name" value

theorem all_isBlankText_iff {row : List String} : row.all isBlankText = true ↔ ¬HasText row := by
  simp [HasText, isBlankText_iff]

theorem rowEntry_eq_none {names row : List String} (h : ¬HasText row) : rowEntry names row = none := by
  rw [rowEntry, if_pos (all_isBlankText_iff.mpr h)]

theorem rowEntry_of_hasText {names row : List String} (h : HasText row) :
    ∃ e, rowEntry names row = some e ∧ IsEntry names row e := by
  rw [rowEntry, if_neg (all_isBlankText_iff.not.mpr (not_not.mpr h))]
  exact ⟨_, rfl, isCell_cell .., isCell_cell .., _, rfl, isCell_cell ..⟩

theorem forall₂_filterMap_rowEntry (names : List String) (rows : List (List String)) :
    List.Forall₂ (IsEntry names) (rows.filter fun row => HasText row) (rows.filterMap (rowEntry names)) := by
  induction rows with
  | nil => exact .nil
  | cons row rows ih =>
    by_cases hrow : HasText row
    · obtain ⟨e, he, hentry⟩ := @rowEntry_of_hasText names row hrow
      rw [List.filter_cons_of_pos (by simpa using hrow), List.filterMap_cons_some he]
      exact .cons hentry ih
    · rw [List.filter_cons_of_neg (by simpa using hrow), List.filterMap_cons_none (rowEntry_eq_none hrow)]
      exact ih

/-! ### Texts -/

/-- What is made of a text with the given records. -/
structure ParsesAs (text : String) (records : List (List String)) : Prop where
  fault_iff : (∃ fault, parse text = .error fault) ↔ ¬WellHeaded records
  entries : ∀ {first rows}, records = first :: rows → IsHeader first → ∃ entries, parse text = .ok entries ∧
    List.Forall₂ (IsEntry (first.map columnName)) (rows.filter fun row => HasText row) entries

theorem parse_of_header {text : String} {first : List String} {rows : List (List String)}
    (hread : Csv.read text = ⟨first :: rows, none⟩) (h : IsHeader first) :
    parse text = .ok (rows.filterMap (rowEntry (first.map columnName))) := by
  rw [parse, hread]
  simp only [header_of_isHeader h]
  rfl

theorem parse_of_not_wellHeaded {text : String} {records : List (List String)}
    (hread : Csv.read text = ⟨records, none⟩) (h : ¬WellHeaded records) : ∃ fault, parse text = .error fault := by
  rw [parse, hread]
  cases records with
  | nil => exact ⟨_, rfl⟩
  | cons first rows =>
    obtain ⟨fault, hfault⟩ := header_of_not_isHeader fun hfirst => h ⟨first, rows, rfl, hfirst⟩
    refine ⟨fault, ?_⟩
    simp only [hfault]
    rfl

theorem parsesAs_of_read {text : String} {records : List (List String)} (hread : Csv.read text = ⟨records, none⟩) :
    ParsesAs text records where
  fault_iff := by
    refine ⟨fun ⟨fault, hfault⟩ hheaded => ?_, parse_of_not_wellHeaded hread⟩
    obtain ⟨first, rows, rfl, hfirst⟩ := hheaded
    rw [parse_of_header hread hfirst] at hfault
    cases hfault
  entries := by
    rintro first rows rfl hfirst
    exact ⟨_, parse_of_header hread hfirst, forall₂_filterMap_rowEntry _ rows⟩

/-- A text that is not too long and has no carriage returns has records, in one way only. It is refused exactly when
the first of them is no header, and otherwise the rows below that are not blank are its entries. -/
theorem parse_records (text : String) (hlength : text.length ≤ 131072) (hreturn : '\r' ∉ text.toList) :
    ∃ records, (∀ other, Csv.Records text.toList other ↔ other = records) ∧ ParsesAs text records := by
  have hread : ∀ {records}, Csv.Records text.toList records → Csv.read text = ⟨records, none⟩ := by
    intro records h
    refine h.read_eq fun cells hcells cell hcell => ?_
    have hcell := h.length_le cells hcells cell hcell
    rw [String.length_toList] at hcell
    exact hcell.trans hlength
  obtain ⟨records, hrecords⟩ := Csv.exists_records hreturn
  refine ⟨records, fun other => ⟨fun hother => ?_, fun hother => hother ▸ hrecords⟩, parsesAs_of_read (hread hrecords)⟩
  have hscan := (hread hother).symm.trans (hread hrecords)
  exact congrArg Csv.Scan.records hscan

/-- Columns out of order, a quote inside a cell, text behind a closing quote, rows of blanks, a short row, and a quote
that nothing closes. -/
theorem parse_records_stray_quotes :
    let text := " display_name ,\"filename_line\",y\na\"b,\"c\"\"d\"e,,f\n\n , \ng\n,\"h:1,\ni\"\""
    text.length ≤ 131072 ∧ '\r' ∉ text.toList ∧ ∃ records, Csv.Records text.toList records ∧ WellHeaded records ∧
      parse text = .ok [⟨"c\"de", "a\"b", some ""⟩, ⟨"", "g", some ""⟩, ⟨"h:1,\ni\"", "", some ""⟩] := by
  intro text
  have hlength : text.length ≤ 131072 := by decide
  have hreturn : '\r' ∉ text.toList := by decide
  have hparse : parse text = .ok [⟨"c\"de", "a\"b", some ""⟩, ⟨"", "g", some ""⟩, ⟨"h:1,\ni\"", "", some ""⟩] := by decide
  obtain ⟨records, hrecords, hparses⟩ := parse_records text hlength hreturn
  have hheaded : WellHeaded records := by
    by_contra hheaded
    obtain ⟨fault, hfault⟩ := hparses.fault_iff.mpr hheaded
    rw [hparse] at hfault
    cases hfault
  exact ⟨hlength, hreturn, records, (hrecords records).mpr rfl, hheaded, hparse⟩

end Amalgam.Symbols
