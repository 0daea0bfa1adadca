import Amalgam.Symbols.Csv
import Mathlib.Data.List.TakeWhile
import Mathlib.Tactic.Common
/-!
# The records of a text

What records a text has is said by a grammar of cells, rows and lines that does not mention the reader. A cell is taken
as it stands unless it starts with a quote. Then it goes to the quote that closes it, each doubled quote inside counts
once, and what follows the closing quote is taken as it stands, stray quotes included. A quote that nothing closes takes
the rest of the text, so every text without carriage returns has records by this grammar.
-/

namespace Amalgam.Symbols.Csv

open Amalgam.Text

/-! ### The grammar -/

def doubled (cs : List Char) : List Char :=
  substitute '"' ['"', '"'] cs

def Bare (cs : List Char) : Prop :=
  ∀ c ∈ cs, c ≠ ',' ∧ c ≠ '\n' ∧ c ≠ '\r'

/-- How a cell is written, and what it is read as. -/
inductive Cell : List Char → List Char → Prop
  | bare {cs : List Char} (hbare : Bare cs) (hstart : cs.head? ≠ some '"') : Cell cs cs
  | quoted {inside tail : List Char} (hbare : Bare tail) (hstart : tail.head? ≠ some '"') :
      Cell ('"' :: (doubled inside ++ '"' :: tail)) (inside ++ tail)

/-- Cells with commas between them. -/
inductive Row : List Char → List String → Prop
  | last {raw cell : List Char} (h : Cell raw cell) : Row raw [String.ofList cell]
  | more {raw cell rest : List Char} {cells : List String} (h : Cell raw cell) (hrest : Row rest cells) :
      Row (raw ++ ',' :: rest) (String.ofList cell :: cells)

/-- Cells with commas between them, of which the last has a quote that nothing closes. -/
inductive OpenRow : List Char → List String → Prop
  | last (inside : List Char) : OpenRow ('"' :: doubled inside) [String.ofList inside]
  | more {raw cell rest : List Char} {cells : List String} (h : Cell raw cell) (hrest : OpenRow rest cells) :
      OpenRow (raw ++ ',' :: rest) (String.ofList cell :: cells)

/-- The records of a text. An empty line is a record without cells. -/
inductive Records : List Char → List (List String) → Prop
  | nil : Records [] []
  | blank {rest : List Char} {records : List (List String)} (hrest : Records rest records) :
      Records ('\n' :: rest) ([] :: records)
  | line {raw rest : List Char} {cells : List String} {records : List (List String)} (hne : raw ≠ []) (h : Row raw cells)
      (hrest : Records rest records) : Records (raw ++ '\n' :: rest) (cells :: records)
  | last {raw : List Char} {cells : List String} (hne : raw ≠ []) (h : Row raw cells) : Records raw [cells]
  | unclosed {raw : List Char} {cells : List String} (h : OpenRow raw cells) : Records raw [cells]

@[simp] theorem doubled_nil : doubled [] = [] := rfl

@[simp] theorem doubled_cons_quote (cs : List Char) : doubled ('"' :: cs) = '"' :: '"' :: doubled cs := rfl

theorem doubled_cons {c : Char} (h : c ≠ '"') (cs : List Char) : doubled (c :: cs) = c :: doubled cs := by
  simp [doubled, substitute, h]

/-! ### Every text has records -/

/-- Behind an opening quote either no quote stands alone, or the first one that does closes it. -/
theorem exists_closing : ∀ cs : List Char, (∃ inside, cs = doubled inside) ∨
    ∃ inside tail, cs = doubled inside ++ '"' :: tail ∧ tail.head? ≠ some '"'
  | [] => Or.inl ⟨[], rfl⟩
  | ['"'] => Or.inr ⟨[], [], rfl, by simp⟩
  | c :: d :: cs => by
    by_cases hc : c = '"'
    · subst hc
      by_cases hd : d = '"'
      · subst hd
        obtain ⟨inside, rfl⟩ | ⟨inside, tail, rfl, hstart⟩ := exists_closing cs
        · exact Or.inl ⟨'"' :: inside, rfl⟩
        · exact Or.inr ⟨'"' :: inside, tail, by simp, hstart⟩
      · exact Or.inr ⟨[], d :: cs, rfl, by simpa using hd⟩
    · obtain ⟨inside, hcs⟩ | ⟨inside, tail, hcs, hstart⟩ := exists_closing (d :: cs)
      · exact Or.inl ⟨c :: inside, by rw [doubled_cons hc, hcs]⟩
      · exact Or.inr ⟨c :: inside, tail, by rw [doubled_cons hc, hcs, List.cons_append], hstart⟩
  | [c] => by
    by_cases hc : c = '"'
    · exact Or.inr ⟨[], [], by rw [hc]; rfl, by simp⟩
    · exact Or.inl ⟨[c], (doubled_cons hc []).symm⟩

/-- What can stand after a row: nothing, or a line feed and the lines after it. -/
def RowEnd (rest : List Char) : Prop :=
  rest = [] ∨ ∃ more, rest = '\n' :: more

theorem length_behind_lt (raw : List Char) (c : Char) (more : List Char) :
    more.length < (raw ++ c :: more).length := by
  simp only [List.length_append, List.length_cons]
  omega

theorem head?_ne_of_append {raw rest : List Char} {c : Char} (h : (raw ++ rest).head? ≠ some c) :
    raw.head? ≠ some c := by
  cases raw with
  | nil => simp
  | cons d raw => exact h

variable {cs : List Char}

theorem exists_bare (hreturn : '\r' ∉ cs) :
    ∃ raw rest, cs = raw ++ rest ∧ Bare raw ∧ (RowEnd rest ∨ ∃ more, rest = ',' :: more) := by
  induction cs with
  | nil => exact ⟨[], [], rfl, by simp [Bare], Or.inl (Or.inl rfl)⟩
  | cons c cs ih =>
    obtain ⟨hc, hreturn⟩ := not_or.mp (List.mem_cons.not.mp hreturn)
    by_cases hcomma : c = ','
    · exact ⟨[], c :: cs, rfl, by simp [Bare], Or.inr ⟨cs, by rw [hcomma]⟩⟩
    by_cases hline : c = '\n'
    · exact ⟨[], c :: cs, rfl, by simp [Bare], Or.inl (Or.inr ⟨cs, by rw [hline]⟩)⟩
    obtain ⟨raw, rest, rfl, hbare, hend⟩ := ih hreturn
    refine ⟨c :: raw, rest, rfl, fun d hd => ?_, hend⟩
    rcases List.mem_cons.mp hd with rfl | hd
    · exact ⟨hcomma, hline, Ne.symm hc⟩
    · exact hbare d hd

/-- The first cell of a text goes to the end of a row or to a comma, unless its quote is never closed. -/
theorem exists_cell (hreturn : '\r' ∉ cs) : (∃ inside, cs = '"' :: doubled inside) ∨
    ∃ raw cell rest, cs = raw ++ rest ∧ Cell raw cell ∧ (RowEnd rest ∨ ∃ more, rest = ',' :: more) := by
  by_cases hquote : cs.head? = some '"'
  · obtain ⟨cs, rfl⟩ := List.head?_eq_some_iff.mp hquote
    obtain ⟨inside, rfl⟩ | ⟨inside, tail, rfl, hstart⟩ := exists_closing cs
    · exact Or.inl ⟨inside, rfl⟩
    have hreturn' : '\r' ∉ tail := fun htail => hreturn (by simp [htail])
    obtain ⟨raw, rest, rfl, hbare, hend⟩ := exists_bare hreturn'
    have hcell := @Cell.quoted inside raw hbare (head?_ne_of_append hstart)
    exact Or.inr ⟨_, _, rest, by simp, hcell, hend⟩
  · obtain ⟨raw, rest, rfl, hbare, hend⟩ := exists_bare hreturn
    exact Or.inr ⟨raw, raw, rest, rfl, .bare hbare (head?_ne_of_append hquote), hend⟩

theorem exists_row (hreturn : '\r' ∉ cs) : (∃ cells, OpenRow cs cells) ∨
    ∃ raw cells rest, cs = raw ++ rest ∧ Row raw cells ∧ RowEnd rest := by
  induction hn : cs.length using Nat.strong_induction_on generalizing cs with
  | _ n ih =>
    obtain ⟨inside, rfl⟩ | ⟨raw, cell, rest, rfl, hcell, hend | ⟨more, rfl⟩⟩ := exists_cell hreturn
    · exact Or.inl ⟨_, .last inside⟩
    · exact Or.inr ⟨raw, _, rest, rfl, .last hcell, hend⟩
    -- Behind a comma the text is shorter.
    have hreturn' : '\r' ∉ more := fun hmore => hreturn (by simp [hmore])
    have hshorter : more.length < n := hn ▸ length_behind_lt raw _ more
    obtain ⟨cells, hopen⟩ | ⟨raw', cells, rest, rfl, hrow, hend⟩ := ih _ hshorter hreturn' rfl
    · exact Or.inl ⟨_, .more hcell hopen⟩
    · exact Or.inr ⟨raw ++ ',' :: raw', _, rest, by simp, .more hcell hrow, hend⟩

theorem exists_records (hreturn : '\r' ∉ cs) : ∃ records, Records cs records := by
  induction hn : cs.length using Nat.strong_induction_on generalizing cs with
  | _ n ih =>
    obtain ⟨cells, hopen⟩ | ⟨raw, cells, rest, rfl, hrow, hend⟩ := exists_row hreturn
    · exact ⟨_, .unclosed hopen⟩
    rcases hend with rfl | ⟨more, rfl⟩
    · by_cases hraw : raw = []
      · exact ⟨[], by rw [hraw]; exact .nil⟩
      · exact ⟨_, by rw [List.append_nil]; exact .last hraw hrow⟩
    have hreturn' : '\r' ∉ more := fun hmore => hreturn (by simp [hmore])
    have hshorter : more.length < n := hn ▸ length_behind_lt raw _ more
    obtain ⟨records, hrecords⟩ := ih _ hshorter hreturn' rfl
    by_cases hraw : raw = []
    · exact ⟨_, by rw [hraw]; exact .blank hrecords⟩
    · exact ⟨_, .line hraw hrow hrecords⟩

/-! ### No cell is longer than the text -/

theorem length_le_length_doubled (cs : List Char) : cs.length ≤ (doubled cs).length := by
  induction cs with
  | nil => exact le_rfl
  | cons c cs ih =>
    by_cases hc : c = '"'
    · subst hc
      simp only [doubled_cons_quote, List.length_cons]
      omega
    · simpa [doubled_cons hc] using ih

variable {raw cell : List Char} {cells : List String} {records : List (List String)}

theorem Cell.length_le (h : Cell raw cell) : cell.length ≤ raw.length := by
  cases h with
  | bare => exact le_rfl
  | @quoted inside tail =>
    have hinside := length_le_length_doubled inside
    simp only [List.length_append, List.length_cons]
    omega

theorem Row.length_le (h : Row raw cells) : ∀ cell ∈ cells, cell.length ≤ raw.length := by
  induction h with
  | last h => simpa using h.length_le
  | more h _ ih =>
    have hfirst := h.length_le
    simp only [List.forall_mem_cons, String.length_ofList, List.length_append, List.length_cons]
    exact ⟨by omega, fun cell hcell => by have := ih cell hcell; omega⟩

theorem OpenRow.length_le (h : OpenRow raw cells) : ∀ cell ∈ cells, cell.length ≤ raw.length := by
  induction h with
  | last inside =>
    have hinside := length_le_length_doubled inside
    simpa using Nat.le_succ_of_le hinside
  | more h _ ih =>
    have hfirst := h.length_le
    simp only [List.forall_mem_cons, String.length_ofList, List.length_append, List.length_cons]
    exact ⟨by omega, fun cell hcell => by have := ih cell hcell; omega⟩

theorem Records.length_le (h : Records cs records) : ∀ cells ∈ records, ∀ cell ∈ cells, cell.length ≤ cs.length := by
  induction h with
  | nil => simp
  | blank _ ih =>
    simp only [List.forall_mem_cons, List.length_cons]
    exact ⟨by simp, fun cells hcells cell hcell => Nat.le_succ_of_le (ih cells hcells cell hcell)⟩
  | line _ h _ ih =>
    simp only [List.forall_mem_cons, List.length_append, List.length_cons]
    refine ⟨fun cell hcell => ?_, fun cells hcells cell hcell => ?_⟩
    · have := h.length_le cell hcell
      omega
    · have := ih cells hcells cell hcell
      omega
  | last _ h => simpa using h.length_le
  | unclosed h => simpa using h.length_le

end Amalgam.Symbols.Csv
