import Amalgam.Proofs.Rename.File
import Amalgam.Proofs.Symbols.Table
import Amalgam.Proofs.Text.Utf8
/-!
# Reading a written symbols file

Writing puts three layers on the entries: the quoted cells of a table, a line end for each line feed, and UTF-8. Reading
takes them off again in the opposite order. The layer in the middle is the one that needs care: a line feed inside a
cell becomes a line end like any other, and only because no carriage return stands in a cell does reading make a line
feed of every line end and of nothing else.
-/

namespace Amalgam

open Amalgam.Text FileSystem

/-! ### Line ends -/

namespace Text

theorem universalNewlines_cons {c : Char} (h : c ≠ '\r') (cs : List Char) :
    universalNewlines (c :: cs) = c :: universalNewlines cs := by
  rw [universalNewlines]
  · intro rest hc
    exact absurd hc h
  · exact h

theorem universalNewlines_of_no_return {cs : List Char} (h : '\r' ∉ cs) : universalNewlines cs = cs := by
  induction cs with
  | nil => rfl
  | cons c cs ih =>
    obtain ⟨hc, hcs⟩ := not_or.mp (List.mem_cons.not.mp h)
    rw [universalNewlines_cons (Ne.symm hc), ih hcs]

theorem substitute_cons {α : Type} [DecidableEq α] (sep : α) (replacement : List α) (c : α) (cs : List α) :
    substitute sep replacement (c :: cs) =
      (if c = sep then replacement else [c]) ++ substitute sep replacement cs := by
  rw [substitute, List.flatMap_cons, substitute]

theorem substitute_map {α β : Type} [DecidableEq α] [DecidableEq β] {f : α → β} (hf : Function.Injective f) (sep : α)
    (replacement cs : List α) :
    substitute (f sep) (replacement.map f) (cs.map f) = (substitute sep replacement cs).map f := by
  induction cs with
  | nil => rfl
  | cons c cs ih =>
    rw [List.map_cons, substitute_cons, substitute_cons, List.map_append, ih]
    by_cases hc : c = sep
    · simp [hc]
    · simp [hc, hf.ne hc]

/-- Without carriage returns in a text, either kind of line end is read as the line feed it was written for. -/
theorem universalNewlines_substitute {newline : String} (hnewline : newline = "\n" ∨ newline = "\r\n") {cs : List Char}
    (h : '\r' ∉ cs) : universalNewlines (substitute '\n' newline.toList cs) = cs := by
  induction cs with
  | nil => rfl
  | cons c cs ih =>
    have hc : c ≠ '\r' := fun hc => h (hc ▸ List.mem_cons_self)
    have hcs : '\r' ∉ cs := fun hcs => h (List.mem_cons_of_mem _ hcs)
    rw [substitute_cons]
    by_cases hline : c = '\n'
    · subst hline
      rcases hnewline with rfl | rfl
      · exact congrArg ('\n' :: ·) (ih hcs)
      · exact congrArg ('\n' :: ·) (ih hcs)
    · rw [if_neg hline, List.singleton_append, universalNewlines_cons hc, ih hcs]

end Text

/-! ### Tables -/

namespace Symbols

theorem not_mem_quotedCell {c : Char} (hquote : c ≠ '"') {cell : String} (h : c ∉ cell.toList) :
    c ∉ Csv.quotedCell cell := by
  intro hc
  have hin : c ∈ substitute '"' ['"', '"'] cell.toList := by simpa [Csv.quotedCell, hquote] using hc
  obtain ⟨d, hd, hc⟩ := List.mem_flatMap.mp hin
  split_ifs at hc with hd'
  · simp [hquote] at hc
  · exact h (List.mem_singleton.mp hc ▸ hd)

theorem not_mem_row {c : Char} (hquote : c ≠ '"') (hcomma : c ≠ ',') (hline : c ≠ '\n') {cells : List String}
    (h : ∀ cell ∈ cells, c ∉ cell.toList) : c ∉ Csv.row cells := by
  rw [Csv.row, List.mem_append, List.mem_singleton, not_or]
  refine ⟨?_, hline⟩
  induction cells with
  | nil => simp
  | cons cell more ih =>
    have hcell := not_mem_quotedCell hquote (h cell List.mem_cons_self)
    have hmore := ih fun other hother => h other (List.mem_cons_of_mem _ hother)
    cases more with
    | nil => simpa using hcell
    | cons next rest =>
      rw [List.map_cons, List.map_cons, List.intercalate_cons_cons, List.mem_append, List.mem_append,
        List.mem_singleton]
      simp only [not_or]
      exact ⟨⟨hcell, hcomma⟩, hmore⟩

theorem not_mem_format {entries : List Entry} (h : ∀ e ∈ entries, ∀ c ∈ e.cells, '\r' ∉ c.toList) :
    '\r' ∉ (format entries).toList := by
  rw [format_eq, String.toList_ofList]
  intro hmem
  obtain ⟨cells, hcells, hmem⟩ := List.mem_flatMap.mp hmem
  refine not_mem_row (by decide) (by decide) (by decide) (fun cell hcell => ?_) hmem
  rcases List.mem_cons.mp hcells with rfl | hcells
  · exact (show ∀ name ∈ columns, '\r' ∉ name.toList by decide) cell hcell
  · obtain ⟨e, he, rfl⟩ := List.mem_map.mp hcells
    exact h e he cell hcell

/-- A table starts with a quote, so no byte order mark is taken off it. -/
theorem dropWhile_format (entries : List Entry) :
    (format entries).toList.dropWhile (· = '\ufeff') = (format entries).toList := by
  rw [format_eq, String.toList_ofList, List.flatMap_cons]
  rfl

/-! ### Files -/

theorem runIn_readTable {path : String} {encoding : Value} {text : List Glyph} {entries : List Entry} {w : World}
    (hread : (Action.readText (Path.ofText path).text encoding false).runIn w = (.ok text, w))
    (hparse : parse (String.ofList ((universalNewlines (text.filterMap Glyph.char?)).dropWhile (· = '\ufeff'))) =
      .ok entries) : ∃ w', (readTable path encoding).runIn w = (.ok entries, w') := by
  have hattempt : (Action.readText (Path.ofText path).text encoding false).attempt.runIn w = (.ok (.ok text), w) :=
    congrArg (fun run : Except Failure (List Glyph) × World => (Except.ok run.1, run.2)) hread
  obtain ⟨w', -, hlog⟩ := Action.exists_runIn_log .debug tableLogger
    ("Read " ++ numeral entries.length ++ " symbol entries from " ++ (Path.ofText path).text) w
  refine ⟨w', ?_⟩
  rw [readTable, Action.runIn_bind_ok hattempt, Action.runIn_bind_ok (Action.runIn_pure _ _)]
  dsimp only
  rw [hparse, Action.runIn_bind_ok (Action.runIn_ofExcept _ _ _), Action.runIn_bind_ok hlog]
  rfl

/-- A table without carriage returns and without a mark at its start is read as its text. -/
theorem runIn_readTable_text {path text : String} {entries : List Entry} {w : World}
    (hread : w.files.read (Path.ofText path).text = .ok (utf8Encoded (glyphs text))) (hreturn : '\r' ∉ text.toList)
    (hmark : text.toList.dropWhile (· = '\ufeff') = text.toList) (hparse : parse text = .ok entries) :
    ∃ w', (readTable path (.text "utf-8")).runIn w = (.ok entries, w') := by
  have hcodec : Action.codecOf? (.text "utf-8") = some .utf8 := by decide +kernel
  refine runIn_readTable (Action.runIn_readText hcodec hread (decode_utf8Encoded false text.toList)) ?_
  rw [List.filterMap_map, show Glyph.char? ∘ Glyph.char = some from rfl, List.filterMap_some,
    universalNewlines_of_no_return hreturn, hmark, String.ofList_toList]
  exact hparse

/-- What is written is read back with either line end, unless the file cannot be written at all. -/
theorem readTable_writeTable {entries : List Entry} {newline : String} (hnewline : newline = "\n" ∨ newline = "\r\n")
    (hreturn : ∀ e ∈ entries, ∀ c ∈ e.cells, '\r' ∉ c.toList)
    (hlimit : ∀ e ∈ entries, ∀ c ∈ e.cells, c.length ≤ 131072) (path : String) (w : World) :
    (∃ fault, w.files.writable (Path.ofText path).text = .error fault ∧
      (writeTable path entries (.text "utf-8") newline).runIn w = (.error (.file fault), w)) ∨
    ∃ w₁ w₂, (writeTable path entries (.text "utf-8") newline).runIn w = (.ok (), w₁) ∧
      (readTable path (.text "utf-8")).runIn w₁ = (.ok (readBack entries), w₂) := by
  have hcodec : Action.codecOf? (.text "utf-8") = some .utf8 := by decide +kernel
  have hglyphs : substitute (.char '\n') (glyphs newline) (glyphs (format entries)) =
      (substitute '\n' newline.toList (format entries).toList).map Glyph.char :=
    substitute_map (fun _ _ h => Glyph.char.inj h) _ _ _
  generalize htext : substitute '\n' newline.toList (format entries).toList = text at hglyphs
  have hencode : Codec.utf8.encode (text.map Glyph.char) = .ok (utf8Encoded (text.map Glyph.char)) := rfl
  rw [writeTable, hglyphs, Action.runIn_writeText hcodec hencode]
  cases hw : w.files.writable (Path.ofText path).text with
  | error fault => exact Or.inl ⟨fault, rfl, rfl⟩
  | ok r =>
    have hplain : universalNewlines ((text.map Glyph.char).filterMap Glyph.char?) = (format entries).toList := by
      rw [List.filterMap_map, show Glyph.char? ∘ Glyph.char = some from rfl, List.filterMap_some, ← htext]
      exact universalNewlines_substitute hnewline (not_mem_format hreturn)
    have hparse : parse (String.ofList ((universalNewlines ((text.map Glyph.char).filterMap Glyph.char?)).dropWhile
        (· = '\ufeff'))) = .ok (readBack entries) := by
      rw [hplain, dropWhile_format, String.ofList_toList]
      exact parse_format hlimit
    have hread := Action.runIn_readText (w := { w with files := _ }) hcodec
      (read_putBytes hw (utf8Encoded (text.map Glyph.char))) (decode_utf8Encoded false text)
    obtain ⟨w₂, hrun⟩ := runIn_readTable hread hparse
    exact Or.inr ⟨_, w₂, rfl, hrun⟩

/-- Line feeds in the cells, a row of blanks, and lines that end with two characters. -/
theorem readTable_writeTable_line_feeds :
    let entries : List Entry := [⟨"a\n.c:1", "\"f\n\n", none⟩, ⟨" ", "\n", some ""⟩]
    (∀ e ∈ entries, ∀ c ∈ e.cells, '\r' ∉ c.toList) ∧ (∀ e ∈ entries, ∀ c ∈ e.cells, c.length ≤ 131072) ∧
      ∃ w₁ w₂, (writeTable "t.csv" entries (.text "utf-8") "\r\n").runIn (Bundler.smallWorld []) = (.ok (), w₁) ∧
        (readTable "t.csv" (.text "utf-8")).runIn w₁ = (.ok [⟨"a\n.c:1", "\"f\n\n", some ""⟩], w₂) := by
  intro entries
  have hreturn : ∀ e ∈ entries, ∀ c ∈ e.cells, '\r' ∉ c.toList := by decide
  have hlimit : ∀ e ∈ entries, ∀ c ∈ e.cells, c.length ≤ 131072 := by decide
  have hback : readBack entries = [⟨"a\n.c:1", "\"f\n\n", some ""⟩] := by decide
  refine ⟨hreturn, hlimit, ?_⟩
  rcases readTable_writeTable (Or.inr rfl) hreturn hlimit "t.csv" (Bundler.smallWorld []) with ⟨fault, hfault, _⟩ | hrun
  · have hwritable : (Bundler.smallWorld []).files.writable (Path.ofText "t.csv").text = .ok ["t.csv"] := by
      decide +kernel
    rw [hwritable] at hfault
    cases hfault
  · rwa [hback] at hrun

end Symbols

end Amalgam
