import Amalgam.Proofs.Symbols.Records
/-!
# Reading records

The reader finds the records of a text. Between quotes a comma and a line feed stand for themselves; the line that a
line feed ends is no record then. After a quote that stands between quotes the reader is where it would be at the end of
the cell: only the character that follows tells. Reading is therefore followed character by character, with the lines
cut where the reader cuts them. Rows are written with every cell between quotes, so that their cells, whatever they
hold, are the cells of the text.
-/

namespace Amalgam.Symbols.Csv

open Amalgam.Text

/-! ### The rest of a text -/

/-- The lines of what is left of a text in the middle of a line: when nothing is left, an empty line is. -/
def restLines (rest : List Char) : List (List Char) :=
  if rest = [] then [[]] else lines rest

theorem lines_cons {c : Char} (hc : c ≠ '\n') (rest : List Char) :
    ∃ line more, restLines rest = line :: more ∧ lines (c :: rest) = (c :: line) :: more := by
  rw [restLines]
  split_ifs with hrest
  · exact ⟨[], [], rfl, by rw [hrest, lines, if_neg hc, lines]⟩
  cases hlines : lines rest with
  | nil =>
    have hflat := flatten_lines rest
    rw [hlines] at hflat
    exact absurd hflat.symm hrest
  | cons line more => exact ⟨line, more, rfl, by rw [lines, if_neg hc, hlines]⟩

/-- From a state in the middle of a line the rest of a text is read as the given records, without a fault. -/
def ReadsAs (s : State) (rest : List Char) (records : List (List String)) : Prop :=
  ∀ n, readLines n s (restLines rest) = ⟨records, none⟩

/-- What is left of a text after a record is read as the given records, without a fault. -/
def ReadsAfresh (rest : List Char) (records : List (List String)) : Prop :=
  ∀ n, readLines n .start (lines rest) = ⟨records, none⟩

variable {s s' : State} {rest : List Char} {records : List (List String)}

theorem ReadsAs.afresh (hrest : rest ≠ []) (h : ReadsAs .start rest records) : ReadsAfresh rest records := by
  intro n
  rw [← h n, restLines, if_neg hrest]

theorem ReadsAs.char {c : Char} (hc : c ≠ '\n') (hstep : step s c = .ok s') (h : ReadsAs s' rest records) :
    ReadsAs s (c :: rest) records := by
  intro n
  obtain ⟨line, more, hrest, hlines⟩ := lines_cons hc rest
  have hfold : (c :: line).foldlM step s = line.foldlM step s' := by
    rw [List.foldlM_cons, hstep]
    rfl
  rw [← h n, hrest, restLines, if_neg (by simp), hlines, readLines, readLines, hfold]

theorem readLines_lineFeed (n : Nat) (hstep : step s '\n' = .ok s') : readLines n s (restLines ('\n' :: rest)) =
    if (endLine s').phase = .startRecord then
      ⟨(endLine s').record :: (readLines (n + 1) .start (lines rest)).records,
        (readLines (n + 1) .start (lines rest)).fault⟩
    else readLines (n + 1) (endLine s') (lines rest) := by
  have hfold : ['\n'].foldlM step s = .ok s' := by
    rw [List.foldlM_cons, hstep]
    rfl
  rw [restLines, if_neg (by simp), lines, if_pos rfl, readLines, hfold]

theorem ReadsAs.lineFeed (hstep : step s '\n' = .ok s') (hend : (endLine s').phase = .startRecord)
    (h : ReadsAfresh rest records) : ReadsAs s ('\n' :: rest) ((endLine s').record :: records) := by
  intro n
  rw [readLines_lineFeed n hstep, if_pos hend, h (n + 1)]

theorem ReadsAs.nil (hend : (endLine s).phase = .startRecord) : ReadsAs s [] [(endLine s).record] := by
  intro n
  have hfold : ([] : List Char).foldlM step s = .ok s := rfl
  rw [restLines, if_pos rfl, readLines, hfold]
  simp [hend, readLines, State.start]

/-! ### Inside quotes -/

def State.push (s : State) (phase : Phase) (cs : List Char) : State :=
  ⟨phase, cs.reverse ++ s.field, s.size + cs.length, s.fields⟩

@[simp] theorem State.phase_push (s : State) (phase : Phase) (cs : List Char) : (s.push phase cs).phase = phase := rfl

@[simp] theorem State.size_push (s : State) (phase : Phase) (cs : List Char) :
    (s.push phase cs).size = s.size + cs.length := rfl

theorem State.push_append (s : State) (p q : Phase) (cs ds : List Char) :
    (s.push p cs).push q ds = s.push q (cs ++ ds) := by
  simp [push, Nat.add_assoc]

theorem State.add_eq_push (phase : Phase) (c : Char) (h : s.size < fieldLimit) :
    s.add phase c = .ok (s.push phase [c]) := by
  rw [State.add, if_neg (by omega)]
  rfl

theorem step_inQuotes {c : Char} (hphase : s.phase = .inQuotes) (hroom : s.size < fieldLimit) (hc : c ≠ '"') :
    step s c = .ok (s.push .inQuotes [c]) := by
  rw [step, hphase]
  simpa [hc] using State.add_eq_push .inQuotes c hroom

theorem step_quote (hphase : s.phase = .inQuotes) : step s '"' = .ok (s.push .quoteInQuotes []) := by
  simp [step, hphase, State.push]

theorem step_second_quote (hroom : s.size < fieldLimit) :
    step (s.push .quoteInQuotes []) '"' = .ok (s.push .inQuotes ['"']) := by
  rw [← List.nil_append ['"'], ← State.push_append s .quoteInQuotes .inQuotes [] ['"']]
  exact State.add_eq_push .inQuotes '"' hroom

/-- A line that ends while a quote is open goes on in the next one, if there is a next one. -/
theorem ReadsAs.open_lineFeed (hphase : s.phase = .inQuotes) (hroom : s.size < fieldLimit)
    (h : ReadsAs (s.push .inQuotes ['\n']) rest records) : ReadsAs s ('\n' :: rest) records := by
  intro n
  rw [readLines_lineFeed n (step_inQuotes hphase hroom (by decide)), if_neg (by simp [endLine]), ← h (n + 1)]
  by_cases hrest : rest = []
  · rw [hrest]
    simp [restLines, lines, readLines, endLine, State.push, pure, Except.pure]
  · rw [restLines, if_neg hrest]
    rfl

theorem ReadsAs.open_nil (hphase : s.phase = .inQuotes) : ReadsAs s [] [(s.close .startRecord).record] := by
  intro n
  have hfold : ([] : List Char).foldlM step s = .ok s := rfl
  rw [restLines, if_pos rfl, readLines, hfold]
  simp [endLine, hphase, readLines]

/-- Inside quotes every character of a cell is added to the open field. -/
theorem ReadsAs.doubled (inside : List Char) (hphase : s.phase = .inQuotes)
    (hsize : s.size + inside.length ≤ fieldLimit) (h : ReadsAs (s.push .inQuotes inside) rest records) :
    ReadsAs s (doubled inside ++ rest) records := by
  induction inside generalizing s with
  | nil =>
    have hpush : s.push .inQuotes [] = s := by rw [← hphase]; rfl
    rwa [hpush] at h
  | cons c cs ih =>
    rw [List.length_cons] at hsize
    have hroom : s.size < fieldLimit := by omega
    have hcs : ReadsAs (s.push .inQuotes [c]) (Csv.doubled cs ++ rest) records := by
      refine ih rfl ?_ ?_
      · rw [State.size_push, List.length_singleton]
        omega
      · rwa [State.push_append]
    by_cases hquote : c = '"'
    · -- The first of the two quotes might have ended the cell; the second makes both one character.
      subst hquote
      exact (hcs.char (by decide) (step_second_quote hroom)).char (by decide) (step_quote hphase)
    rw [doubled_cons hquote]
    by_cases hline : c = '\n'
    · subst hline
      exact hcs.open_lineFeed hphase hroom
    · exact hcs.char hline (step_inQuotes hphase hroom hquote)

/-! ### Outside quotes -/

/-- No quote is open, and the line has not ended. -/
def Phase.Unquoted (phase : Phase) : Prop :=
  phase ≠ .inQuotes ∧ phase ≠ .afterLineEnd

theorem step_comma (h : s.phase.Unquoted) : step s ',' = .ok (s.close .startField) := by
  obtain ⟨hquotes, hline⟩ := h
  rw [step]
  split <;> simp_all [stepField, isLineEnd]

theorem step_lineFeed (h : s.phase.Unquoted) (hstart : s.phase ≠ .startRecord) :
    step s '\n' = .ok (s.close .afterLineEnd) := by
  obtain ⟨hquotes, hline⟩ := h
  rw [step]
  split <;> simp_all [stepField, isLineEnd]

theorem endLine_eq_close (h : s.phase.Unquoted) (hstart : s.phase ≠ .startRecord) :
    endLine s = s.close .startRecord := by
  obtain ⟨hquotes, hline⟩ := h
  rw [endLine]
  split <;> simp_all

theorem step_bare {c : Char} (h : s.phase.Unquoted) (hquote : s.phase = .inField ∨ c ≠ '"') (hcomma : c ≠ ',')
    (hline : isLineEnd c = false) (hroom : s.size < fieldLimit) : step s c = .ok (s.push .inField [c]) := by
  obtain ⟨hquotes, hend⟩ := h
  rw [← State.add_eq_push .inField c hroom, step]
  split <;> simp_all [stepField]

theorem Bare.isLineEnd_eq {cs : List Char} (h : Bare cs) {c : Char} (hc : c ∈ cs) : isLineEnd c = false := by
  simp [isLineEnd, h c hc]

/-- The phase after text that is taken as it stands. -/
def Phase.after (phase : Phase) (cs : List Char) : Phase :=
  if cs = [] then phase else .inField

@[simp] theorem Phase.after_nil (phase : Phase) : phase.after [] = phase := rfl

@[simp] theorem Phase.after_cons (phase : Phase) (c : Char) (cs : List Char) : phase.after (c :: cs) = .inField := rfl

@[simp] theorem Phase.inField_after (cs : List Char) : inField.after cs = .inField :=
  ite_self _

theorem Phase.Unquoted.after {phase : Phase} (h : phase.Unquoted) (cs : List Char) : (phase.after cs).Unquoted := by
  cases cs with
  | nil => exact h
  | cons c cs => simp [Unquoted]

/-- Text that ends no cell is added to the open field as it stands, but for a quote in front of it. -/
theorem ReadsAs.bare {cs : List Char} (hs : s.phase.Unquoted) (hquote : s.phase = .inField ∨ cs.head? ≠ some '"')
    (hbare : Bare cs) (hsize : s.size + cs.length ≤ fieldLimit)
    (h : ReadsAs (s.push (s.phase.after cs) cs) rest records) : ReadsAs s (cs ++ rest) records := by
  induction cs generalizing s with
  | nil => exact h
  | cons c cs ih =>
    rw [List.length_cons] at hsize
    obtain ⟨hcomma, hline, -⟩ := hbare c List.mem_cons_self
    have hstep : step s c = .ok (s.push .inField [c]) :=
      step_bare hs (by simpa using hquote) hcomma (hbare.isLineEnd_eq List.mem_cons_self) (by omega)
    refine ReadsAs.char hline hstep (ih (by simp [Phase.Unquoted]) (Or.inl rfl) ?_ ?_ ?_)
    · exact fun d hd => hbare d (List.mem_cons_of_mem c hd)
    · rw [State.size_push, List.length_singleton]
      omega
    · simpa [State.push_append] using h

/-! ### Cells -/

/-- A record of which some cells are read, with nothing of the next one. -/
def State.between (phase : Phase) (cells : List String) : State :=
  ⟨phase, [], 0, cells.reverse⟩

@[simp] theorem State.record_between (phase : Phase) (cells : List String) : (between phase cells).record = cells :=
  List.reverse_reverse cells

theorem State.close_push_between (p q r : Phase) (done : List String) (cs : List Char) :
    ((between p done).push q cs).close r = between r (done ++ [String.ofList cs]) := by
  simp [between, push, close]

/-- The two phases in which a cell starts. -/
def Phase.StartsCell (phase : Phase) : Prop :=
  phase = .startRecord ∨ phase = .startField

variable {raw cell : List Char} {done cells : List String} {phase : Phase}

theorem Phase.StartsCell.unquoted (h : phase.StartsCell) : phase.Unquoted := by
  rcases h with rfl | rfl <;> simp [Unquoted]

theorem step_opening (h : phase.StartsCell) (done : List String) :
    step (.between phase done) '"' = .ok ((State.between phase done).push .inQuotes []) := by
  rcases h with rfl | rfl <;> rfl

/-- Behind an opening quote the text up to a quote that nothing closes, or that closes it, is the cell. -/
theorem ReadsAs.opened {inside : List Char} (h : phase.StartsCell) (hsize : inside.length ≤ fieldLimit)
    (hrest : ReadsAs ((State.between phase done).push .inQuotes inside) rest records) :
    ReadsAs (.between phase done) ('"' :: (Csv.doubled inside ++ rest)) records := by
  refine ReadsAs.char (by decide) (step_opening h done) (ReadsAs.doubled inside rfl ?_ ?_)
  · simpa [State.between] using hsize
  · rwa [State.push_append, List.nil_append]

/-- The phase in which a cell has been read. It is the start of a record only if nothing has been read of it. -/
theorem Cell.reads (h : Cell raw cell) (hphase : phase.StartsCell) (hsize : cell.length ≤ fieldLimit) :
    ∃ q : Phase, q.Unquoted ∧ (q = .startRecord → raw = [] ∧ phase = .startRecord) ∧ ∀ {done rest records},
      ReadsAs ((State.between phase done).push q cell) rest records →
        ReadsAs (.between phase done) (raw ++ rest) records := by
  cases h with
  | bare hbare hstart =>
    refine ⟨phase.after raw, hphase.unquoted.after raw, ?_, fun h => ?_⟩
    · cases raw <;> simp
    · exact ReadsAs.bare hphase.unquoted (Or.inr hstart) hbare (by simpa [State.between] using hsize) h
  | @quoted inside tail hbare hstart =>
    rw [List.length_append] at hsize
    have hquote : Phase.quoteInQuotes.Unquoted := by simp [Phase.Unquoted]
    refine ⟨Phase.quoteInQuotes.after tail, hquote.after tail, ?_, fun {done rest records} h => ?_⟩
    · cases tail <;> simp
    have htail : ReadsAs ((State.between phase done).push .quoteInQuotes inside) (tail ++ rest) records := by
      refine ReadsAs.bare hquote (Or.inr hstart) hbare ?_ ?_
      · simpa [State.between] using hsize
      · rwa [State.push_append]
    have hclosing : ReadsAs ((State.between phase done).push .inQuotes inside) ('"' :: (tail ++ rest)) records := by
      refine ReadsAs.char (by decide) (step_quote rfl) ?_
      rwa [State.push_append, List.append_nil]
    simpa using hclosing.opened hphase (by omega)

/-- Before a comma a cell is closed. -/
theorem Cell.reads_comma (h : Cell raw cell) (hphase : phase.StartsCell) (hsize : cell.length ≤ fieldLimit)
    (hrest : ReadsAs (.between .startField (done ++ [String.ofList cell])) rest records) :
    ReadsAs (.between phase done) (raw ++ ',' :: rest) records := by
  obtain ⟨q, hq, -, hreads⟩ := h.reads hphase hsize
  have hstep := step_comma (s := (State.between phase done).push q cell) hq
  rw [State.close_push_between] at hstep
  exact hreads (hrest.char (by decide) hstep)

/-- A record goes to the end of the text or to a line feed, and other records stand behind it. -/
inductive ReadsEnd : List Char → List (List String) → Prop
  | text : ReadsEnd [] []
  | line {rest : List Char} {records : List (List String)} (h : ReadsAfresh rest records) :
      ReadsEnd ('\n' :: rest) records

theorem ReadsEnd.reads (h : ReadsEnd rest records) (hs : s.phase.Unquoted) (hstart : s.phase ≠ .startRecord) :
    ReadsAs s rest ((s.close .startRecord).record :: records) := by
  cases h with
  | text =>
    have hend := endLine_eq_close hs hstart
    rw [← hend]
    exact ReadsAs.nil (by rw [hend]; rfl)
  | line h => exact ReadsAs.lineFeed (step_lineFeed hs hstart) rfl h

/-- The last cell of a record is closed, unless nothing at all stands in the record. -/
theorem Cell.reads_end (h : Cell raw cell) (hphase : phase.StartsCell) (hne : raw ≠ [] ∨ phase ≠ .startRecord)
    (hsize : cell.length ≤ fieldLimit) (hend : ReadsEnd rest records) :
    ReadsAs (.between phase done) (raw ++ rest) ((done ++ [String.ofList cell]) :: records) := by
  obtain ⟨q, hq, hstart, hreads⟩ := h.reads hphase hsize
  have hq' : q ≠ .startRecord := by
    intro hq'
    obtain ⟨hraw, hphase'⟩ := hstart hq'
    exact hne.elim (· hraw) (· hphase')
  have hclosed := hend.reads (s := (State.between phase done).push q cell) hq hq'
  rw [State.close_push_between, State.record_between] at hclosed
  exact hreads hclosed

/-! ### Records -/

theorem Row.reads (h : Row raw cells) (done : List String) (hphase : phase.StartsCell) (hne : raw ≠ [] ∨ phase ≠ .startRecord)
    (hsize : ∀ cell ∈ cells, cell.length ≤ fieldLimit) (hend : ReadsEnd rest records) :
    ReadsAs (.between phase done) (raw ++ rest) ((done ++ cells) :: records) := by
  induction h generalizing phase done with
  | last h => exact h.reads_end hphase hne (by simpa using hsize) hend
  | @more raw cell more cells h _ ih =>
    obtain ⟨hcell, hcells⟩ := List.forall_mem_cons.mp hsize
    have hmore := ih (done ++ [String.ofList cell]) (Or.inr rfl) (Or.inr (by simp)) hcells
    rw [List.append_assoc, List.singleton_append] at hmore
    rw [List.append_assoc, List.cons_append]
    exact h.reads_comma hphase (by simpa using hcell) hmore

theorem OpenRow.reads (h : OpenRow raw cells) (done : List String) (hphase : phase.StartsCell)
    (hsize : ∀ cell ∈ cells, cell.length ≤ fieldLimit) : ReadsAs (.between phase done) raw [done ++ cells] := by
  induction h generalizing phase done with
  | last inside =>
    have hopen := ReadsAs.open_nil (s := (State.between phase done).push .inQuotes inside) rfl
    rw [State.close_push_between, State.record_between] at hopen
    simpa using hopen.opened hphase (by simpa using hsize)
  | @more raw cell more cells h _ ih =>
    obtain ⟨hcell, hcells⟩ := List.forall_mem_cons.mp hsize
    have hmore := ih (done ++ [String.ofList cell]) (Or.inr rfl) hcells
    rw [List.append_assoc, List.singleton_append] at hmore
    exact h.reads_comma hphase (by simpa using hcell) hmore

theorem Records.reads {cs : List Char} (h : Records cs records)
    (hsize : ∀ cells ∈ records, ∀ cell ∈ cells, cell.length ≤ fieldLimit) : ReadsAfresh cs records := by
  have hstart : Phase.startRecord.StartsCell := Or.inl rfl
  induction h with
  | nil => exact fun n => rfl
  | blank _ ih =>
    have hstep : step .start '\n' = .ok ⟨.afterLineEnd, [], 0, []⟩ := rfl
    exact (ReadsAs.lineFeed hstep rfl (ih (List.forall_mem_cons.mp hsize).2)).afresh (by simp)
  | @line raw rest cells records hne h _ ih =>
    obtain ⟨hcells, hrecords⟩ := List.forall_mem_cons.mp hsize
    have hline : ReadsAs .start (raw ++ '\n' :: rest) (cells :: records) :=
      h.reads [] hstart (Or.inl hne) hcells (.line (ih hrecords))
    exact hline.afresh (by simp)
  | @last raw cells hne h =>
    have hlast : ReadsAs .start (raw ++ []) [cells] := h.reads [] hstart (Or.inl hne) (by simpa using hsize) .text
    rw [List.append_nil] at hlast
    exact hlast.afresh hne
  | @unclosed raw cells h =>
    have hopen : ReadsAs .start raw [cells] := h.reads [] hstart (by simpa using hsize)
    exact hopen.afresh (by cases h <;> simp)

/-- The records of a text are read, and no others, when their cells are not too long. -/
theorem Records.read_eq {text : String} (h : Records text.toList records)
    (hsize : ∀ cells ∈ records, ∀ cell ∈ cells, cell.length ≤ fieldLimit) : read text = ⟨records, none⟩ :=
  h.reads hsize 0

example : read "a\"b,\"c\"d\"\n\"e\n,\"\"f" = ⟨[["a\"b", "cd\""], ["e\n,\"f"]], none⟩ := by decide

/-! ### Written rows -/

theorem Cell.quotedCell (cell : String) : Cell (Csv.quotedCell cell) cell.toList := by
  have hquoted := @Cell.quoted cell.toList [] (by simp [Bare]) (by simp)
  rwa [List.append_nil] at hquoted

theorem Row.row (cell : String) (more : List String) :
    Row (List.intercalate [','] ((cell :: more).map Csv.quotedCell)) (cell :: more) := by
  have hcell := Cell.quotedCell cell
  induction more generalizing cell with
  | nil => simpa using Row.last hcell
  | cons next more ih => simpa using Row.more hcell (ih next (Cell.quotedCell next))

theorem Records.rows (rows : List (List String)) : Records (rows.flatMap Csv.row) rows := by
  induction rows with
  | nil => exact .nil
  | cons cells rows ih =>
    cases cells with
    | nil => exact .blank ih
    | cons cell more =>
      have hline := Records.line (by cases more <;> simp [Csv.quotedCell]) (Row.row cell more) ih
      simpa [Csv.row] using hline

/-- Written rows are read back, whatever their cells hold. -/
theorem read_rows {rows : List (List String)} (hlimit : ∀ cells ∈ rows, ∀ c ∈ cells, c.length ≤ fieldLimit) :
    read (String.ofList (rows.flatMap row)) = ⟨rows, none⟩ := by
  refine Records.read_eq ?_ hlimit
  rw [String.toList_ofList]
  exact Records.rows rows

end Amalgam.Symbols.Csv
