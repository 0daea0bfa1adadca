import Amalgam.Proofs.Console.Escaping
import Mathlib.Data.List.TakeWhile
/-!
# What can be printed

A message is a sign in its colour and escaped text, so it can always be printed. A table is printed if all its texts can
be shown and have styles that can be read, as plain text can; and a table that is printed has had all its texts shown,
for title, header and cells are markup and every one of them is read.
-/

namespace Amalgam.Console

open Amalgam.Text

/-! ### Plain text -/

/-- Markup that can be shown and printed. -/
def Markup.Sound (markup : String) : Prop :=
  ∃ text, Markup.shown markup = .ok text ∧ text.Readable

/-- The styles of markup come from the tags that were closed or left open. -/
theorem Markup.Showing.readable_text {s : Markup.Showing} (hclosed : ∀ span ∈ s.closed, Style.Readable span.style)
    (hopened : s.opened = []) : s.text.Readable := by
  intro name hname
  obtain ⟨span, hspan, rfl⟩ := List.mem_map.mp hname
  simp only [Markup.Showing.text, hopened, List.foldl_nil, List.mem_mergeSort] at hspan
  exact hclosed span hspan

theorem Markup.Plain.sound {markup : String} (h : Markup.Plain markup) : Markup.Sound markup := by
  obtain ⟨s, hrun, hclosed, hopened⟩ := Markup.showFrom_inert h 0 {}
  refine ⟨s.text, by rw [Markup.shown, hrun]; rfl, Markup.Showing.readable_text ?_ hopened⟩
  rw [hclosed]
  exact fun _ hspan => absurd hspan List.not_mem_nil

/-! ### Messages -/

/-- A word in lower case that is no attribute and introduces nothing. -/
def Style.isOwnName (word : String) : Bool :=
  trimmed word = word && word != "none" && (words word.toList).map String.ofList = [word] && lowercased word = word &&
    !(["on", "not", "link"].contains word) && (attribute? word).isNone && (argument? "rgb" word.toList).isNone

/-- Such a word is its own normal form, whether it names a colour or nothing. -/
theorem Style.normalize_of_isOwnName {word : String} (h : Style.isOwnName word = true) :
    Style.Readable word ∧ Style.normalize word = .ok word := by
  simp only [Style.isOwnName, Bool.and_eq_true, decide_eq_true_eq, bne_iff_ne, List.contains_cons, List.contains_nil,
    Bool.not_eq_true', Bool.or_eq_false_iff, beq_eq_false_iff_ne, Option.isNone_iff_eq_none] at h
  obtain ⟨⟨⟨⟨⟨⟨htrim, hnone⟩, hwords⟩, hlower⟩, hon, hnot, hlink, -⟩, hattribute⟩, hargument⟩ := h
  have hcolour : ∃ found, isColour word = .ok found := by
    unfold isColour
    dsimp only
    split
    · exact ⟨true, rfl⟩
    · rw [hargument]
      exact ⟨false, rfl⟩
  obtain ⟨found, hcolour⟩ := hcolour
  have hparse : Style.parse? word = .ok (if found then some { colour := some word } else none) := by
    rw [Style.parse?, if_neg (by rwa [htrim]), hwords, Style.extend?]
    simp only [hlower, if_neg hon, if_neg hnot, if_neg hlink, hattribute, hcolour, Except.ok_bind]
    cases found <;> rfl
  refine ⟨⟨_, hparse⟩, ?_⟩
  rw [Style.normalize, hparse]
  cases found with
  | false => simp [htrim, hlower, pure, Except.pure]
  | true => rfl

def Kind.colour : Kind → String
  | success => "green"
  | warning => "yellow"
  | error => "red"
  | info => "blue"

def Kind.glyph : Kind → Char
  | success => '✓'
  | warning => '⚠'
  | error => '✗'
  | info => 'ℹ'

theorem Kind.glyph_ne_backslash (kind : Kind) : kind.glyph ≠ '\\' := by
  cases kind <;> decide

theorem Kind.isOwnName_colour (kind : Kind) : Style.isOwnName kind.colour = true := by
  cases kind <;> decide +kernel

open Markup in
/-- A sign opens its colour, shows its glyph and closes the colour. -/
theorem Kind.lexed_sign (kind : Kind) {cs : List Char} {ls : List Lexeme} (h : Lexed cs ls) :
    Lexed (kind.sign.toList ++ cs)
      (.tag 0 kind.colour.toList :: .char kind.glyph :: .tag 0 ('/' :: kind.colour.toList) :: .char ' ' :: ls) := by
  have hsign : kind.sign.toList ++ cs = (Lexeme.tag 0 kind.colour.toList).text ++
      (kind.glyph :: ((Lexeme.tag 0 ('/' :: kind.colour.toList)).text ++ (' ' :: cs))) := by
    cases kind <;> rfl
  have hbody : IsBody kind.colour.toList ∧ IsBody ('/' :: kind.colour.toList) := by
    cases kind <;> exact ⟨⟨by simp [Kind.colour], by decide⟩, ⟨by simp [Kind.colour], by decide⟩⟩
  have hglyph : kind.glyph ≠ '[' := by
    cases kind <;> decide
  rw [hsign]
  refine .tag hbody.1 (.char (tagAt?_other kind.glyph_ne_backslash hglyph _) (.tag hbody.2 (.char ?_ h)))
  exact tagAt?_other (by decide) (by decide) _

namespace Markup.Showing

variable {s : Showing} {position : Nat} {body : List Char} {name : String} {t : OpenTag} {opened : List OpenTag}

theorem follow_opening (hslash : body.head? ≠ some '/') (hequals : '=' ∉ body)
    (hname : normalize (String.ofList body) = .ok name) :
    s.follow position body = .ok { s with opened := ⟨s.place, name, none⟩ :: s.opened } := by
  have hbody : body.takeWhile (· != '=') = body :=
    List.takeWhile_eq_self_iff.mpr fun c hc => bne_iff_ne.mpr fun heq => hequals (heq ▸ hc)
  rw [follow, hbody]
  split
  · exact absurd rfl hslash
  · rw [if_neg (Nat.lt_irrefl _), hname]
    rfl

theorem follow_closing (hequals : '=' ∉ body) (hink : body.all isBlank = false)
    (hname : normalize (trimmed (String.ofList body)) = .ok t.name) (hopened : s.opened = t :: opened)
    (hplain : t.isAction = false) : s.follow position ('/' :: body) =
      .ok { s with closed := ⟨t.start, s.place, t.style⟩ :: s.closed, opened := opened } := by
  have hbody : ('/' :: body).takeWhile (· != '=') = '/' :: body :=
    List.takeWhile_eq_self_iff.mpr <| List.forall_mem_cons.mpr
      ⟨rfl, fun c hc => bne_iff_ne.mpr fun heq => hequals (heq ▸ hc)⟩
  have hclose : t.close s.place = .ok ⟨t.start, s.place, t.style⟩ := by
    rw [OpenTag.close, hplain]
    rfl
  rw [follow, hbody]
  simp only [hink, Bool.false_eq_true, if_false, hname, Except.ok_bind, hopened, List.find?_cons, decide_true, close,
    hclose, List.erase_cons_head]
  rfl

end Markup.Showing

namespace Markup

variable {s s' : Showing} {position : Nat} {c : Char} {body : List Char} {ls : List Lexeme}

theorem showFrom_tag (h : s.follow position body = .ok s') :
    showFrom position s (.tag 0 body :: ls) = showFrom (position + body.length + 2) s' ls := by
  rw [showFrom, if_neg (by decide)]
  exact congrArg (· >>= fun s => showFrom (position + 0 + body.length + 2) s ls) h

theorem showFrom_char (h : c ≠ '\\') :
    showFrom position s (.char c :: ls) = showFrom (position + 1) (s.put c) ls := by
  rw [showFrom, hidesBackslash, decide_eq_false h, Bool.false_and, if_neg Bool.false_ne_true]

end Markup

open Markup in
theorem Kind.showFrom_sign (kind : Kind) (ls : List Lexeme) : ∃ position s,
    showFrom 0 {} (.tag 0 kind.colour.toList :: .char kind.glyph :: .tag 0 ('/' :: kind.colour.toList) :: .char ' ' :: ls)
      = showFrom position s ls ∧ (∀ span ∈ s.closed, Style.Readable span.style) ∧ s.opened = [] := by
  obtain ⟨hreadable, hnormal⟩ := Style.normalize_of_isOwnName kind.isOwnName_colour
  have hname : Showing.normalize kind.colour = .ok kind.colour := by rw [Showing.normalize, hnormal]; rfl
  have hletters : kind.colour.toList.head? ≠ some '/' ∧ '=' ∉ kind.colour.toList ∧
      kind.colour.toList.all isBlank = false ∧ trimmed kind.colour = kind.colour ∧
      (⟨0, kind.colour, none⟩ : OpenTag).isAction = false := by
    cases kind <;> decide +kernel
  obtain ⟨hslash, hequals, hink, htrim, hplain⟩ := hletters
  have hopen : ({} : Showing).follow 0 kind.colour.toList = .ok { opened := [⟨0, kind.colour, none⟩] } :=
    Showing.follow_opening hslash hequals (by rw [String.ofList_toList, hname])
  have hclose : ∀ s : Showing, s.opened = [⟨0, kind.colour, none⟩] → ∀ position,
      s.follow position ('/' :: kind.colour.toList) =
        .ok { s with closed := ⟨0, s.place, kind.colour⟩ :: s.closed, opened := [] } :=
    fun s hs position => Showing.follow_closing hequals hink (by rw [String.ofList_toList, htrim, hname]) hs hplain
  rw [showFrom_tag hopen, showFrom_char kind.glyph_ne_backslash, showFrom_tag (hclose _ (Showing.opened_put _ _) _),
    showFrom_char (by decide)]
  exact ⟨_, _, rfl, by simpa using hreadable, by simp⟩

/-- A message can be printed whatever it says. -/
theorem printMessage_returns (styled : Bool) (kind : Kind) (message : String) :
    ∃ text, printMessage styled kind message = .ok text := by
  cases styled with
  | false => exact ⟨_, rfl⟩
  | true =>
    have hlexemes := (kind.lexed_sign (Markup.lexed_lexemesFrom (Markup.escape message).toList)).lexemesFrom_eq
    rw [← String.toList_append] at hlexemes
    obtain ⟨position, s, hsign, hclosed, hopened⟩ := kind.showFrom_sign (Markup.lexemes (Markup.escape message))
    obtain ⟨s', hrest, hclosed', hopened'⟩ := Markup.showFrom_inert (Markup.plain_escape message) position s
    have hshown : Markup.shown (kind.sign ++ Markup.escape message) = .ok s'.text := by
      rw [Markup.shown, Markup.lexemes, hlexemes]
      exact congrArg _ (hsign.trans hrest)
    have hreadable : s'.text.Readable :=
      Markup.Showing.readable_text (hclosed' ▸ hclosed) (hopened'.trans hopened)
    obtain ⟨lines, hlines⟩ := segmented_wrap_returns hreadable terminalWidth .natural .fold
    refine ⟨linesText lines, ?_⟩
    simp only [printMessage, printLine, if_true, markupLines, hshown, Except.ok_bind, styledLines, hlines]
    rfl

/-! ### Tables -/

namespace Table

variable {t : Table}

/-- The texts of a table, all of them markup. -/
def texts (t : Table) : List String :=
  t.title :: (t.header :: t.rows).flatten

theorem mem_columns {column : List String} {s : String} (hcolumn : column ∈ t.columns) (hs : s ∈ column) :
    s ∈ t.texts ∨ s = "" := by
  obtain ⟨i, _, rfl⟩ := List.mem_map.mp hcolumn
  obtain ⟨row, hrow, rfl⟩ := List.mem_map.mp hs
  rw [List.getD_eq_getElem?_getD]
  cases hcell : row[i]? with
  | none => exact Or.inr rfl
  | some s => exact Or.inl (List.mem_cons_of_mem _ (List.mem_flatten.mpr ⟨row, hrow, List.mem_of_getElem? hcell⟩))

theorem length_le_columnCount {row : List String} (h : row ∈ t.header :: t.rows) : row.length ≤ t.columnCount := by
  have hmax : ((t.header :: t.rows).map List.length).max? = some t.columnCount := List.max?_cons'
  exact (List.max?_eq_some_iff.mp hmax).2 row.length (List.mem_map_of_mem h)

theorem exists_column {s : String} (h : s ∈ (t.header :: t.rows).flatten) : ∃ column ∈ t.columns, s ∈ column := by
  obtain ⟨row, hrow, hs⟩ := List.mem_flatten.mp h
  obtain ⟨i, hi, rfl⟩ := List.mem_iff_getElem.mp hs
  refine ⟨_, List.mem_map_of_mem (List.mem_range.mpr (Nat.lt_of_lt_of_le hi (length_le_columnCount hrow))), ?_⟩
  exact List.mem_map.mpr ⟨row, hrow, by simp [hi]⟩

theorem cellLines_returns {cell : StyledText} (h : cell.Readable) (width : Nat) :
    ∃ lines, cellLines width cell = .ok lines := by
  unfold cellLines
  split
  · exact ⟨[], rfl⟩
  · obtain ⟨lines, hlines⟩ := segmented_wrap_returns h (width - 2) .left .ellipsis
    rw [hlines]
    exact ⟨_, rfl⟩

theorem rowLines_returns {row : List StyledText} (h : ∀ cell ∈ row, cell.Readable) (side : Char) (widths : List Nat)
    (isHeader : Bool) : ∃ lines, rowLines side widths isHeader row = .ok lines := by
  have hcells : ∃ cells, (widths.zip row).mapM (fun p => do return (p.1, ← cellLines p.1 p.2)) = .ok cells := by
    refine Except.mapM_returns_iff.mpr fun p hp => ?_
    obtain ⟨lines, hlines⟩ := cellLines_returns (h p.2 (List.of_mem_zip hp).2) p.1
    rw [hlines]
    exact ⟨_, rfl⟩
  obtain ⟨cells, hcells⟩ := hcells
  rw [rowLines]
  exact ⟨_, congrArg (· >>= _) hcells⟩

theorem readable_of_mem_transposed {columns : List (List StyledText)} {row : List StyledText} {cell : StyledText}
    {height : Nat} (h : ∀ column ∈ columns, ∀ cell ∈ column, cell.Readable) (hrow : row ∈ transposed height columns)
    (hcell : cell ∈ row) : cell.Readable := by
  obtain ⟨i, _, rfl⟩ := List.mem_map.mp hrow
  obtain ⟨column, hcolumn, rfl⟩ := List.mem_map.mp hcell
  rw [List.getD_eq_getElem?_getD]
  cases hfound : column[i]? with
  | none => exact fun name hname => absurd hname List.not_mem_nil
  | some cell => exact h column hcolumn cell (List.mem_of_getElem? hfound)

theorem columns_shown (h : ∀ s ∈ t.texts, Markup.Sound s) : ∃ columns,
    t.columns.mapM (fun c => c.mapM Markup.shown) = .ok columns ∧
      ∀ column ∈ columns, ∀ cell ∈ column, cell.Readable := by
  have hempty : Markup.Sound "" := (Markup.plain_of_not_mem (by decide)).sound
  have hsound : ∀ column ∈ t.columns, ∀ s ∈ column, Markup.Sound s := fun column hcolumn s hs =>
    (mem_columns hcolumn hs).elim (h s) fun hs => hs ▸ hempty
  have hcolumns : ∃ columns, t.columns.mapM (fun c => c.mapM Markup.shown) = .ok columns := by
    refine Except.mapM_returns_iff.mpr fun column hcolumn => Except.mapM_returns_iff.mpr fun s hs => ?_
    obtain ⟨text, htext, _⟩ := hsound column hcolumn s hs
    exact ⟨text, htext⟩
  obtain ⟨columns, hcolumns⟩ := hcolumns
  refine ⟨columns, hcolumns, fun shown hshown cell hcell => ?_⟩
  obtain ⟨column, hcolumn, hrun⟩ := Except.exists_of_mem_mapM hcolumns hshown
  obtain ⟨s, hs, htext⟩ := Except.exists_of_mem_mapM hrun hcell
  obtain ⟨text, hsome, hreadable⟩ := hsound column hcolumn s hs
  obtain rfl := Except.ok.inj (htext.symm.trans hsome)
  exact hreadable

end Table

/-- A table is printed if all its texts can be. -/
theorem printTable_returns {t : Table} (h : ∀ s ∈ t.texts, Markup.Sound s) (styled : Bool) :
    ∃ text, printTable styled t = .ok text := by
  suffices hlines : ∀ frame, ∃ lines, t.lines terminalWidth frame = .ok lines by
    obtain ⟨lines, hlines⟩ := hlines (if styled then .heavyHead else .ascii)
    exact ⟨linesText lines, by rw [printTable, hlines]; rfl⟩
  intro frame
  obtain ⟨columns, hcolumns, hreadable⟩ := Table.columns_shown h
  obtain ⟨title, htitle, hreadable'⟩ := h t.title List.mem_cons_self
  rw [Table.lines, hcolumns, Except.ok_bind]
  split
  · exact ⟨_, rfl⟩
  · extract_lets edges widths laidOut
    have hlaidOut : ∀ caption, ∃ lines, laidOut caption = .ok lines := by
      intro caption
      have hrows : ∀ row ∈ Table.transposed (t.rows.length + 1) columns, ∀ cell ∈ row, cell.Readable :=
        fun row hrow cell hcell => Table.readable_of_mem_transposed hreadable hrow hcell
      dsimp only [laidOut]
      split
      · exact ⟨caption, rfl⟩
      · next header rows htransposed =>
        rw [htransposed, List.forall_mem_cons] at hrows
        obtain ⟨headerLines, hheader⟩ := Table.rowLines_returns hrows.1 frame.header widths true
        obtain ⟨bodyLines, hbody⟩ := Except.mapM_returns_iff.mpr fun row hrow =>
          Table.rowLines_returns (hrows.2 row hrow) frame.body widths false
        rw [hheader, Except.ok_bind, hbody]
        exact ⟨_, rfl⟩
    rw [htitle, Except.ok_bind]
    split
    · exact hlaidOut []
    · obtain ⟨caption, hcaption⟩ := segmented_wrap_returns hreadable' (Number.total widths + edges) .centre .fold
      rw [hcaption, Except.ok_bind]
      exact hlaidOut caption

/-- A table with columns is printed only if all its texts can be shown. -/
theorem shown_of_printTable {t : Table} {styled : Bool} {text : String} (hheader : t.header ≠ [])
    (h : printTable styled t = .ok text) : ∀ s ∈ t.texts, ∃ shown, Markup.shown s = .ok shown := by
  have hlines : ∃ lines, t.lines terminalWidth (if styled then .heavyHead else .ascii) = .ok lines := by
    cases hrun : t.lines terminalWidth (if styled then .heavyHead else .ascii) with
    | ok lines => exact ⟨lines, rfl⟩
    | error fault =>
      rw [printTable, hrun] at h
      cases h
  obtain ⟨lines, hlines⟩ := hlines
  obtain ⟨columns, hcolumns, hrest⟩ := Except.bind_eq_ok.mp hlines
  have hcells : ∀ s ∈ (t.header :: t.rows).flatten, ∃ shown, Markup.shown s = .ok shown := by
    intro s hs
    obtain ⟨column, hcolumn, hmem⟩ := Table.exists_column hs
    exact Except.mapM_returns_iff.mp (Except.mapM_returns_iff.mp ⟨columns, hcolumns⟩ column hcolumn) s hmem
  have hnonempty : columns.isEmpty = false := by
    obtain ⟨column, hcolumn, _⟩ := Table.exists_column (t := t)
      (List.mem_flatten.mpr ⟨t.header, List.mem_cons_self, List.head_mem hheader⟩)
    cases htcolumns : t.columns with
    | nil => exact absurd (htcolumns ▸ hcolumn) List.not_mem_nil
    | cons first more =>
      rw [htcolumns] at hcolumns
      obtain ⟨_, _, _, _, rfl⟩ := Except.mapM_cons_eq_ok.mp hcolumns
      rfl
  rw [hnonempty, if_neg Bool.false_ne_true] at hrest
  obtain ⟨title, htitle, _⟩ := Except.bind_eq_ok.mp hrest
  exact List.forall_mem_cons.mpr ⟨⟨title, htitle⟩, hcells⟩

end Amalgam.Console
