import Amalgam.Proofs.Rename.Locality
import Amalgam.Proofs.Text.LineEnds
/-!
# The bytes of a renamed file

With UTF-8 for its encoding a file is renamed whatever its bytes are: all of them decode, since those that are no text
are kept, and whatever the entries put in encodes. A text in which no entry finds its name is not changed by the
entries, so that only its line ends are new. Making line ends plain before the search hides no name and brings none
to light, for neither of their characters is part of a word.
-/

namespace Amalgam.Rename

open Amalgam.Text Amalgam.Symbols Amalgam.Config FileSystem

variable {text rest v : List Glyph} {name : String} {entries : List Entry}

/-- The name stands in the text with no word character next to it. -/
def Occurs (name : String) (text : List Glyph) : Prop :=
  ∃ front back, text = front ++ glyphs name ++ back ∧ isOpen front.getLast? = true ∧ isOpen back.head? = true

/-- No name that is to be replaced stands in the text. -/
def Absent (entries : List Entry) (text : List Glyph) : Prop :=
  ∀ e ∈ entries, e.hasRename = true → ∀ name, bareName e.kindDisplayName = some name → ¬ Occurs name text

/-! ### Names in a text -/

theorem occurs_of_mem_parts (hname : IsWord (glyphs name)) (h : glyphs name ∈ parts text) : Occurs name text := by
  induction text using induction_on_parts with
  | nil => cases h
  | other g rest hg ih =>
    rw [parts_other hg, List.mem_cons, or_iff_right (hname.ne_single hg).symm] at h
    obtain ⟨front, back, rfl, hfront, hback⟩ := ih h
    refine ⟨g :: front, back, rfl, ?_, hback⟩
    cases front with
    | nil => simp [hg]
    | cons k front => rwa [List.getLast?_cons_cons]
  | word v rest hv hopen ih =>
    rw [parts_word_append hv hopen, List.mem_cons] at h
    rcases h with rfl | h
    · exact ⟨[], rest, rfl, rfl, hopen⟩
    · obtain ⟨front, back, rfl, hfront, hback⟩ := ih h
      refine ⟨v ++ front, back, by simp only [List.append_assoc], ?_, hback⟩
      -- The name cannot follow the run directly, or the run would go on.
      have hne : front ≠ [] := by
        rintro rfl
        obtain ⟨k, more, hk⟩ := List.exists_cons_of_ne_nil hname.1
        rw [hk] at hopen hname
        simp [hname.head_isWord] at hopen
      rwa [List.getLast?_append_of_ne_nil v hne]

/-- A name stands in a text exactly if it is one of the parts. -/
theorem occurs_iff (hname : IsWord (glyphs name)) : Occurs name text ↔ glyphs name ∈ parts text := by
  refine ⟨?_, occurs_of_mem_parts hname⟩
  rintro ⟨front, back, rfl, hfront, hback⟩
  rw [parts_append (Or.inr hback), parts_append (Or.inl hfront), parts_word hname]
  simp

theorem absent_iff : Absent entries text ↔ ∀ r ∈ rewrites entries, glyphs r.name ∉ parts text := by
  constructor
  · intro h r hr
    obtain ⟨e, he, hrewrite⟩ := List.mem_filterMap.mp hr
    obtain ⟨hrename, hname, -⟩ := rewrite?_eq_some.mp hrewrite
    rw [← occurs_iff r.isWord]
    exact h e he hrename r.name hname
  · intro h e he hrename name hname
    have hword : IsWord (glyphs name) := isWord_of_identifier (bareName_sound hname).1
    rw [occurs_iff hword]
    exact h ⟨name, e.newName, hword⟩ (List.mem_filterMap.mpr ⟨e, he, rewrite?_eq_some.mpr ⟨hrename, hname, rfl⟩⟩)

instance (entries : List Entry) (text : List Glyph) : Decidable (Absent entries text) :=
  decidable_of_iff _ absent_iff.symm

/-! ### Words and line ends -/

theorem isOpen_head_normalizeNewlines (h : isOpen text.head? = true) :
    isOpen (normalizeNewlines text).head? = true := by
  cases text with
  | nil => rfl
  | cons g rest =>
    rw [normalizeNewlines_cons]
    split_ifs with hpair
    · obtain ⟨more, rfl⟩ := List.head?_eq_some_iff.mp hpair.2
      rw [normalizeNewlines_cons, if_neg (by simp), List.head?_cons, isOpen_some]
      rfl
    · exact h

theorem mem_parts_normalizeNewlines (hv : IsWord v) : v ∈ parts (normalizeNewlines text) ↔ v ∈ parts text := by
  induction text using induction_on_parts with
  | nil => rfl
  | other g rest hg ih =>
    have hother : v ∈ parts (g :: rest) ↔ v ∈ parts rest := by
      rw [parts_other hg, List.mem_cons, or_iff_right (hv.ne_single hg).symm]
    rw [hother, ← ih, normalizeNewlines_cons]
    split_ifs
    · rfl
    · rw [parts_other hg, List.mem_cons, or_iff_right (hv.ne_single hg).symm]
  | word u rest hu hopen ih =>
    rw [normalizeNewlines_append (hu.not_mem rfl), parts_word_append hu (isOpen_head_normalizeNewlines hopen),
      parts_word_append hu hopen, List.mem_cons, List.mem_cons, ih]

theorem rewriteAll_normalizeNewlines_of_absent (h : Absent entries text) :
    rewriteAll (rewrites entries) (normalizeNewlines text) = normalizeNewlines text := by
  apply rewriteAll_of_absent
  intro r hr
  rw [mem_parts_normalizeNewlines r.isWord]
  exact absent_iff.mp h r hr

/-! ### A file in UTF-8 -/

theorem recordAll_returns (records : List Record) (w : World) :
    (records.forM fun r => Action.record (.logged r) : Action Unit).Returns w := by
  induction records generalizing w with
  | nil => exact .pure () w
  | cons r rest ih => exact Action.Returns.bind ⟨(), _, rfl⟩ fun _ w' _ => ih w'

variable {settings : RenameSettings} {path ending eol : String} {original : List UInt8} {executable : Bool} {w : World}

/-- The line ends that have a name. -/
theorem lineEnd?_cases (h : lineEnd? ending = some eol) :
    ending = "crlf" ∧ eol = "\r\n" ∨ ending ≠ "crlf" ∧ eol = "\n" := by
  obtain ⟨before, after, hnames, -⟩ := List.lookup_eq_some_iff.mp h
  have hmem : (ending, eol) ∈ [("native", "\n"), ("lf", "\n"), ("crlf", "\r\n")] := by simp [hnames]
  simp only [List.mem_cons, List.not_mem_nil, or_false, Prod.mk.injEq] at hmem
  rcases hmem with ⟨rfl, rfl⟩ | ⟨rfl, rfl⟩ | ⟨rfl, rfl⟩
  · exact Or.inr ⟨by decide, rfl⟩
  · exact Or.inr ⟨by decide, rfl⟩
  · exact Or.inl ⟨rfl, rfl⟩

theorem newline_of_lineEnd? (hending : settings.lineEnding = .text ending) (h : lineEnd? ending = some eol) :
    settings.newline = .ok eol := by
  rw [RenameSettings.newline, hending]
  simp only [h]

/-- The renaming of a file in UTF-8 succeeds and leaves the renamed text with the configured line end. -/
theorem renameFile_utf8 (hutf8 : Action.codecOf? settings.encoding = some .utf8) (heol : settings.newline = .ok eol)
    (hany : entries.any Entry.hasRename = true)
    (hfile : w.files.stat (Path.ofText path).text = .ok (.file original executable)) :
    ∃ text report w', Codec.utf8.decode true original = .ok text ∧ utf8Encoded text = original ∧ RawHigh text ∧
      (renameFile settings path entries).runIn w = (.ok report, w') ∧
      w'.files.stat (Path.ofText path).text = .ok (.file
        (utf8Encoded (withLineEnd eol (rewriteAll (rewrites entries) (normalizeNewlines text)))) executable) := by
  obtain ⟨text, hdecode, hencode, hhigh⟩ := exists_decode_utf8 original
  have hread : w.files.read (Path.ofText path).text = .ok original := read_eq_ok_iff.mpr ⟨executable, hfile⟩
  let pass := renameText (normalizeNewlines text) entries { filePath := (Path.ofText path).text }
  have htext : pass.text = rewriteAll (rewrites entries) (normalizeNewlines text) := renameText_text _ _ _
  obtain ⟨_, w₁, hrecord⟩ := recordAll_returns pass.records w
  have hfiles := (recordAll_onlyReads pass.records).files_eq w
  rw [hrecord] at hfiles
  obtain ⟨r, hwritable, hstat⟩ := stat_putBytes hfile
  rw [← hfiles] at hwritable hstat
  have hrun : (renameFile settings path entries).runIn w = (.ok { pass.report with written := true },
      { w₁ with files := w₁.files.putBytes r (utf8Encoded (withLineEnd eol pass.text)) }) := by
    unfold renameFile
    simp only [hany, Bool.not_true, Bool.false_eq_true, if_false]
    rw [Action.runIn_bind_ok (Action.runIn_readText hutf8 hread hdecode), Action.runIn_bind_ok hrecord, heol,
      Action.runIn_bind_ok (Action.runIn_ofExcept _ _ _), Action.runIn_bind, Action.runIn_writeText hutf8 rfl,
      hwritable]
    rfl
  refine ⟨text, _, _, hdecode, hencode, hhigh, hrun, ?_⟩
  rw [← htext]
  exact hstat _

theorem utf8Encoded_withLineEnd_of_lineEnd? (heol : lineEnd? ending = some eol) (h : RawHigh text) :
    utf8Encoded (withLineEnd eol text) = if ending = "crlf" then paired (utf8Encoded text) else utf8Encoded text := by
  rcases lineEnd?_cases heol with ⟨rfl, rfl⟩ | ⟨hne, rfl⟩
  · rw [utf8Encoded_withLineEnd_pair h, if_pos rfl]
  · rw [utf8Encoded_withLineEnd_feed h, if_neg hne]

/-- Without a name to replace only the line ends are new. -/
theorem utf8Encoded_of_absent (heol : lineEnd? ending = some eol) (hhigh : RawHigh text)
    (habsent : Absent entries text) :
    utf8Encoded (withLineEnd eol (rewriteAll (rewrites entries) (normalizeNewlines text))) =
      if ending = "crlf" then paired (unpaired (utf8Encoded text)) else unpaired (utf8Encoded text) := by
  rw [rewriteAll_normalizeNewlines_of_absent habsent,
    utf8Encoded_withLineEnd_of_lineEnd? heol (normalizeNewlines_rawHigh hhigh), utf8Encoded_normalizeNewlines hhigh]

/-- Whatever the bytes of a file are, its renaming in UTF-8 with a known line end succeeds, and it touches no other
file. Where no name that is to be replaced stands in the text, pairs of carriage return and line feed are taken apart,
all line feeds are paired if this is asked for, and everything else stays. -/
theorem renameFile_keeps_bytes (hutf8 : Action.codecOf? settings.encoding = some .utf8)
    (hending : settings.lineEnding = .text ending) (heol : lineEnd? ending = some eol)
    (hany : entries.any Entry.hasRename = true)
    (hfile : w.files.stat (Path.ofText path).text = .ok (.file original executable)) :
    ∃ text report written w', Codec.utf8.decode true original = .ok text ∧
      (renameFile settings path entries).runIn w = (.ok report, w') ∧
      ChangesOnly (· = (Path.ofText path).text) w.files w'.files ∧
      w'.files.stat (Path.ofText path).text = .ok (.file written executable) ∧
      (Absent entries text →
        written = if ending = "crlf" then paired (unpaired original) else unpaired original) := by
  obtain ⟨text, report, w', hdecode, hencode, hhigh, hrun, hstat⟩ :=
    renameFile_utf8 hutf8 (newline_of_lineEnd? hending heol) hany hfile
  have hchanges := renameFile_changesOnly settings path entries w
  rw [hrun] at hchanges
  refine ⟨text, report, _, w', hdecode, hrun, hchanges, hstat, fun habsent => ?_⟩
  rw [utf8Encoded_of_absent heol hhigh habsent, hencode]

/-- Bytes that begin a character and do not end it, an overlong form, a surrogate and a byte that never occurs, between
line ends of all kinds. -/
theorem renameFile_keeps_bytes_undecodable :
    let original : List UInt8 := [195, 13, 10, 192, 128, 10, 237, 160, 128, 13, 13, 10, 226, 130, 13, 255, 102, 50]
    let settings : RenameSettings := { lineEnding := .text "crlf" }
    let table : List Entry := [⟨"a.c:1", "f", some "g"⟩]
    let w := Bundler.smallWorld [(["a.c"], .file original false)]
    Action.codecOf? settings.encoding = some .utf8 ∧ lineEnd? "crlf" = some "\r\n" ∧
      table.any Entry.hasRename = true ∧ w.files.stat "a.c" = .ok (.file original false) ∧
      ∃ report w', (renameFile settings "a.c" table).runIn w = (.ok report, w') ∧
        w'.files.stat "a.c" = .ok (.file
          [195, 13, 10, 192, 128, 13, 10, 237, 160, 128, 13, 13, 10, 226, 130, 13, 255, 102, 50] false) := by
  intro original settings table w
  have hutf8 : Action.codecOf? settings.encoding = some .utf8 := by decide +kernel
  have heol : lineEnd? "crlf" = some "\r\n" := by decide
  have hany : table.any Entry.hasRename = true := by decide
  have hending : settings.lineEnding = .text "crlf" := rfl
  have hfile : w.files.stat (Path.ofText "a.c").text = .ok (.file original false) := by decide +kernel
  obtain ⟨text, report, written, w', hdecode, hrun, -, hstat, hwritten⟩ :=
    renameFile_keeps_bytes hutf8 hending heol hany hfile
  have habsent : ∀ t ∈ (Codec.utf8.decode true original).toOption, Absent table t := by decide +kernel
  rw [hdecode] at habsent
  rw [hwritten (habsent text rfl)] at hstat
  exact ⟨hutf8, heol, hany, hfile, report, w', hrun, hstat⟩

end Amalgam.Rename
