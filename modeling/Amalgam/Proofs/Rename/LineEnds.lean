import Amalgam.Proofs.Rename.Bytes
import Amalgam.Proofs.Symbols.Extraction
/-!
# The line ends of a renamed file

Line ends are made plain before the entries are applied and are put in afterwards. The entries neither part a carriage
return from a line feed nor bring the two together, as long as no new name has a carriage return of its own: a new name
takes the place of a word, and it starts with no blank. So the line feeds that a file ends up with are preceded by a
carriage return exactly as far as the line ends were made plain, and this is where a pair with a second carriage return
in front slips through: one of its returns is taken away, and what is left is a pair. Only where pairs are asked for
does this not matter, since all line feeds get a return there, and taking it away again gives back what was paired.
-/

namespace Amalgam.Rename

open Amalgam.Text Amalgam.Symbols Amalgam.Config FileSystem

variable {text new : List Glyph} {entries : List Entry} {r : Rewrite} {rs : List Rewrite}

/-- A new name that can stand behind a carriage return and in front of a line feed without making a pair with it. -/
structure Seamless (new : List Glyph) : Prop where
  ne_nil : new ≠ []
  no_return : .char '\r' ∉ new
  no_feed : new.head? ≠ some (.char '\n')

theorem IsWord.seamless (h : IsWord new) : Seamless new :=
  ⟨h.1, h.not_mem rfl, fun hhead => h.not_mem rfl (List.mem_of_mem_head? hhead)⟩

theorem Rewrite.seamless_part (hnew : Seamless (glyphs r.new)) {w : List Glyph} (hw : IsWord w) :
    Seamless (r.part w) := by
  unfold Rewrite.part
  split_ifs
  · exact hnew
  · exact hw.seamless

/-! ### Pairs in a renamed text -/

/-- A text starts with a line feed after a rewriting exactly if it did before. -/
theorem Rewrite.head_run (hnew : Seamless (glyphs r.new)) (text : List Glyph) :
    (r.run text).head? = some (.char '\n') ↔ text.head? = some (.char '\n') := by
  induction text using induction_on_parts with
  | nil => rfl
  | other g rest hg _ => rw [Rewrite.run, rewriteParts_other r.keepsOthers hg, List.head?_cons, List.head?_cons]
  | word w rest hw hopen _ =>
    have hpart := Rewrite.seamless_part hnew hw
    rw [Rewrite.run, rewriteParts_word_append r.part hw hopen, List.head?_append_of_ne_nil _ hpart.ne_nil,
      List.head?_append_of_ne_nil _ hw.1]
    exact iff_of_false hpart.no_feed hw.seamless.no_feed

theorem Rewrite.pair_run (hnew : Seamless (glyphs r.new)) :
    [.char '\r', .char '\n'] <:+: r.run text ↔ [Glyph.char '\r', .char '\n'] <:+: text := by
  induction text using induction_on_parts with
  | nil => rfl
  | other g rest hg ih =>
    have hhead := Rewrite.head_run hnew rest
    rw [Rewrite.run] at hhead ih ⊢
    rw [rewriteParts_other r.keepsOthers hg, pair_infix_cons, pair_infix_cons, ih, hhead]
  | word w rest hw hopen ih =>
    -- Neither the run nor what takes its place has a carriage return, so a pair can only stand behind it.
    rw [Rewrite.run] at ih ⊢
    rw [rewriteParts_word_append r.part hw hopen, pair_infix_append (Rewrite.seamless_part hnew hw).no_return,
      pair_infix_append hw.seamless.no_return, ih]

theorem pair_rewriteAll (hnew : ∀ r ∈ rs, Seamless (glyphs r.new)) (text : List Glyph) :
    [.char '\r', .char '\n'] <:+: rewriteAll rs text ↔ [Glyph.char '\r', .char '\n'] <:+: text := by
  induction rs generalizing text with
  | nil => rfl
  | cons r rest ih =>
    rw [rewriteAll_cons, ih fun r' hr' => hnew r' (List.mem_cons_of_mem r hr'),
      Rewrite.pair_run (hnew r List.mem_cons_self)]

theorem Rewrite.run_rawHigh (h : RawHigh text) : RawHigh (r.run text) := by
  intro b hb
  obtain ⟨p, hp, hmem⟩ := List.mem_flatMap.mp hb
  rw [Rewrite.part] at hmem
  split_ifs at hmem
  · simp [glyphs] at hmem
  · have htext : Glyph.byte b ∈ (parts text).flatten := List.mem_flatten_of_mem hp hmem
    rw [flatten_parts] at htext
    exact h b htext

theorem rewriteAll_rawHigh (h : RawHigh text) : RawHigh (rewriteAll rs text) := by
  induction rs generalizing text with
  | nil => exact h
  | cons r rest ih => exact ih (Rewrite.run_rawHigh h)

/-! ### New names -/

theorem isBlank_of_head_trim {c : Char} {cs : List Char} (h : (trim cs).head? = some c) : isBlank c = false := by
  rcases trimEnd_cases (trimStart cs) with hnil | hhead
  · rw [trim, hnil] at h
    cases h
  · have hstop := List.head?_dropWhile_not isBlank cs
    rw [trim, hhead, trimStart] at h
    rw [h] at hstop
    simpa using hstop

theorem seamless_of_mem_rewrites (hreturn : ∀ e ∈ entries, '\r' ∉ e.newName.toList) :
    ∀ r ∈ rewrites entries, Seamless (glyphs r.new) := by
  intro r hr
  obtain ⟨e, he, hrewrite⟩ := List.mem_filterMap.mp hr
  obtain ⟨hrename, -, hnew⟩ := rewrite?_eq_some.mp hrewrite
  rw [hnew]
  have hne : e.newName.toList ≠ [] := by
    intro hnil
    rw [Entry.hasRename, String.toList_eq_nil_iff.mp hnil] at hrename
    cases hrename
  refine ⟨by simpa [glyphs] using hne, ?_, ?_⟩
  · simpa [glyphs] using hreturn e he
  · intro hhead
    rw [glyphs, List.head?_map, Option.map_eq_some_iff] at hhead
    obtain ⟨c, hc, heq⟩ := hhead
    obtain rfl := Glyph.char.inj heq
    rw [Entry.newName, trimmed, String.toList_ofList] at hc
    exact absurd (isBlank_of_head_trim hc) (by decide)

/-! ### Files -/

variable {settings : RenameSettings} {path ending eol : String} {original : List UInt8} {executable : Bool} {w : World}

/-- In what is renamed a line feed has a carriage return in front exactly if there was one with two returns in front. -/
theorem nonePaired_renamed_iff (hhigh : RawHigh text) (hreturn : ∀ e ∈ entries, '\r' ∉ e.newName.toList) :
    NonePaired (utf8Encoded (rewriteAll (rewrites entries) (normalizeNewlines text))) ↔
      ¬ [13, 13, 10] <:+: utf8Encoded text := by
  have hplain := normalizeNewlines_rawHigh hhigh
  rw [nonePaired_iff, pair_utf8Encoded (rewriteAll_rawHigh hplain), pair_rewriteAll (seamless_of_mem_rewrites hreturn),
    ← pair_utf8Encoded hplain, utf8Encoded_normalizeNewlines hhigh, ← nonePaired_iff, nonePaired_unpaired_iff]

/-- Taking the pairs of written bytes apart and writing them again changes nothing if pairs are asked for, and otherwise
only if there was no pair. -/
theorem written_again_iff (plain : List UInt8) :
    (if ending = "crlf" then paired (unpaired (if ending = "crlf" then paired plain else plain))
      else unpaired (if ending = "crlf" then paired plain else plain)) =
      (if ending = "crlf" then paired plain else plain) ↔ ending = "crlf" ∨ NonePaired plain := by
  split_ifs with hpairs
  · rw [unpaired_paired]
    exact iff_of_true rfl (Or.inl hpairs)
  · rw [unpaired_eq_self_iff, or_iff_right hpairs]

theorem renameFile_untouched (h : entries.any Entry.hasRename = false) (settings : RenameSettings) (path : String)
    (w : World) : (renameFile settings path entries).runIn w = (.ok { filePath := (Path.ofText path).text }, w) := by
  unfold renameFile
  simp [h]

/-- In UTF-8 and with new names without carriage returns, every line feed of a renamed file has a carriage return in
front if pairs are asked for. Otherwise none has, unless a line feed had two of them in front before, and then one has.
A second run whose names no longer occur changes nothing, unless pairs are not asked for, there is something to rename,
and a line feed had two returns in front at first. -/
theorem renameFile_line_ends (hutf8 : Action.codecOf? settings.encoding = some .utf8)
    (hending : settings.lineEnding = .text ending) (heol : lineEnd? ending = some eol)
    (hany : entries.any Entry.hasRename = true) (hreturn : ∀ e ∈ entries, '\r' ∉ e.newName.toList)
    (hfile : w.files.stat (Path.ofText path).text = .ok (.file original executable)) :
    ∃ report written w', (renameFile settings path entries).runIn w = (.ok report, w') ∧
      w'.files.stat (Path.ofText path).text = .ok (.file written executable) ∧
      (ending = "crlf" → AllPaired written) ∧
      (ending ≠ "crlf" → (NonePaired written ↔ ¬ [13, 13, 10] <:+: original)) ∧
      ∀ again, (∀ text, Codec.utf8.decode true written = .ok text → Absent again text) →
        ∃ report' rewritten w'', (renameFile settings path again).runIn w' = (.ok report', w'') ∧
          w''.files.stat (Path.ofText path).text = .ok (.file rewritten executable) ∧
          (rewritten = written ↔
            again.any Entry.hasRename = false ∨ ending = "crlf" ∨ ¬ [13, 13, 10] <:+: original) := by
  have hnewline := newline_of_lineEnd? hending heol
  obtain ⟨text, report, w', -, hencode, hhigh, hrun, hstat⟩ := renameFile_utf8 hutf8 hnewline hany hfile
  have hpairs := nonePaired_renamed_iff hhigh hreturn
  have hrenamed : RawHigh (rewriteAll (rewrites entries) (normalizeNewlines text)) :=
    rewriteAll_rawHigh (normalizeNewlines_rawHigh hhigh)
  rw [hencode] at hpairs
  rw [utf8Encoded_withLineEnd_of_lineEnd? heol hrenamed] at hstat
  refine ⟨report, _, w', hrun, hstat, ?_, ?_, ?_⟩
  · intro hcrlf
    rw [if_pos hcrlf]
    exact allPaired_paired _
  · intro hplain
    rw [if_neg hplain]
    exact hpairs
  · intro again habsent
    cases hagain : again.any Entry.hasRename with
    | false => exact ⟨_, _, w', renameFile_untouched hagain settings path w', hstat, by simp⟩
    | true =>
      obtain ⟨text', report', w'', hdecode', hencode', hhigh', hrun', hstat'⟩ :=
        renameFile_utf8 hutf8 hnewline hagain hstat
      rw [utf8Encoded_of_absent heol hhigh' (habsent text' hdecode'), hencode'] at hstat'
      refine ⟨report', _, w'', hrun', hstat', ?_⟩
      -- The second run takes the pairs apart and pairs the line feeds as the first one did, and nothing else.
      rw [written_again_iff, hpairs]
      simp

/-- Line ends of all kinds, with a carriage return beside the name, and a second run with the same entries. -/
theorem renameFile_line_ends_mixed :
    let original : List UInt8 := [102, 13, 10, 13, 102, 10, 255, 13]
    let settings : RenameSettings := { lineEnding := .text "lf" }
    let table : List Entry := [⟨"a.c:1", "f", some "g\nh"⟩]
    let w := Bundler.smallWorld [(["a.c"], .file original false)]
    Action.codecOf? settings.encoding = some .utf8 ∧ lineEnd? "lf" = some "\n" ∧ table.any Entry.hasRename = true ∧
      (∀ e ∈ table, '\r' ∉ e.newName.toList) ∧ w.files.stat "a.c" = .ok (.file original false) ∧
      NonePaired [103, 10, 104, 10, 13, 103, 10, 104, 10, 255, 13] ∧
      ∃ report report' w' w'', (renameFile settings "a.c" table).runIn w = (.ok report, w') ∧
        w'.files.stat "a.c" = .ok (.file [103, 10, 104, 10, 13, 103, 10, 104, 10, 255, 13] false) ∧
        (renameFile settings "a.c" table).runIn w' = (.ok report', w'') ∧
        w''.files.stat "a.c" = .ok (.file [103, 10, 104, 10, 13, 103, 10, 104, 10, 255, 13] false) := by
  intro original settings table w
  have hutf8 : Action.codecOf? settings.encoding = some .utf8 := by decide +kernel
  have heol : lineEnd? "lf" = some "\n" := by decide
  have hany : table.any Entry.hasRename = true := by decide
  have hreturn : ∀ e ∈ table, '\r' ∉ e.newName.toList := by decide
  have hending : settings.lineEnding = .text "lf" := rfl
  have hfile : w.files.stat (Path.ofText "a.c").text = .ok (.file original false) := by decide +kernel
  have hdouble : ¬ [13, 13, 10] <:+: original := by decide
  have hrenamed : ((renameFile settings "a.c" table).runIn w).2.files.stat "a.c" =
      .ok (.file [103, 10, 104, 10, 13, 103, 10, 104, 10, 255, 13] false) := by decide +kernel
  obtain ⟨report, written, w', hrun, hstat, -, hplain, hagain⟩ :=
    renameFile_line_ends hutf8 hending heol hany hreturn hfile
  have hpath : (Path.ofText "a.c").text = "a.c" := by decide +kernel
  rw [hpath] at hfile hstat hagain
  rw [hrun, hstat] at hrenamed
  obtain ⟨rfl, -⟩ := Node.file.inj (Except.ok.inj hrenamed)
  have habsent : ∀ t ∈ (Codec.utf8.decode true [103, 10, 104, 10, 13, 103, 10, 104, 10, 255, 13]).toOption,
      Absent table t := by decide +kernel
  obtain ⟨report', rewritten, w'', hrun', hstat', hsame⟩ := hagain table fun text hdecode =>
    habsent text (by rw [hdecode]; rfl)
  rw [hsame.mpr (Or.inr (Or.inr hdouble))] at hstat'
  exact ⟨hutf8, heol, hany, hreturn, hfile, (hplain (by decide)).mpr hdouble, report, report', w', w'', hrun, hstat,
    hrun', hstat'⟩

/-- A line feed with two carriage returns in front keeps one of them where plain line feeds are asked for. A second run,
whose name no longer occurs, takes it away. -/
theorem double_return_left :
    let settings : RenameSettings := { lineEnding := .text "lf" }
    let table : List Entry := [⟨"a.c:1", "f", some "g"⟩]
    let w := Bundler.smallWorld [(["a.c"], Bundler.textFile "int f;\r\r\n")]
    let first := (renameFile settings "a.c" table).runIn w
    let second := (renameFile settings "a.c" table).runIn first.2
    first.1.toOption.isSome ∧ second.1.toOption.isSome ∧
      first.2.files.stat "a.c" = .ok (Bundler.textFile "int g;\r\n") ∧
      ¬ NonePaired (utf8Encoded (glyphs "int g;\r\n")) ∧
      Codec.utf8.decode true (utf8Encoded (glyphs "int g;\r\n")) = .ok (glyphs "int g;\r\n") ∧
      Absent table (glyphs "int g;\r\n") ∧
      second.2.files.stat "a.c" = .ok (Bundler.textFile "int g;\n") := by
  decide +kernel

end Amalgam.Rename
