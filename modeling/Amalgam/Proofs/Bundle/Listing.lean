import Amalgam.Proofs.Bundle.Session
import Amalgam.Proofs.Symbols.Location
/-!
# What a listing that fails leaves behind

Up to the answer of its symbol source a listing only reads. Then it opens the table for writing, and two things can
still go wrong: a symbol may not be expressible in the encoding, which is found out when the table is empty already, and
the location of a symbol may have no number, which is found out when the table is written. Neither is a cause that a
listing reports, so a listing that reports a failure has changed nothing, and one that raises has changed the table
unless this held before what it holds now.
-/

namespace Amalgam

open Amalgam.Text Amalgam.Symbols FileSystem

namespace Bundler

variable {b : Bundler} {source table : Option String} {args : List String} {path csv : Path} {symbols : List Entry}
  {w asked : World} {c : Codec}

/-! ### The parts of a listing -/

def tablePath (b : Bundler) (path : Path) (table : Option String) : Except Failure Path :=
  match table.filter (· != "") with
  | some t => .ok (Path.ofText t)
  | none => defaultPath path b.settings.bundle.symbolsSuffix

/-- Writes the symbols that the source has told. -/
def tabulate (b : Bundler) (path csv : Path) (symbols : List Entry) : Action ListingResult := do
  let newline ← Action.ofExcept .misuse b.settings.rename.newline
  writeTable csv.text symbols b.settings.rename.encoding newline
  Action.log .info logger ("Symbols written to " ++ csv.text)
  let groups ← Action.ofExcept .number (groupByFile symbols)
  return {
    success := true
    symbolsPath := some csv.text
    symbols := symbols
    metadata := [(.text "source", .text path.text), (.text "files", .list (groups.map fun g => .text g.1))] }

theorem listInto_eq (b : Bundler) (source table : Option String) (args : List String) :
    b.listInto source table args = (do
      let path ← requireSource source
      b.requireTools .listSymbols
      let csv ← Action.ofExcept id (b.tablePath path table)
      Action.log .info logger ("Reading symbols from " ++ path.text ++ " ...")
      let symbols ← b.source.list path args
      b.tabulate path csv symbols) := by
  unfold listInto tablePath
  cases table.filter (· != "") <;> rfl

/-- The symbol source leaves the files alone, when it is asked whether it is there and when it lists. -/
structure SourceQuiet (b : Bundler) : Prop where
  available : ∀ available, b.source.isAvailable = some available → ∀ w, (available.runIn w).2.files = w.files
  list : ∀ path args w, ((b.source.list path args).runIn w).2.files = w.files

theorem openIndex_keeps {inv : FileSystem → Prop} (libraryPath : Value) : (openIndex libraryPath).Keeps inv := by
  refine Action.Keeps.get.bind fun w => ?_
  split
  · exact (Action.OnlyReads.pure _).keeps
  · extract_lets rest
    have hrest : ∀ u, (rest u).Keeps inv := by
      intro u
      refine (Action.OnlyReads.record _).keeps.bind fun _ => ?_
      split
      · exact (Action.OnlyReads.throw _).keeps
      · exact fun _ hw => hw
    split
    · exact (Action.OnlyReads.record _).keeps.bind hrest
    · exact hrest ()

theorem libraryAvailable_keeps {inv : FileSystem → Prop} (libraryPath : Value) :
    (libraryAvailable libraryPath).Keeps inv := by
  refine (openIndex_keeps libraryPath).attempt.bind fun ended => ?_
  split
  · exact (Action.OnlyReads.pure _).keeps
  · split
    · exact (Action.OnlyReads.log _ _ _).keeps.bind fun _ => (Action.OnlyReads.pure _).keeps
    · exact (Action.OnlyReads.throw _).keeps

theorem libraryList_keeps {inv : FileSystem → Prop} (libraryPath : Value) (path : Path) (args : List String) :
    (libraryList libraryPath path args).Keeps inv := by
  refine (requireFile_onlyReads path).keeps.bind fun _ => (openIndex_keeps libraryPath).bind fun _ => ?_
  refine (Action.OnlyReads.record _).keeps.bind fun _ => Action.Keeps.get.bind fun w => ?_
  dsimp only
  split
  · exact (Action.OnlyReads.throw _).keeps
  · exact (Action.OnlyReads.log _ _ _).keeps.bind fun _ => (Action.OnlyReads.pure _).keeps

/-- A source that asks the parser library is quiet. What an executable does to the files is up to the host. -/
theorem sourceQuiet_of_settings (s : Config.Settings) (h : s.tools.symbolSource ≠ .known .executable) :
    SourceQuiet ⟨s, sourceOf s.tools, mergerOf s⟩ := by
  have hsource : sourceOf s.tools = .ofLibrary s.tools.libclangPath := by
    unfold sourceOf
    split
    · exact absurd ‹_› h
    · rfl
  rw [hsource]
  refine ⟨?_, fun path args => Action.Keeps.files_eq fun _ => libraryList_keeps _ path args⟩
  rintro _ ⟨⟩
  exact Action.Keeps.files_eq fun _ => libraryAvailable_keeps _

/-- A listing asks its source, in the world `asked`, for the symbols of `path`, to write them to `csv`. -/
structure Asks (b : Bundler) (source table : Option String) (w : World) (path csv : Path) (asked : World) : Prop where
  given : ∃ w₁ w₂, (requireSource source).runIn w = (.ok path, w₁) ∧
    (b.requireTools .listSymbols).runIn w₁ = (.ok (), w₂) ∧
    (Action.log .info logger ("Reading symbols from " ++ path.text ++ " ...")).runIn w₂ = (.ok (), asked)
  goes : b.tablePath path table = .ok csv

theorem requireTools_listSymbols_files (hquiet : b.SourceQuiet) (w : World) :
    ((b.requireTools .listSymbols).runIn w).2.files = w.files := by
  rw [requireTools, missingTools]
  cases havailable : b.source.isAvailable with
  | none => rfl
  | some available =>
    have hfiles := hquiet.available available havailable w
    simp only [Action.runIn_bind]
    rcases hrun : available.runIn w with ⟨failure | found, w'⟩
    · rwa [hrun] at hfiles
    · rw [hrun] at hfiles
      cases found <;> exact hfiles

theorem Asks.listInto_runIn (h : b.Asks source table w path csv asked) (args : List String) :
    (b.listInto source table args).runIn w =
      (b.source.list path args >>= fun symbols => b.tabulate path csv symbols).runIn asked := by
  obtain ⟨⟨w₁, w₂, hsource, htools, hlog⟩, hgoes⟩ := h
  rw [listInto_eq, Action.runIn_bind_ok hsource, Action.runIn_bind_ok htools, hgoes,
    Action.runIn_bind_ok (show (Action.ofExcept id (.ok csv)).runIn w₂ = (.ok csv, w₂) from rfl),
    Action.runIn_bind_ok hlog]

theorem Asks.files_eq (h : b.Asks source table w path csv asked) (hquiet : b.SourceQuiet) : asked.files = w.files := by
  obtain ⟨⟨w₁, w₂, hsource, htools, hlog⟩, _⟩ := h
  have hw₁ := (requireSource_onlyReads source).files_eq w
  have hw₂ := requireTools_listSymbols_files hquiet w₁
  have hasked := (Action.OnlyReads.log .info logger ("Reading symbols from " ++ path.text ++ " ...")).files_eq w₂
  rw [hsource] at hw₁
  rw [htools] at hw₂
  rw [hlog] at hasked
  exact hasked.trans (hw₂.trans hw₁)

theorem Asks.told_files (h : b.Asks source table w path csv asked) (hquiet : b.SourceQuiet) {told : World}
    {ended : Except Failure (List Entry)} (hlist : (b.source.list path args).runIn asked = (ended, told)) :
    told.files = w.files := by
  have htold := hquiet.list path args asked
  rw [hlist] at htold
  exact htold.trans (h.files_eq hquiet)

/-- A listing asks its source unless it fails before. -/
theorem asks_or_fails (hquiet : b.SourceQuiet) (source table : Option String) (args : List String) (w : World) :
    (∃ path csv asked, b.Asks source table w path csv asked) ∨
    ∃ failure w', w'.files = w.files ∧ (b.listInto source table args).runIn w = (.error failure, w') := by
  have hsource := (requireSource_onlyReads source).files_eq w
  rcases hpath : (requireSource source).runIn w with ⟨failure | path, w₁⟩
  all_goals rw [hpath] at hsource
  · exact Or.inr ⟨failure, w₁, hsource, by rw [listInto_eq, Action.runIn_bind, hpath]⟩
  · have htools := requireTools_listSymbols_files hquiet w₁
    rcases htool : (b.requireTools .listSymbols).runIn w₁ with ⟨failure | ⟨⟩, w₂⟩
    all_goals rw [htool] at htools
    · refine Or.inr ⟨failure, w₂, htools.trans hsource, ?_⟩
      rw [listInto_eq, Action.runIn_bind_ok hpath, Action.runIn_bind, htool]
    · cases hcsv : b.tablePath path table with
      | error failure =>
        refine Or.inr ⟨failure, w₂, htools.trans hsource, ?_⟩
        rw [listInto_eq, Action.runIn_bind_ok hpath, Action.runIn_bind_ok htool, hcsv]
        rfl
      | ok csv => exact Or.inl ⟨path, csv, _, ⟨w₁, w₂, hpath, htool, rfl⟩, hcsv⟩

/-- A failure that a listing reports becomes its result. -/
theorem listSymbols_runIn (b : Bundler) (source table : Option String) (args : List String) (w : World) :
    (b.listSymbols source table args).runIn w =
      match (b.listInto source table args).runIn w with
      | (.ok result, w') => (.ok result, w')
      | (.error failure, w') =>
        if failure.isReported then
          (.ok { success := false, errors := [failure.message] }, { w' with
            journal := w'.journal ++ [.logged ⟨.error, logger, "list-symbols failed: " ++ failure.message⟩] })
        else (.error failure, w') := by
  have hattempt : (Action.attempt (b.listInto source table args)).runIn w =
      (.ok ((b.listInto source table args).runIn w).1, ((b.listInto source table args).runIn w).2) := rfl
  rw [listSymbols, Action.runIn_bind_ok hattempt]
  rcases (b.listInto source table args).runIn w with ⟨failure | result, w'⟩
  · dsimp only
    split_ifs <;> rfl
  · rfl

/-! ### Writing the table -/

def tableGlyphs (newline : String) (symbols : List Entry) : List Glyph :=
  substitute (.char '\n') (glyphs newline) (glyphs (format symbols))

/-- What stands in a table file once it was opened for symbols: all of them, or nothing if some cannot be encoded. -/
def leftInTable (c : Codec) (newline : String) (symbols : List Entry) : List UInt8 :=
  match c.encode (tableGlyphs newline symbols) with
  | .ok bytes => bytes
  | .error _ => []

/-- The table can be opened for writing. -/
def Opens (b : Bundler) (csv : Path) (fs : FileSystem) (newline : String) (r : Route) : Prop :=
  b.settings.rename.newline = .ok newline ∧ fs.writable (Path.ofText csv.text).text = .ok r

/-- Some symbols cannot be encoded, or have a location that cannot be read. -/
def Refused (c : Codec) (newline : String) (symbols : List Entry) : Prop :=
  (∃ fault, c.encode (tableGlyphs newline symbols) = .error fault) ∨ ∃ e ∈ symbols, ¬ Locatable e.filenameLine

/-- However writing a table ends, what is left in it depends on the symbols alone. -/
theorem runIn_writeTable {encoding : Value} (hc : Action.codecOf? encoding = some c) (csv : Path) (newline : String)
    (symbols : List Entry) (w : World) : (writeTable csv.text symbols encoding newline).runIn w =
      match w.files.writable (Path.ofText csv.text).text with
      | .error fault => (.error (.file fault), w)
      | .ok r => (((c.encode (tableGlyphs newline symbols)).map fun _ => ()).mapError .unencodable,
          { w with files := w.files.putBytes r (leftInTable c newline symbols) }) := by
  change (Action.writeText _ encoding (tableGlyphs newline symbols)).runIn w = _
  rw [leftInTable]
  cases hencode : c.encode (tableGlyphs newline symbols) with
  | ok bytes =>
    rw [Action.runIn_writeText hc hencode]
    cases w.files.writable (Path.ofText csv.text).text <;> rfl
  | error fault =>
    rw [Action.runIn_writeText_unencodable hc hencode]
    cases w.files.writable (Path.ofText csv.text).text <;> rfl

/-- Writing symbols fails before the table is opened, or leaves the table and succeeds unless they are refused. -/
theorem tabulate_cases (hc : Action.codecOf? b.settings.rename.encoding = some c) (path csv : Path)
    (symbols : List Entry) (w : World) :
    ((∀ newline r, ¬ b.Opens csv w.files newline r) ∧ ∃ failure,
      (b.tabulate path csv symbols).runIn w = (.error failure, w)) ∨
    ∃ newline r ended w', b.Opens csv w.files newline r ∧ w'.files = w.files.putBytes r (leftInTable c newline symbols) ∧
      (b.tabulate path csv symbols).runIn w = (ended, w') ∧
      ((∃ failure, ended = .error failure ∧ failure.isReported = false ∧ Refused c newline symbols) ∨
        ¬ Refused c newline symbols ∧ ∃ result, ended = .ok result ∧ result.success = true) := by
  rw [tabulate]
  cases hnewline : b.settings.rename.newline with
  | error misuse =>
    refine Or.inl ⟨fun newline r hopens => ?_, .misuse misuse, rfl⟩
    cases hnewline.symm.trans hopens.1
  | ok newline =>
    have hwrite := runIn_writeTable hc csv newline symbols w
    rw [Action.runIn_bind_ok (show (Action.ofExcept .misuse (.ok newline)).runIn w = (.ok newline, w) from rfl)]
    cases hwritable : w.files.writable (Path.ofText csv.text).text with
    | error fault =>
      rw [hwritable] at hwrite
      refine Or.inl ⟨fun newline' r hopens => ?_, .file fault, by rw [Action.runIn_bind, hwrite]⟩
      cases hwritable.symm.trans hopens.2
    | ok r =>
      rw [hwritable] at hwrite
      have hgroups := groupByFile_returns_iff symbols
      refine Or.inr ⟨newline, r, ?_⟩
      cases hencode : c.encode (tableGlyphs newline symbols) with
      | error fault =>
        rw [hencode] at hwrite
        refine ⟨.error (.unencodable fault), _, ⟨hnewline, hwritable⟩, rfl, by rw [Action.runIn_bind, hwrite]; rfl, ?_⟩
        exact Or.inl ⟨_, rfl, rfl, Or.inl ⟨fault, hencode⟩⟩
      | ok bytes =>
        rw [hencode] at hwrite
        rw [Action.runIn_bind_ok hwrite, Action.runIn_bind_ok (Action.runIn_log _ _ _ _)]
        cases hgroup : groupByFile symbols with
        | error fault =>
          rw [hgroup] at hgroups
          refine ⟨.error (.number fault), _, ⟨hnewline, hwritable⟩, rfl, rfl, Or.inl ⟨_, rfl, rfl, Or.inr ?_⟩⟩
          simpa using hgroups
        | ok groups =>
          rw [hgroup] at hgroups
          refine ⟨_, _, ⟨hnewline, hwritable⟩, rfl, rfl, Or.inr ⟨?_, _, rfl, rfl⟩⟩
          rintro (⟨fault, hfault⟩ | ⟨e, he, hnot⟩)
          · cases hencode.symm.trans hfault
          · exact hnot (hgroups.mp ⟨groups, rfl⟩ e he)

/-! ### Whole listings -/

/-- The source tells symbols that are refused, and the table, which can be opened for writing, holds something else than
what is left in it then. -/
def Spoils (b : Bundler) (c : Codec) (source table : Option String) (args : List String) (w : World) : Prop :=
  ∃ path csv asked symbols told newline r, b.Asks source table w path csv asked ∧
    (b.source.list path args).runIn asked = (.ok symbols, told) ∧ b.Opens csv w.files newline r ∧
    Refused c newline symbols ∧ w.files.read (Path.ofText csv.text).text ≠ .ok (leftInTable c newline symbols)

/-- A listing that ends without success leaves the files as they were, or its table is spoiled. -/
theorem listInto_same (hquiet : b.SourceQuiet) (hc : Action.codecOf? b.settings.rename.encoding = some c)
    (hspared : ¬ b.Spoils c source table args w) :
    Same w.files ((b.listInto source table args).runIn w).2.files ∨
      ∃ result, ((b.listInto source table args).runIn w).1 = .ok result ∧ result.success = true := by
  rcases asks_or_fails hquiet source table args w with ⟨path, csv, asked, hasks⟩ | ⟨failure, w', hfiles, hrun⟩
  · rw [hasks.listInto_runIn args, Action.runIn_bind]
    rcases hlist : (b.source.list path args).runIn asked with ⟨failure | symbols, told⟩
    all_goals have hsame := hasks.told_files hquiet hlist
    · exact Or.inl (hsame ▸ .refl _)
    · dsimp only
      rcases tabulate_cases hc path csv symbols told with
        ⟨_, failure, hrun⟩ | ⟨newline, r, ended, w', hopens, hleft, hrun, hended⟩
      · rw [hrun]
        exact Or.inl (hsame ▸ .refl _)
      · rw [hrun]
        rw [hsame] at hopens hleft
        rcases hended with ⟨failure, _, _, hrefused⟩ | ⟨_, result, rfl, hsuccess⟩
        · have hread : w.files.read (Path.ofText csv.text).text = .ok (leftInTable c newline symbols) := by
            by_contra hother
            exact hspared ⟨path, csv, asked, symbols, told, newline, r, hasks, hlist, hopens, hrefused, hother⟩
          exact Or.inl (hleft ▸ same_putBytes hopens.2 hread)
        · exact Or.inr ⟨result, rfl, hsuccess⟩
  · rw [hrun]
    exact Or.inl (hfiles ▸ .refl _)

/-- A listing that spoils its table raises, and reports nothing. -/
theorem Spoils.listInto_runIn (h : b.Spoils c source table args w) (hquiet : b.SourceQuiet)
    (hc : Action.codecOf? b.settings.rename.encoding = some c) :
    ∃ failure w' file, (b.listInto source table args).runIn w = (.error failure, w') ∧ failure.isReported = false ∧
      w'.files.read file ≠ w.files.read file := by
  obtain ⟨path, csv, asked, symbols, told, newline, r, hasks, hlist, hopens, hrefused, hother⟩ := h
  have hsame := hasks.told_files hquiet hlist
  rw [hasks.listInto_runIn args, Action.runIn_bind_ok hlist]
  rcases tabulate_cases hc path csv symbols told with
    ⟨hclosed, _⟩ | ⟨newline', r', ended, w', hopens', hleft, hrun, hended⟩
  · exact absurd (hsame ▸ hopens) (hclosed newline r)
  · rw [hsame] at hopens' hleft
    obtain rfl : newline = newline' := Except.ok.inj (hopens.1.symm.trans hopens'.1)
    rcases hended with ⟨failure, rfl, hunreported, _⟩ | ⟨hnot, _⟩
    · refine ⟨failure, w', (Path.ofText csv.text).text, hrun, hunreported, ?_⟩
      rw [hleft, read_putBytes hopens'.2]
      exact hother.symm
    · exact absurd hrefused hnot

/-- A listing that reports a failure has changed nothing. One that fails otherwise has changed nothing either, unless
its source told symbols that are refused and the table was not already as it is left then. -/
theorem listSymbols_spoils (hquiet : b.SourceQuiet) (hc : Action.codecOf? b.settings.rename.encoding = some c) :
    (∀ result, ((b.listSymbols source table args).runIn w).1 = .ok result → result.success = false →
      Same w.files ((b.listSymbols source table args).runIn w).2.files) ∧
    ((∀ result, ((b.listSymbols source table args).runIn w).1 = .ok result → result.success = false) →
      ¬ b.Spoils c source table args w → Same w.files ((b.listSymbols source table args).runIn w).2.files) ∧
    (b.Spoils c source table args w →
      (∃ failure, ((b.listSymbols source table args).runIn w).1 = .error failure) ∧
      ∃ file, ((b.listSymbols source table args).runIn w).2.files.read file ≠ w.files.read file) := by
  have hspoils : b.Spoils c source table args w →
      (∃ failure, ((b.listSymbols source table args).runIn w).1 = .error failure) ∧
      ∃ file, ((b.listSymbols source table args).runIn w).2.files.read file ≠ w.files.read file := by
    intro h
    obtain ⟨failure, w', file, hrun, hunreported, hread⟩ := h.listInto_runIn hquiet hc
    rw [listSymbols_runIn, hrun]
    simp only [hunreported, Bool.false_eq_true, if_false]
    exact ⟨⟨failure, rfl⟩, file, hread⟩
  have hspared : (∀ result, ((b.listSymbols source table args).runIn w).1 = .ok result → result.success = false) →
      ¬ b.Spoils c source table args w → Same w.files ((b.listSymbols source table args).runIn w).2.files := by
    intro hfails hnot
    have hcases := listInto_same hquiet hc hnot
    rw [listSymbols_runIn] at hfails ⊢
    rcases hrun : (b.listInto source table args).runIn w with ⟨failure | result, w'⟩
    all_goals
      rw [hrun] at hcases hfails
      rcases hcases with hsame | ⟨result', hended, hsuccess⟩
    · dsimp only
      split_ifs
      · exact hsame
      · exact hsame
    · cases hended
    · exact hsame
    · obtain rfl := Except.ok.inj hended
      rw [hfails result rfl] at hsuccess
      cases hsuccess
  refine ⟨fun result hended hfailed => ?_, hspared, hspoils⟩
  refine hspared (fun other hother => ?_) fun h => ?_
  · obtain rfl := Except.ok.inj (hended.symm.trans hother)
    exact hfailed
  · obtain ⟨⟨failure, hraised⟩, _⟩ := hspoils h
    cases hraised.symm.trans hended

/-- A source that fails leaves the table that someone has edited. -/
theorem listSymbols_spoils_reported :
    let b : Bundler := { smallBundler .always fun _ _ _ => pure () with
      source := ⟨.null, none, fun path _ => throw (.unitUnreadable path.text "no parser")⟩ }
    let w := smallWorld [(["a.c"], textFile "int x;"), (["a_symbols.csv"], tableFile "a.c:1,VAR_DECL:x,y\n")]
    let ran := (b.listSymbols (some "a.c") none []).runIn w
    b.SourceQuiet ∧ Action.codecOf? b.settings.rename.encoding = some .utf8 ∧
    (∃ result, ran.1 = .ok result ∧ result.success = false) ∧ Same w.files ran.2.files := by
  intro b w ran
  have hquiet : b.SourceQuiet := ⟨by simp [b], fun _ _ _ => rfl⟩
  have hc : Action.codecOf? b.settings.rename.encoding = some .utf8 := by decide +kernel
  have hended : ran.1 = .ok { success := false, errors := ["Unable to parse translation unit a.c: no parser"] } := by
    rfl
  exact ⟨hquiet, hc, ⟨_, hended, rfl⟩, (listSymbols_spoils hquiet hc).1 _ hended rfl⟩

/-- A symbol that cannot be encoded empties the table that someone has edited. -/
theorem listSymbols_spoils_edited :
    let b : Bundler := { smallBundler .always fun _ _ _ => pure () with
      settings := { rename := { encoding := .text "ascii" } }
      source := ⟨.null, none, fun _ _ => pure [⟨"a.c:1", "VAR_DECL:é", some ""⟩]⟩ }
    let w := smallWorld [(["a.c"], textFile "int x;"), (["a_symbols.csv"], tableFile "a.c:1,VAR_DECL:x,y\n")]
    let ran := (b.listSymbols (some "a.c") none []).runIn w
    b.SourceQuiet ∧ (Action.codecOf? b.settings.rename.encoding).isSome ∧ ran.1.isOk = false ∧
    ran.2.files.read "a_symbols.csv" = .ok [] ∧ w.files.read "a_symbols.csv" ≠ .ok [] := by
  refine ⟨⟨by simp, fun _ _ _ => rfl⟩, ?_⟩
  decide +kernel

end Bundler

end Amalgam
