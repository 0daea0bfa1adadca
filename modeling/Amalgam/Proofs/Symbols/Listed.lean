import Amalgam.Proofs.Bundle.DryRun
import Amalgam.Proofs.Number.Digits
import Amalgam.Proofs.Symbols.Extraction
import Amalgam.Proofs.Symbols.Location
import Amalgam.Symbols.Source
import Mathlib.Data.List.Basic
/-!
# Locations that read back

A location is written as a file, a colon and a line, and read by cutting the blanks off and looking for the last colon.
The digits of a line hold no blank and no colon, so the colon that is found is the one that was written, whatever stands
in the name of the file, and the blanks that are cut off can only be those that the name begins with. So what the parser
library tells of a declaration can be read off the entry that is made of it.
-/

namespace Amalgam.Number

open Amalgam.Text

/-! ### Written numbers -/

theorem plain_of_isDigit {c : Char} (h : c.isDigit = true) :
    isDigit c = true ∧ plainDigit c = c ∧ digitIn? 10 c = some (c.toNat - '0'.toNat) := by
  have hdigits : ∀ v < 10, isDigit (Char.ofNat (48 + v)) = true ∧ plainDigit (Char.ofNat (48 + v)) = Char.ofNat (48 + v) ∧
      digitIn? 10 (Char.ofNat (48 + v)) = some ((Char.ofNat (48 + v)).toNat - '0'.toNat) := by decide
  have hbounds : 48 ≤ c.toNat ∧ c.toNat ≤ 57 := Char.isDigit_iff_toNat.mp h
  have hc : c = Char.ofNat (48 + (c.toNat - 48)) := by
    rw [Nat.add_sub_cancel' hbounds.1, Char.ofNat_toNat]
  rw [hc]
  exact hdigits _ (by omega)

theorem readInteger_toDigits {n : Nat} (h : (Nat.toDigits 10 n).length ≤ digitLimit) :
    readInteger 10 (Nat.toDigits 10 n) = .ok n := by
  have hdigit : ∀ c ∈ Nat.toDigits 10 n, isDigit c = true ∧ plainDigit c = c ∧
      digitIn? 10 c = some (c.toNat - '0'.toNat) := fun c hc => plain_of_isDigit (isDigit_toDigits hc)
  have hvalue := digitsValue_toDigits n
  have hne : Nat.toDigits 10 n ≠ [] := List.ne_nil_of_length_pos Nat.length_toDigits_pos
  generalize Nat.toDigits 10 n = digits at *
  have hmargin : digits.dropWhile isMargin = digits := by
    cases digits with
    | nil => rfl
    | cons c rest => simp [isMargin_eq_false_of_isDigit (hdigit c List.mem_cons_self).1]
  have hplain : digits.map plainDigit = digits := by
    rw [List.map_congr_left fun c hc => (hdigit c hc).2.1, List.map_id']
  have hsign := takeSign_digits fun c hc => (hdigit c hc).1
  have hall : ∀ c ∈ digits, (digitIn? 10 c).isSome = true := fun c hc => by rw [(hdigit c hc).2.2]; rfl
  have hfold : digits.foldl (fun n c => n * 10 + (digitIn? 10 c).getD 0) 0 = n := by
    rw [← hvalue, digitsValue]
    exact List.foldl_ext _ _ _ fun m c hc => by rw [(hdigit c hc).2.2]; rfl
  rw [hplain] at hsign
  simp [readInteger, hmargin, hplain, hsign, dropBaseMark_ten, List.takeWhile_eq_self_iff.mpr hall, hne, hfold,
    Nat.not_lt.mpr h]

end Amalgam.Number

namespace Amalgam.Symbols

open Amalgam.Number Amalgam.Text

/-! ### Written locations -/

/-- The name of a file that reads back: it is not empty, and does not begin with a blank. -/
def Legible (file : String) : Prop :=
  ∃ c, file.toList.head? = some c ∧ isBlank c = false

instance (file : String) : Decidable (Legible file) :=
  match h : file.toList.head? with
  | some c => decidable_of_iff (isBlank c = false) (by simp [Legible, h])
  | none => isFalse (by simp [Legible, h])

theorem numbered_location {file : String} (hfile : Legible file) (n : Nat) :
    Numbered (file ++ ":" ++ numeral n) file.toList (Nat.toDigits 10 n) := by
  have hdigits : Nat.toDigits 10 n ≠ [] := List.ne_nil_of_length_pos Nat.length_toDigits_pos
  have hisDigit : ∀ c ∈ Nat.toDigits 10 n, Text.isDigit c = true :=
    fun c hc => (plain_of_isDigit (isDigit_toDigits hc)).1
  have htext : (file ++ ":" ++ numeral n).toList = file.toList ++ ':' :: Nat.toDigits 10 n := by
    simp [numeral]
  obtain ⟨c, hhead, hblank⟩ := hfile
  have hne : file.toList ≠ [] := fun hnil => by simp [hnil] at hhead
  refine ⟨?_, hne, hdigits, hisDigit⟩
  rw [htext]
  have hfirst : ∃ c, (file.toList ++ ':' :: Nat.toDigits 10 n).head? = some c ∧ isBlank c = false := by
    obtain ⟨rest, hrest⟩ := List.head?_eq_some_iff.mp hhead
    exact ⟨c, by rw [hrest]; rfl, hblank⟩
  have hlast : ∃ c, (file.toList ++ ':' :: Nat.toDigits 10 n).getLast? = some c ∧ isBlank c = false := by
    refine ⟨(Nat.toDigits 10 n).getLast hdigits, ?_, isBlank_eq_false_of_isDigit (hisDigit _ (List.getLast_mem hdigits))⟩
    simp [List.getLast?_append, List.getLast?_cons, List.getLast?_eq_some_getLast hdigits]
  simpa [trimStart, trimEnd] using trim_around [] [] hfirst hlast

theorem parse_written {file : String} (hfile : Legible file) {n : Nat}
    (hlimit : (Nat.toDigits 10 n).length ≤ digitLimit) :
    Location.parse (file ++ ":" ++ numeral n) = .ok ⟨file, some n⟩ := by
  rw [(numbered_location hfile n).parse_eq, readInteger_toDigits hlimit]
  simp [Except.map]

/-! ### Declarations -/

/-- A declaration that is listed: it has a file, which is no system header, and a name. -/
def isListed (c : Cursor) : Bool :=
  c.file.isSome && !c.inSystemHeader && c.displayName != ""

/-- A declaration whose place reads back: its file does, if it has one, and its line is a number that is not too long. -/
structure Placed (c : Cursor) : Prop where
  file : ∀ file ∈ c.file, Legible file
  line_nonneg : 0 ≤ c.line
  line_short : (numeral c.line).length ≤ digitLimit

/-- All that an entry tells is that of a declaration, and it renames nothing. -/
structure Tells (c : Cursor) (e : Entry) : Prop where
  location : ∃ (file : String) (line : Nat), c.file = some file ∧ c.line = line ∧ e.location = .ok ⟨file, some line⟩
  kindDisplayName : e.kindDisplayName = c.kind ++ ":" ++ c.displayName
  hasRename : e.hasRename = false

theorem entryOf?_eq_none {c : Cursor} (h : isListed c = false) : entryOf? c = none := by
  unfold entryOf?
  cases hfile : c.file with
  | none => rfl
  | some file =>
    have hleft : (c.inSystemHeader || c.displayName = "") = true := by
      cases hheader : c.inSystemHeader <;> simp_all [isListed]
    simp [hleft]

theorem exists_tells {c : Cursor} (h : isListed c = true) (hplaced : Placed c) : ∃ e, entryOf? c = some e ∧ Tells c e := by
  simp only [isListed, Bool.and_eq_true, Bool.not_eq_true', bne_iff_ne] at h
  obtain ⟨⟨hfile, hheader⟩, hname⟩ := h
  obtain ⟨file, hfile⟩ := Option.isSome_iff_exists.mp hfile
  obtain ⟨line, hline⟩ := Int.eq_ofNat_of_zero_le hplaced.line_nonneg
  have hshort : (Nat.toDigits 10 line).length ≤ digitLimit := by
    simpa [hline, numeral] using hplaced.line_short
  have hentry : entryOf? c =
      some { filenameLine := file ++ ":" ++ numeral c.line, kindDisplayName := c.kind ++ ":" ++ c.displayName } := by
    simp [entryOf?, hfile, hheader, hname]
  have hlocation : Location.parse (file ++ ":" ++ numeral c.line) = .ok ⟨file, some line⟩ := by
    rw [hline]
    exact parse_written (hplaced.file file hfile) hshort
  exact ⟨_, hentry, ⟨file, line, hfile, hline, hlocation⟩, rfl, rfl⟩

/-- Declarations are told in their order, and those that are not listed are left out. -/
theorem forall₂_filterMap_entryOf? {cursors : List Cursor} (h : ∀ c ∈ cursors, Placed c) :
    List.Forall₂ Tells (cursors.filter isListed) (cursors.filterMap entryOf?) := by
  induction cursors with
  | nil => exact .nil
  | cons c rest ih =>
    obtain ⟨hc, hrest⟩ := List.forall_mem_cons.mp h
    cases hlisted : isListed c with
    | false => simpa [hlisted, entryOf?_eq_none hlisted] using ih hrest
    | true =>
      obtain ⟨e, he, htells⟩ := exists_tells hlisted hc
      simpa [hlisted, he] using ⟨htells, ih hrest⟩

/-! ### Listings -/

theorem openIndex_returns {w : World} (h : w.indexOpen = true ∨ w.host.library.loadError = none) (libraryPath : Value) :
    ∃ w' : World, (openIndex libraryPath).runIn w = (.ok (), w') ∧ w'.host = w.host := by
  rw [openIndex, Action.runIn_bind_ok (rfl : (get : Action World).runIn w = (.ok w, w))]
  by_cases hopen : w.indexOpen = true
  · rw [if_pos hopen]
    exact ⟨w, rfl, rfl⟩
  · rw [if_neg hopen, h.resolve_left hopen]
    split_ifs
    · exact ⟨_, rfl, rfl⟩
    · exact ⟨_, rfl, rfl⟩

/-- Takes declarations whose places read back, a parser library that can be opened and reads the source, and a source
that is a file. The library is listed: one entry for each declaration that has a file outside of the system headers and
a name, in their order, which tells the file, the line, the kind and the name of the declaration and renames nothing. -/
theorem libraryList_tells {libraryPath : Value} {source : Path} {args : List String} {w : World}
    (hplaced : ∀ c ∈ w.host.library.cursors, Placed c) (hsource : w.files.FileAt source.text)
    (hloads : w.indexOpen = true ∨ w.host.library.loadError = none) (hparses : w.host.library.parseError = none) :
    ∃ entries w', ((Source.ofLibrary libraryPath).list source args).runIn w = (.ok entries, w') ∧
      List.Forall₂ Tells (w.host.library.cursors.filter isListed) entries := by
  have hrequired : (requireFile source).runIn w = (.ok (), w) := by
    rw [requireFile, Action.runIn_bind_ok (Bundler.isFile_of_fileAt hsource)]
    rfl
  obtain ⟨w₁, hopen, hhost⟩ := openIndex_returns hloads libraryPath
  let w₂ : World := { w₁ with journal := w₁.journal ++ [.requested (.parse source.text args)] }
  have hlist : (libraryList libraryPath source args).runIn w = (.ok (w.host.library.cursors.filterMap entryOf?),
      { w₂ with journal := w₂.journal ++ [.logged ⟨.debug, listingLogger, "libclang listed " ++
        numeral (w.host.library.cursors.filterMap entryOf?).length ++ " declarations in " ++ source.text⟩] }) := by
    have hasked : (Action.record (.requested (.parse source.text args))).runIn w₁ = (.ok (), w₂) := rfl
    rw [libraryList, Action.runIn_bind_ok hrequired, Action.runIn_bind_ok hopen, Action.runIn_bind_ok hasked,
      Action.runIn_bind_ok (rfl : (get : Action World).runIn w₂ = (.ok w₂, w₂))]
    dsimp only [w₂]
    rw [hhost, hparses]
    rfl
  exact ⟨_, _, hlist, forall₂_filterMap_entryOf? hplaced⟩

/-- Colons, digits behind a colon and blanks at the end in the names of files, and declarations that are left out. -/
theorem libraryList_tells_colons :
    let cursors : List Cursor := [⟨some "a:12.h", 3, false, "VAR_DECL", "x"⟩, ⟨none, 1, false, "VAR_DECL", "y"⟩,
      ⟨some "c:\\d:7", 0, false, "FUNCTION_DECL", "f(int)"⟩, ⟨some "s.h", 1, true, "VAR_DECL", "z"⟩,
      ⟨some "e.h: 5 ", 12, false, "VAR_DECL", "u"⟩, ⟨some "e.h", 1, false, "VAR_DECL", ""⟩]
    let small := Bundler.smallWorld [(["a.c"], Bundler.textFile "int x;")]
    let w := { small with host := { small.host with library := ⟨false, none, none, cursors⟩ } }
    (∀ c ∈ w.host.library.cursors, Placed c) ∧ w.files.FileAt (Path.ofText "a.c").text ∧
    w.host.library.loadError = none ∧ w.host.library.parseError = none ∧
    ∃ entries w', ((Source.ofLibrary .null).list (Path.ofText "a.c") []).runIn w = (.ok entries, w') ∧
      List.Forall₂ Tells [⟨some "a:12.h", 3, false, "VAR_DECL", "x"⟩,
        ⟨some "c:\\d:7", 0, false, "FUNCTION_DECL", "f(int)"⟩, ⟨some "e.h: 5 ", 12, false, "VAR_DECL", "u"⟩] entries := by
  intro cursors small w
  have hplaced : ∀ c ∈ w.host.library.cursors, Placed c := by
    have hall : ∀ c ∈ cursors, (∀ file ∈ c.file, Legible file) ∧ 0 ≤ c.line ∧
        (numeral c.line).length ≤ digitLimit := by decide
    exact fun c hc => ⟨(hall c hc).1, (hall c hc).2.1, (hall c hc).2.2⟩
  have hsource : w.files.FileAt (Path.ofText "a.c").text := by decide
  have hkept : w.host.library.cursors.filter isListed = [⟨some "a:12.h", 3, false, "VAR_DECL", "x"⟩,
      ⟨some "c:\\d:7", 0, false, "FUNCTION_DECL", "f(int)"⟩, ⟨some "e.h: 5 ", 12, false, "VAR_DECL", "u"⟩] := by decide
  have hloads : w.host.library.loadError = none := by decide
  have hparses : w.host.library.parseError = none := by decide
  have htold : ∃ entries w', ((Source.ofLibrary .null).list (Path.ofText "a.c") []).runIn w = (.ok entries, w') ∧
      List.Forall₂ Tells (w.host.library.cursors.filter isListed) entries :=
    libraryList_tells hplaced hsource (.inr hloads) hparses
  rw [hkept] at htold
  exact ⟨hplaced, hsource, hloads, hparses, htold⟩

end Amalgam.Symbols
