import Amalgam.Proofs.FileSystem.Change
import Amalgam.Proofs.World.Running
/-!
# What renaming does to a file

Renaming in a file touches no other file, however it ends. When it succeeds the file holds the encoded form of the
renamed text and is as executable as it was. `Renamed` relates the bytes before and after by the steps between them:
decode, make line ends plain, apply the entries, put in the configured line end, encode.
-/

namespace Amalgam

open Amalgam.Text Amalgam.Symbols Amalgam.Config FileSystem

/-! ### Text files -/

namespace Action

/-- The encoding that a setting stands for, if it stands for any. -/
def codecOf? : Value → Option Codec
  | .null => some .utf8
  | .text s => if s.toList.contains '\x00' then none else Codec.ofName? s
  | _ => none

theorem codecOf?_of_ok {setting : Value} {name : Option String} {c : Codec} {w w₁ w₂ w₃ : World}
    (hname : (encodingName setting).runIn w = (.ok name, w₁)) (hcodec : (codec name).runIn w₂ = (.ok c, w₃)) :
    codecOf? setting = some c ∧ w₁ = w ∧ w₃ = w₂ := by
  unfold encodingName at hname
  split at hname
  · cases hname
    cases hcodec
    exact ⟨rfl, rfl, rfl⟩
  · rename_i s
    split_ifs at hname with hnul
    · cases hname
    · cases hname
      unfold codec at hcodec
      dsimp only at hcodec
      split at hcodec
      · rename_i hc
        cases hcodec
        exact ⟨by simpa [codecOf?, hc] using hnul, rfl, rfl⟩
      · cases hcodec
  · cases hname

theorem readText_ok {path : String} {encoding : Value} {keepRaw : Bool} {text : List Glyph} {w w' : World}
    (h : (readText path encoding keepRaw).runIn w = (.ok text, w')) : w' = w ∧ ∃ c bytes,
      codecOf? encoding = some c ∧ w.files.read path = .ok bytes ∧ c.decode keepRaw bytes = .ok text := by
  obtain ⟨name, w₁, hname, h⟩ := runIn_bind_eq_ok h
  obtain ⟨fs, w₂, hfiles, h⟩ := runIn_bind_eq_ok h
  obtain ⟨bytes, w₃, hread, h⟩ := runIn_bind_eq_ok h
  obtain ⟨c, w₄, hcodec, hdecode⟩ := runIn_bind_eq_ok h
  obtain ⟨hc, rfl, rfl⟩ := codecOf?_of_ok hname hcodec
  cases hfiles
  obtain ⟨hbytes, rfl⟩ := runIn_ofExcept_eq_ok hread
  obtain ⟨htext, rfl⟩ := runIn_ofExcept_eq_ok hdecode
  exact ⟨rfl, c, bytes, hc, hbytes, htext⟩

theorem writeText_ok {path : String} {encoding : Value} {text : List Glyph} {w w' : World}
    (h : (writeText path encoding text).runIn w = (.ok (), w')) : ∃ c bytes r, codecOf? encoding = some c ∧
      w.files.writable path = .ok r ∧ c.encode text = .ok bytes ∧
      w' = { w with files := w.files.putBytes r bytes } := by
  obtain ⟨name, w₁, hname, h⟩ := runIn_bind_eq_ok h
  obtain ⟨fs, w₂, hfiles, h⟩ := runIn_bind_eq_ok h
  obtain ⟨r, w₃, hwritable, h⟩ := runIn_bind_eq_ok h
  obtain ⟨_, w₄, hempty, h⟩ := runIn_bind_eq_ok h
  obtain ⟨c, w₅, hcodec, h⟩ := runIn_bind_eq_ok h
  obtain ⟨bytes, w₆, hencode, hfull⟩ := runIn_bind_eq_ok h
  obtain ⟨hc, rfl, rfl⟩ := codecOf?_of_ok hname hcodec
  cases hfiles
  obtain ⟨hr, rfl⟩ := runIn_ofExcept_eq_ok hwritable
  cases hempty
  obtain ⟨hbytes, rfl⟩ := runIn_ofExcept_eq_ok hencode
  cases hfull
  exact ⟨c, bytes, r, hc, hr, hbytes, rfl⟩

theorem runIn_codec_of_codecOf? {setting : Value} {c : Codec} (h : codecOf? setting = some c) :
    ∃ name, (∀ w, (encodingName setting).runIn w = (.ok name, w)) ∧ ∀ w, (codec name).runIn w = (.ok c, w) := by
  unfold codecOf? at h
  split at h
  · cases h
    exact ⟨none, fun _ => rfl, fun _ => rfl⟩
  · rename_i s
    split_ifs at h with hnul
    refine ⟨some s, fun w => ?_, fun w => ?_⟩
    · simp only [encodingName, hnul]
      rfl
    · simp only [codec, h]
      rfl
  · cases h

theorem runIn_readText {path : String} {encoding : Value} {keepRaw : Bool} {c : Codec} {bytes : List UInt8}
    {text : List Glyph} {w : World} (hc : codecOf? encoding = some c) (hread : w.files.read path = .ok bytes)
    (hdecode : c.decode keepRaw bytes = .ok text) : (readText path encoding keepRaw).runIn w = (.ok text, w) := by
  obtain ⟨name, hname, hcodec⟩ := runIn_codec_of_codecOf? hc
  rw [readText, runIn_bind_ok (hname w), runIn_bind_ok (runIn_files w), hread, runIn_bind_ok (runIn_ofExcept _ _ _),
    runIn_bind_ok (hcodec w), hdecode]
  rfl

/-- Text that encodes fails to be written only when the path cannot be written to. -/
theorem runIn_writeText {path : String} {encoding : Value} {c : Codec} {text : List Glyph} {bytes : List UInt8}
    (hc : codecOf? encoding = some c) (hencode : c.encode text = .ok bytes) (w : World) :
    (writeText path encoding text).runIn w =
      match w.files.writable path with
      | .error fault => (.error (.file fault), w)
      | .ok r => (.ok (), { w with files := w.files.putBytes r bytes }) := by
  obtain ⟨name, hname, hcodec⟩ := runIn_codec_of_codecOf? hc
  rw [writeText, runIn_bind_ok (hname w), runIn_bind_ok (runIn_files w)]
  cases hw : w.files.writable path with
  | error fault => rfl
  | ok r =>
    rw [runIn_bind_ok (runIn_ofExcept _ _ _), runIn_bind_ok (runIn_setFiles _ _), runIn_bind_ok (hcodec _), hencode]
    rfl

/-- Text that does not encode empties the file. -/
theorem runIn_writeText_unencodable {path : String} {encoding : Value} {c : Codec} {text : List Glyph}
    {fault : EncodeFault} (hc : codecOf? encoding = some c) (hencode : c.encode text = .error fault) (w : World) :
    (writeText path encoding text).runIn w =
      match w.files.writable path with
      | .error fault => (.error (.file fault), w)
      | .ok r => (.error (.unencodable fault), { w with files := w.files.putBytes r [] }) := by
  obtain ⟨name, hname, hcodec⟩ := runIn_codec_of_codecOf? hc
  rw [writeText, runIn_bind_ok (hname w), runIn_bind_ok (runIn_files w)]
  cases hw : w.files.writable path with
  | error fault => rfl
  | ok r =>
    rw [runIn_bind_ok (runIn_ofExcept _ _ _), runIn_bind_ok (runIn_setFiles _ _), runIn_bind_ok (hcodec _), hencode]
    rfl

/-- Writing a text touches no other file, also when it fails after the file is emptied. -/
theorem writeText_changesOnly (path : String) (encoding : Value) (text : List Glyph) (w : World) :
    ChangesOnly (· = path) w.files ((writeText path encoding text).runIn w).2.files := by
  have hfiles := (OnlyReads.encodingName encoding).files_eq w
  rw [writeText, runIn_bind]
  rcases hname : (encodingName encoding).runIn w with ⟨failure | name, w₁⟩
  · rw [hname] at hfiles
    exact hfiles ▸ .refl _ _
  · rw [hname] at hfiles
    rw [← hfiles]
    dsimp only
    rw [runIn_bind_ok (runIn_files w₁)]
    cases hw : w₁.files.writable path with
    | error fault => exact .refl _ _
    | ok r =>
      have hempty := changesOnly_putBytes hw []
      have hread := (OnlyReads.codec name).files_eq { w₁ with files := w₁.files.putBytes r [] }
      rw [runIn_bind_ok (show (ofExcept .file (.ok r)).runIn w₁ = (.ok r, w₁) from rfl),
        runIn_bind_ok (runIn_setFiles _ _), runIn_bind]
      rcases hcodec : (codec name).runIn { w₁ with files := w₁.files.putBytes r [] } with ⟨failure | c, w₂⟩
      · rw [hcodec] at hread
        exact hread ▸ hempty
      · rw [hcodec] at hread
        dsimp only
        cases hbytes : c.encode text with
        | error fault => exact hread ▸ hempty
        | ok bytes => exact changesOnly_putBytes hw bytes

end Action

/-! ### Renaming -/

namespace Rename

/-- The text that an entry makes of a text. -/
theorem Pass.text_apply_congr {p q : Pass} (h : p.text = q.text) (e : Entry) : (p.apply e).text = (q.apply e).text := by
  unfold Pass.apply
  split_ifs
  · exact h
  · cases bareName e.kindDisplayName with
    | none => exact h
    | some name => simp only [h]

/-- What was reported before has no part in the text. -/
theorem text_foldl_apply_congr (entries : List Entry) {p q : Pass} (h : p.text = q.text) :
    (entries.foldl Pass.apply p).text = (entries.foldl Pass.apply q).text := by
  induction entries generalizing p q with
  | nil => exact h
  | cons e rest ih =>
    rw [List.foldl_cons, List.foldl_cons]
    exact ih (Pass.text_apply_congr h e)

theorem text_renameText (text : List Glyph) (entries : List Entry) (report : Report) :
    (renameText text entries report).text = (renameText text entries {}).text :=
  text_foldl_apply_congr entries rfl

/-- The bytes that renaming makes of a file's bytes. -/
def Renamed (settings : RenameSettings) (entries : List Entry) (original bytes : List UInt8) : Prop :=
  ∃ c text eol, Action.codecOf? settings.encoding = some c ∧ c.decode true original = .ok text ∧
    settings.newline = .ok eol ∧
    c.encode (withLineEnd eol (renameText (normalizeNewlines text) entries {}).text) = .ok bytes

theorem recordAll_onlyReads (records : List Record) :
    (records.forM fun r => Action.record (.logged r) : Action Unit).OnlyReads := by
  induction records with
  | nil => exact .pure ()
  | cons r rest ih => exact (Action.OnlyReads.record _).bind fun _ => ih

theorem renameFile_ok {settings : RenameSettings} {path : String} {entries : List Entry} {report : Report}
    {w w' : World} (hany : entries.any Entry.hasRename = true)
    (h : (renameFile settings path entries).runIn w = (.ok report, w')) :
    ∃ r original bytes executable, w.files.locate (Path.ofText path).text = .ok r ∧
      w.files.node? r = some (.file original executable) ∧ Renamed settings entries original bytes ∧
      w'.files = w.files.put r (.file bytes executable) := by
  unfold renameFile at h
  simp only [hany, Bool.not_true, Bool.false_eq_true, if_false] at h
  obtain ⟨text, w₁, hread, h⟩ := Action.runIn_bind_eq_ok h
  obtain ⟨_, w₂, hrecord, h⟩ := Action.runIn_bind_eq_ok h
  obtain ⟨eol, w₃, heol, h⟩ := Action.runIn_bind_eq_ok h
  obtain ⟨_, w₄, hwrite, hreport⟩ := Action.runIn_bind_eq_ok h
  obtain ⟨rfl, c, original, hc, hbytes, htext⟩ := Action.readText_ok hread
  have hfiles := (recordAll_onlyReads (renameText (normalizeNewlines text) entries
    { filePath := (Path.ofText path).text }).records).files_eq w₁
  rw [hrecord] at hfiles
  obtain ⟨hnewline, rfl⟩ := Action.runIn_ofExcept_eq_ok heol
  obtain ⟨c', bytes, r, hc', hwritable, hencode, rfl⟩ := Action.writeText_ok hwrite
  cases hreport
  rw [hc, Option.some.injEq] at hc'
  subst hc'
  rw [text_renameText] at hencode
  obtain ⟨executable, hstat⟩ := read_eq_ok_iff.mp hbytes
  obtain ⟨⟨r', hloc, hnode⟩, _⟩ := stat_ok_iff.mp hstat
  dsimp only at hfiles
  rw [hfiles] at hwritable
  obtain ⟨hloc', _, _⟩ := writable_ok_iff.mp hwritable
  rw [hloc, Except.ok.injEq] at hloc'
  subst hloc'
  refine ⟨r', original, bytes, executable, hloc, hnode, ⟨c, text, eol, hc, htext, hnewline, hencode⟩, ?_⟩
  simp only [hfiles, putBytes, hnode]

theorem renameFile_written {settings : RenameSettings} {path : String} {entries : List Entry} {report : Report}
    {w w' : World} (hany : entries.any Entry.hasRename = true)
    (h : (renameFile settings path entries).runIn w = (.ok report, w')) : report.written = true := by
  unfold renameFile at h
  simp only [hany, Bool.not_true, Bool.false_eq_true, if_false] at h
  obtain ⟨_, w₁, _, h⟩ := Action.runIn_bind_eq_ok h
  obtain ⟨_, w₂, _, h⟩ := Action.runIn_bind_eq_ok h
  obtain ⟨_, w₃, _, h⟩ := Action.runIn_bind_eq_ok h
  obtain ⟨_, w₄, _, hreport⟩ := Action.runIn_bind_eq_ok h
  cases hreport
  rfl

theorem renameFile_changesOnly (settings : RenameSettings) (path : String) (entries : List Entry) (w : World) :
    ChangesOnly (· = (Path.ofText path).text) w.files ((renameFile settings path entries).runIn w).2.files := by
  have hkeeps : (renameFile settings path entries).Keeps (ChangesOnly (· = (Path.ofText path).text) w.files) := by
    unfold renameFile
    dsimp only
    split_ifs
    · exact (Action.OnlyReads.pure _).keeps
    · refine (Action.OnlyReads.readText _ _ _).keeps.bind fun text => ?_
      refine (recordAll_onlyReads _).keeps.bind fun _ => ?_
      refine (Action.OnlyReads.ofExcept _ _).keeps.bind fun eol => ?_
      refine Action.Keeps.bind (fun w' hw' => ?_) fun _ => (Action.OnlyReads.pure _).keeps
      exact hw'.trans (Action.writeText_changesOnly _ _ _ w')
  exact hkeeps w (.refl _ _)

end Rename

end Amalgam
