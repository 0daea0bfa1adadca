import Amalgam.Config.Save
import Amalgam.Proofs.Config.Accepted
import Amalgam.Proofs.Config.Refusal
import Amalgam.Proofs.FileSystem.Change
import Amalgam.Proofs.Json.RoundTrip
import Amalgam.Proofs.Symbols.File
/-!
# Saving a configuration and loading it again

Every value in a configuration that was loaded from a JSON file can be said in JSON: it comes from the file, is a default,
or is the text or number of a variable. So a configuration that can be made a mapping is written without a fault, the text
is read back as that mapping, and the mapping is filled in to the same configuration unless validation refuses it. What
was validated when it was loaded is not refused, and can be made a mapping unless a value is nested too deep to be copied.
-/

namespace Amalgam.Config

open Amalgam.Number Amalgam.Text

/-! ### Values that JSON can say -/

/-- A value that has a text in JSON and is what that text is read as. -/
structure Savable (v : Value) : Prop where
  document : Json.Document v
  sayable : Json.Sayable .readable v

theorem inherited_savable : Json.Inherited Savable where
  word h := ⟨Json.inherited_document.word h, Json.inherited_sayable.word h⟩
  number h := ⟨Json.inherited_document.number h, Json.inherited_sayable.number h⟩
  text s := ⟨.text s, .text s⟩
  list h := ⟨.list fun v hv => (h v hv).document, .list fun v hv => (h v hv).sayable⟩
  map hnamed h := ⟨Json.inherited_document.map hnamed fun b hb => (h b hb).document,
    Json.inherited_sayable.map hnamed fun b hb => (h b hb).sayable⟩

theorem Savable.of_mem {fields : Fields} (h : Savable (.map fields)) {b : Value × Value} (hb : b ∈ fields) :
    Savable b.2 := by
  obtain ⟨hdocument, hsayable⟩ := h
  cases hsayable with
  | map _ hfields => exact ⟨hdocument.of_mem hb, hfields b hb⟩

theorem Savable.boundIn {file : Fields} {s : Setting} {v : Value} (h : Savable (.map file))
    (hbound : boundIn file s = some v) : Savable v := by
  unfold Config.boundIn sectionBindings bindingsOf at hbound
  split at hbound
  · next fields hget => exact (h.of_mem (Fields.mem_of_get? hget)).of_mem (Fields.mem_of_get? hbound)
  · cases hbound

theorem savable_default (s : Setting) : Savable s.default := by
  have hnull : Savable .null := ⟨.null, .null (by simp [Json.Dialect.readable, Json.words])⟩
  cases s
  case libclangPath | mergeTimeout => exact hnull
  all_goals exact inherited_savable.text _

theorem normal_ofText? {s : String} {x : Binary64} (h : Binary64.ofText? s = some x) : x.Normal := by
  unfold Binary64.ofText? at h
  dsimp only at h
  split at h
  · cases h
  · split at h
    · obtain rfl := Option.some.inj h
      exact Binary64.ofDecimal_normal _
    · split_ifs at h
      unfold Binary64.ofWord? at h
      dsimp only at h
      split_ifs at h
      all_goals
        obtain rfl := Option.some.inj h
        trivial

theorem Setting.savable_ofVariable? {s : Setting} {text : String} {v : Value} (h : s.ofVariable? text = some v) :
    Savable v := by
  rcases ofVariable?_kind h with ⟨name, rfl⟩ | ⟨x, rfl⟩
  · exact inherited_savable.text name
  · refine ⟨.float x, Json.sayable_float ?_⟩
    cases s
    case mergeTimeout =>
      obtain ⟨y, hy, heq⟩ := Option.map_eq_some_iff.mp h
      exact Value.float.inj heq ▸ normal_ofText? hy
    case symbolSource | lineEnding | restorePolicy =>
      rw [ofVariable?, enumerated, Option.ite_none_right_eq_some] at h
      cases h.2
    all_goals cases h

/-- Each value of a configuration that was loaded from a JSON file can be said in JSON. -/
theorem savable_loaded {path : Option String} {useEnvironment checked : Bool} {w w' : World} {c : Settings}
    (hjson : ∀ p, chosenFile path w = some p → isYamlName p = false)
    (hplain : ∀ file, ((fileData path).runIn w).1 = .ok file → PlainSections file)
    (h : (load path useEnvironment checked).runIn w = (.ok c, w')) :
    ∃ value, c = .ofValues value ∧ ∀ s, Savable (value s) := by
  obtain ⟨file, hfile, hc⟩ := load_precedence hjson hplain h
  have hbindings : fileBindings path w = .ok file := by
    obtain ⟨_, hread, _⟩ := runIn_fileData path w
    rwa [hread] at hfile
  have hsavable : Savable (.map file) := fileBindings_inherited inherited_savable hjson hbindings
  refine ⟨_, hc, fun s => ?_⟩
  cases hvariable : s.fromVariable? (consulted useEnvironment w) with
  | some v =>
    obtain ⟨_, _, hv⟩ := Option.bind_eq_some_iff.mp hvariable
    exact Setting.savable_ofVariable? hv
  | none =>
    cases hbound : boundIn file s with
    | some v => exact hsavable.boundIn hbound
    | none => exact savable_default s

/-! ### The mapping of a configuration -/

section Data

variable {value : Setting → Value}

theorem savable_dataOfValues (h : ∀ s, Savable (value s)) : Savable (.map (dataOfValues value)) := by
  refine inherited_savable.map (.ofItems Function.injective_id nodup_sectionNames) fun b hb => ?_
  obtain ⟨name, _, hsection, _⟩ := Fields.mem_ofItems.mp hb
  rw [← Option.some.inj hsection]
  refine inherited_savable.map (.ofItems (fun _ _ => Setting.key_injective) (nodup_ofSection _)) fun b hb => ?_
  obtain ⟨s, _, hvalue, _⟩ := Fields.mem_ofItems.mp hb
  exact Option.some.inj hvalue ▸ h s

theorem within_dataOfValues (h : ∀ s, (value s).canBeCopied = true) :
    Value.Within Json.maxDepth (.map (dataOfValues value)) := by
  have hsection : Value.Within (Value.copyDepth + 2) (.map (dataOfValues value)) := by
    refine Value.within_map.mpr ⟨_, rfl, fun b hb => ?_⟩
    obtain ⟨name, _, hsection, hname⟩ := Fields.mem_ofItems.mp hb
    rw [← Option.some.inj hsection, hname]
    refine ⟨Value.within_scalar rfl, Value.within_map.mpr ⟨_, rfl, fun b hb => ?_⟩⟩
    obtain ⟨s, _, hvalue, hkey⟩ := Fields.mem_ofItems.mp hb
    rw [← Option.some.inj hvalue, hkey]
    exact ⟨Value.within_scalar rfl, Value.canBeCopied_iff.mp (h s)⟩
  exact hsection.mono (by decide)

theorem Choice.known_of_value {α : Type} {nameOf : α → String} {chosen : Choice α} {v : Value}
    (h : chosen.value nameOf = .ok v) : ∃ a, chosen = .known a := by
  cases chosen with
  | known a => exact ⟨a, rfl⟩
  | other _ => cases h

theorem accepts_of_written {v : Value} (h : (Settings.ofValues value).toValue = .ok v) :
    Setting.symbolSource.accepts (value .symbolSource) = true ∧
      Setting.restorePolicy.accepts (value .restorePolicy) = true := by
  obtain ⟨_, htools, h⟩ := Except.bind_eq_ok.mp h
  obtain ⟨_, _, h⟩ := Except.bind_eq_ok.mp h
  obtain ⟨_, hbundle, _⟩ := Except.bind_eq_ok.mp h
  constructor
  · obtain ⟨_, _, htools⟩ := Except.bind_eq_ok.mp htools
    obtain ⟨_, hsource, _⟩ := Except.bind_eq_ok.mp htools
    obtain ⟨kind, hkind⟩ := Choice.known_of_value (Except.mapError_eq_ok.mp hsource)
    have hvalue : value .symbolSource = .text kind.name :=
      (Settings.value_ofValues value .symbolSource).symm.trans (congrArg (Choice.held SymbolSourceKind.name) hkind)
    rw [hvalue]
    cases kind <;> decide
  · obtain ⟨_, _, hbundle⟩ := Except.bind_eq_ok.mp hbundle
    obtain ⟨_, hpolicy, _⟩ := Except.bind_eq_ok.mp hbundle
    obtain ⟨policy, hknown⟩ := Choice.known_of_value (Except.mapError_eq_ok.mp hpolicy)
    have hvalue : value .restorePolicy = .text policy.name :=
      (Settings.value_ofValues value .restorePolicy).symm.trans (congrArg (Choice.held RestorePolicy.name) hknown)
    rw [hvalue]
    cases policy <;> decide

theorem acceptable_of_validated {v : Value} (h : (Settings.ofValues value).toValue = .ok v)
    (hvalid : validate v = .ok ()) : Acceptable value := by
  obtain ⟨hsource, hpolicy⟩ := accepts_of_written h
  obtain ⟨_, rfl⟩ := (toValue_eq_ok hsource hpolicy).mp h
  exact fun s => accepts_of_boundIn (validate_eq_ok.mp hvalid _ (sectionName_mem s)) (boundIn_dataOfValues s)

end Data

/-! ### Saving -/

section Saving

variable {value : Setting → Value} {p format : String} {text : String} {fs : FileSystem} {route : Route} {fields : Fields}

/-- The mapping that a value is. -/
def mappingOf : Value → Except Failure Fields
  | .map fields => .ok fields
  | _ => .error (.configuration .notMapping)

theorem decodeFields_text {glyphs : List Glyph} {bytes : List UInt8} (h : Codec.utf8.decode false bytes = .ok glyphs)
    (path : String) :
    decodeFields path bytes = parseFile path (universalNewlines (glyphs.filterMap Glyph.char?)) >>= mappingOf := by
  rw [decodeFields, h]
  dsimp only [Except.mapError, Except.ok_bind]
  refine bind_congr fun v => ?_
  cases v <;> rfl

/-- What a file is read as is decided by its name and its text. -/
theorem readFields_text (hread : fs.read p = .ok (utf8Encoded (glyphs text))) (hclean : '\r' ∉ text.toList) :
    readFields p fs = parseFile p text.toList >>= mappingOf := by
  have hdecode : Codec.utf8.decode false (utf8Encoded (glyphs text)) = .ok (glyphs text) :=
    decode_utf8Encoded false text.toList
  have hlines : universalNewlines ((glyphs text).filterMap Glyph.char?) = text.toList := by
    rw [glyphs, List.filterMap_map, show Glyph.char? ∘ Glyph.char = some from rfl, List.filterMap_some]
    exact universalNewlines_of_no_return hclean
  have hfields := decodeFields_text hdecode p
  rw [hlines] at hfields
  rw [readFields, if_pos (leadsSomewhere_of_read hread), hread]
  exact hfields

theorem parseFile_json (hpath : isYamlName p = false) (hparse : Json.parse text = .ok (.map fields)) :
    parseFile p text.toList = .ok (.map fields) := by
  simp only [parseFile, hpath, Bool.false_eq_true, if_false, String.ofList_toList, hparse]
  rfl

theorem formatSettings_json {v : Value} (h : Json.write .standard v = .ok text) :
    formatSettings "json" v = .ok text := by
  unfold formatSettings
  rw [if_neg (by decide), h]
  rfl

theorem runIn_save {c : Settings} {v : Value} {w : World} (hvalue : c.toValue = .ok v)
    (htext : formatSettings format v = .ok text) (hwritable : w.files.writable p = .ok route) :
    (save c p format).runIn w = (.ok (), { w with files := w.files.putBytes route (utf8Encoded (glyphs text)) }) := by
  unfold save
  rw [hvalue, Action.runIn_bind_ok (Action.runIn_ofExcept _ _ w), Action.runIn_bind_ok (Action.runIn_files w), hwritable,
    Action.runIn_bind_ok (Action.runIn_ofExcept _ _ w), Action.runIn_bind_ok (Action.runIn_setFiles _ w), htext,
    Action.runIn_bind_ok (Action.runIn_ofExcept _ _ _)]
  rfl

/-- A configuration that was saved had a text, and the file could be written. -/
theorem of_runIn_save {c : Settings} {w saved : World} (h : (save c p format).runIn w = (.ok (), saved)) :
    ∃ v text route, c.toValue = .ok v ∧ formatSettings format v = .ok text ∧ w.files.writable p = .ok route := by
  unfold save at h
  obtain ⟨v, w₁, hrun, hrest⟩ := Action.runIn_bind_eq_ok h
  obtain ⟨hvalue, rfl⟩ := Action.runIn_ofExcept_eq_ok hrun
  rw [Action.runIn_bind_ok (Action.runIn_files _)] at hrest
  obtain ⟨route, w₂, hrun, hrest⟩ := Action.runIn_bind_eq_ok hrest
  obtain ⟨hroute, rfl⟩ := Action.runIn_ofExcept_eq_ok hrun
  rw [Action.runIn_bind_ok (Action.runIn_setFiles _ _)] at hrest
  obtain ⟨text, _, hrun, _⟩ := Action.runIn_bind_eq_ok hrest
  exact ⟨v, text, route, hvalue, (Action.runIn_ofExcept_eq_ok hrun).1, hroute⟩

theorem runIn_save_error {c : Settings} {failure : Failure} (h : c.toValue = .error failure) (p format : String)
    (w : World) : (save c p format).runIn w = (.error failure, w) := by
  unfold save
  rw [h]
  rfl

theorem ne_empty_of_writable (h : fs.writable p = .ok route) : p ≠ "" := by
  rintro rfl
  obtain ⟨hlocate, _⟩ := FileSystem.writable_ok_iff.mp h
  cases hlocate

theorem load_given {w : World} (hp : p ≠ "") (hnamed : ∀ file, readFields p w.files = .ok file → file.Named) :
    ((load (some p) false true).runIn w).1 = readFields p w.files >>= loadLayered true := by
  have hbindings : fileBindings (some p) w = readFields p w.files := by rw [fileBindings, chosenFile_given hp]
  rw [load_result _ _ _ _ (fun file hfile => hnamed file (hbindings ▸ hfile)), hbindings]
  cases hfile : readFields p w.files with
  | error failure => rfl
  | ok file =>
    have hempty : environmentFields (consulted false w) = [] := rfl
    rw [Except.ok_bind, Except.ok_bind, layered_eq (hnamed file hfile), hempty, mergeInto]

theorem named_dataOfValues (value : Setting → Value) : (dataOfValues value).Named :=
  .ofItems Function.injective_id nodup_sectionNames

end Saving

theorem loadLayered_dataOfValues {value : Setting → Value}
    (hvalue : (Settings.ofValues value).toValue = .ok (.map (dataOfValues value))) :
    loadLayered true (dataOfValues value) =
      validate (.map (dataOfValues value)) >>= fun _ => .ok (.ofValues value) := by
  rw [loadLayered, if_pos rfl]
  cases hvalid : validate (.map (dataOfValues value)) with
  | error failure => rfl
  | ok => exact fill_dataOfValues (acceptable_of_validated hvalue hvalid)

/-- A configuration that is a mapping is saved wherever a file can be written, and the file is loaded as it if the
mapping is valid. -/
theorem saved_loads {value : Setting → Value} {v : Value} {p : String} {route : Route} {w : World}
    (hsavable : ∀ s, Savable (value s)) (hvalue : (Settings.ofValues value).toValue = .ok v)
    (hpath : isYamlName p = false) (hwritable : w.files.writable p = .ok route) :
    ∃ saved, (save (.ofValues value) p "json").runIn w = (.ok (), saved) ∧
      ((load (some p) false true).runIn saved).1 = validate v >>= fun _ => .ok (.ofValues value) := by
  obtain ⟨hsource, hpolicy⟩ := accepts_of_written hvalue
  obtain ⟨hcopied, rfl⟩ := (toValue_eq_ok hsource hpolicy).mp hvalue
  have hdata := savable_dataOfValues hsavable
  obtain ⟨text, htext, hclean, hparse⟩ :=
    Json.parse_write hdata.sayable ⟨hdata.document, within_dataOfValues hcopied⟩ .standard
  have hfile := (readFields_text (FileSystem.read_putBytes hwritable _) hclean).trans
    (congrArg (· >>= mappingOf) (parseFile_json hpath hparse))
  refine ⟨_, runIn_save hvalue (formatSettings_json htext) hwritable, ?_⟩
  rw [load_given (ne_empty_of_writable hwritable) fun file h => ?_, hfile]
  · exact loadLayered_dataOfValues hvalue
  · obtain rfl := Except.ok.inj (hfile.symm.trans h)
    exact named_dataOfValues value

/-- Takes a configuration that was loaded from a JSON file with plain keys. If it was validated, it is a mapping exactly
if its values can be copied, and the mapping is valid. If it is a mapping, it is saved as JSON wherever a file can be
written, and loading that file gives it again, or the fault that validation finds in it. If not, no file is touched. -/
theorem save_load {path : Option String} {useEnvironment checked : Bool} {w w' : World} {c : Settings}
    (hjson : ∀ p, chosenFile path w = some p → isYamlName p = false)
    (hplain : ∀ file, ((fileData path).runIn w).1 = .ok file → PlainSections file)
    (h : (load path useEnvironment checked).runIn w = (.ok c, w')) :
    (checked = true → ((∃ v, c.toValue = .ok v) ↔ ∀ s, (c.value s).canBeCopied = true) ∧
        ∀ v, c.toValue = .ok v → validate v = .ok ()) ∧
      ∀ (p : String) (start : World), isYamlName p = false → (∃ route, start.files.writable p = .ok route) →
        match c.toValue with
        | .ok v => ∃ saved, (save c p "json").runIn start = (.ok (), saved) ∧
            ((load (some p) false true).runIn saved).1 = validate v >>= fun _ => .ok c
        | .error failure => (save c p "json").runIn start = (.error failure, start) := by
  obtain ⟨value, rfl, hsavable⟩ := savable_loaded hjson hplain h
  constructor
  · rintro rfl
    have haccepted : Acceptable value := by
      obtain ⟨_, _, _, hmerged, hc⟩ := load_filled hjson hplain h
      intro s
      rw [← Settings.value_ofValues value s, hc, Settings.value_ofValues]
      exact acceptable_of_accepted (validate_eq_ok.mp (hmerged rfl)) s
    have hvalue {v : Value} := toValue_eq_ok (haccepted .symbolSource) (haccepted .restorePolicy) (v := v)
    simp only [hvalue, Settings.value_ofValues, exists_and_left, exists_eq, and_true]
    refine ⟨trivial, ?_⟩
    rintro v ⟨_, rfl⟩
    exact validate_dataOfValues haccepted
  · rintro p start hpath ⟨route, hwritable⟩
    cases hdata : (Settings.ofValues value).toValue with
    | ok v => exact saved_loads hsavable hdata hpath hwritable
    | error failure => exact runIn_save_error hdata p "json" start

/-- Escapes of every kind and numbers of both kinds in the file, and a timeout in the environment. -/
theorem save_load_mixed :
    let w := { Bundler.smallWorld [(["c.json"], Bundler.textFile
        "\x7b\"tools\":\x7b\"libclang_path\":[\"\\\"\\u0001\\ud83d\\ude00\",-7,0.1]\x7d\x7d")] with
      environment := [("BUNDLECXX_MERGE_TIMEOUT", "1e400")] }
    ∃ c w' saved, (load (some "c.json") true true).runIn w = (.ok c, w') ∧ c.bundle.mergeTimeout.shown = "inf" ∧
      (save c "d.json" "json").runIn w = (.ok (), saved) ∧
      ((load (some "d.json") false true).runIn saved).1 = .ok c := by
  intro w
  have hjson : ∀ p, chosenFile (some "c.json") w = some p → isYamlName p = false :=
    not_yaml_of_given (by decide) (by decide) w
  obtain ⟨hsections, hwritable, hshown⟩ :
      (((fileData (some "c.json")).runIn w).1.toOption.all fun file => PlainSections file) = true ∧
      w.files.writable "d.json" = .ok ["d.json"] ∧
      ((load (some "c.json") true true).runIn w).1.toOption.map (fun c =>
        (c.bundle.mergeTimeout.shown, c.toValue.isOk)) = some ("inf", true) := by
    decide +kernel
  have hplain := plainSections_of_read hsections
  obtain ⟨c, w', hrun, hread⟩ := Except.exists_of_map_toOption hshown
  obtain ⟨htimeout, hwritten⟩ := Prod.mk.inj hread
  have h := save_load hjson hplain hrun
  have hsaved := h.2 "d.json" w (by decide) ⟨_, hwritable⟩
  obtain ⟨v, hvalue⟩ := Except.isOk_iff.mp hwritten
  rw [hvalue] at hsaved
  obtain ⟨saved, hsave, hload⟩ := hsaved
  rw [(h.1 rfl).2 v hvalue] at hload
  exact ⟨c, w', saved, hrun, htimeout, hsave, hload⟩

/-! ### A setting that cannot be copied -/

/-- An empty list in that many lists. -/
def nestedList : Nat → Value
  | 0 => .list []
  | n + 1 => .list [nestedList n]

def nestedText : Nat → List Char
  | 0 => ['[', ']']
  | n + 1 => '[' :: nestedText n ++ [']']

/-- The text of a mapping with one binding. -/
def bindingText (name : String) (cs : List Char) : List Char :=
  '\x7b' :: '"' :: name.toList ++ '"' :: ':' :: cs ++ ['\x7d']

/-- A configuration with a value for one setting. -/
def libraryData (v : Value) : Fields :=
  [(.text "tools", .map [(.text "libclang_path", v)])]

def libraryText (cs : List Char) : String :=
  String.ofList (bindingText "tools" (bindingText "libclang_path" cs))

theorem depth?_nestedList (n : Nat) : (nestedList n).depth? = some (n + 1) := by
  induction n with
  | zero => rfl
  | succ n ih => simp [nestedList, Value.depth?, Value.deepest?, ih]

theorem document_nestedList (n : Nat) : Json.Document (nestedList n) := by
  induction n with
  | zero => exact .list (by simp)
  | succ n ih => exact .list (by simpa using ih)

theorem nestedText_spells (n : Nat) : Json.Spells .readable (.value (nestedList n)) (nestedText n) := by
  induction n with
  | zero => exact .noElements .nil
  | succ n ih =>
    have h := Json.Spells.list .nil (.lastElement ih .nil)
    rwa [List.append_nil] at h

theorem nestedText_no_return (n : Nat) : '\r' ∉ nestedText n := by
  induction n with
  | zero => decide
  | succ n ih => simpa [nestedText] using ih

theorem spells_binding {name : String} {v : Value} {cs : List Char} (h : Json.Spells .readable (.value v) cs)
    (hname : ∀ c ∈ name.toList, c ≠ '"' ∧ c ≠ '\\' ∧ 32 ≤ c.toNat) :
    Json.Spells .readable (.value (.map [(.text name, v)])) (bindingText name cs) := by
  have hmember := Json.Spells.member (Json.SpellsChars.self hname) .nil .nil h
  simpa [bindingText] using Json.Spells.map .nil (.lastMember hmember .nil)

theorem libraryText_spells {v : Value} {cs : List Char} (h : Json.Spells .readable (.value v) cs) :
    Json.IsDocument .readable (libraryText cs) (.map (libraryData v)) := by
  have htools : ∀ c ∈ "tools".toList, c ≠ '"' ∧ c ≠ '\\' ∧ 32 ≤ c.toNat := by simp
  have hlibrary : ∀ c ∈ "libclang_path".toList, c ≠ '"' ∧ c ≠ '\\' ∧ 32 ≤ c.toNat := by simp
  refine ⟨[], _, [], .nil, spells_binding (spells_binding h hlibrary) htools, .nil, ?_⟩
  rw [libraryText, String.toList_ofList, List.nil_append, List.append_nil]

theorem loadLayered_library (v : Value) :
    loadLayered true (libraryData v) = .ok { tools := { libclangPath := v } } := rfl

theorem read_smallWorld (text : String) :
    (Bundler.smallWorld [(["c.json"], Bundler.textFile text)]).files.read "c.json" = .ok (utf8Encoded (glyphs text)) :=
  rfl

theorem document_binding (name : String) {v : Value} (h : Json.Document v) : Json.Document (.map [(.text name, v)]) :=
  .map (Fields.Named.nil.put name v) (by simpa using h)

theorem toValue_library {v : Value} (h : v.canBeCopied = false) :
    Settings.toValue { tools := { libclangPath := v } } = .error .tooDeep := by
  have hcopied : copied v = .error .tooDeep := by rw [copied, h, if_neg Bool.false_ne_true]
  have htools : ToolSettings.toFields { libclangPath := v } = .error .tooDeep := by
    simp only [ToolSettings.toFields, sectionValue, List.mapM_cons, hcopied]
    rfl
  rw [Settings.toValue, htools]
  rfl

/-- A setting that is nested too deep to be copied is loaded, but the configuration cannot be saved. -/
theorem deep_setting_not_saved {n : Nat} (hdeep : Value.copyDepth ≤ n) (hlegible : n + 3 ≤ Json.maxDepth) :
    let w := Bundler.smallWorld [(["c.json"], Bundler.textFile (libraryText (nestedText n)))]
    ∃ c w', (load (some "c.json") true true).runIn w = (.ok c, w') ∧
      ∀ p format start, (save c p format).runIn start = (.error .tooDeep, start) := by
  intro w
  have hdocument : Json.Document (.map (libraryData (nestedList n))) :=
    document_binding "tools" (document_binding "libclang_path" (document_nestedList n))
  have hwithin : Value.Within Json.maxDepth (.map (libraryData (nestedList n))) := by
    refine Value.Within.mono (d := n + 3) ⟨n + 3, ?_, le_rfl⟩ hlegible
    simp [libraryData, Value.depth?, Value.deepestField?, depth?_nestedList]
  have hclean : '\r' ∉ (libraryText (nestedText n)).toList := by
    simp [libraryText, bindingText, nestedText_no_return]
  have hparse := Json.parse_spelled (libraryText_spells (nestedText_spells n)) ⟨hdocument, hwithin⟩
  have hfile : fileBindings (some "c.json") w = .ok (libraryData (nestedList n)) :=
    (readFields_text (read_smallWorld _) hclean).trans
      (congrArg (· >>= mappingOf) (parseFile_json (by decide) hparse))
  have hload : ((load (some "c.json") true true).runIn w).1 = .ok { tools := { libclangPath := nestedList n } } := by
    have hempty : environmentFields (consulted true w) = [] := rfl
    rw [load_result _ _ _ _ (fun file h => by rw [hfile] at h; exact Except.ok.inj h ▸ hdocument.named), hfile,
      Except.ok_bind, layered_eq hdocument.named, hempty, mergeInto, loadLayered_library]
  have hcopied : (nestedList n).canBeCopied = false := by
    refine Bool.eq_false_iff.mpr fun h => ?_
    obtain ⟨depth, hdepth, hle⟩ := Value.canBeCopied_iff.mp h
    rw [depth?_nestedList, Option.some.injEq] at hdepth
    omega
  rcases hrun : (load (some "c.json") true true).runIn w with ⟨result, w'⟩
  rw [hrun] at hload
  obtain rfl : result = _ := hload
  exact ⟨_, w', rfl, fun p format start => runIn_save_error (toValue_library hcopied) p format start⟩

/-- Neither condition can be left out: a timeout that was not checked is loaded and saved, and then refused; and a setting
that is nested too deep is loaded, and not saved. -/
theorem unchecked_or_deep_not_restored :
    (let w := Bundler.smallWorld [(["c.json"], Bundler.textFile "\x7b\"bundle\":\x7b\"merge_timeout\":-1\x7d\x7d")]
      ∃ c w' saved, (load (some "c.json") true false).runIn w = (.ok c, w') ∧
        (save c "d.json" "json").runIn w = (.ok (), saved) ∧
        ((load (some "d.json") false true).runIn saved).1 = .error (.configuration .mergeTimeout)) ∧
      (let w := Bundler.smallWorld [(["c.json"], Bundler.textFile (libraryText (nestedText 500)))]
        ∃ c w', (load (some "c.json") true true).runIn w = (.ok c, w') ∧
          (save c "d.json" "json").runIn w' = (.error .tooDeep, w')) := by
  constructor
  · intro w
    have hjson : ∀ p, chosenFile (some "c.json") w = some p → isYamlName p = false :=
      not_yaml_of_given (by decide) (by decide) w
    obtain ⟨hsections, hwritable, hshown⟩ :
        (((fileData (some "c.json")).runIn w).1.toOption.all fun file => PlainSections file) = true ∧
        w.files.writable "d.json" = .ok ["d.json"] ∧
        ((load (some "c.json") true false).runIn w).1.toOption.map (fun c =>
          (c.toValue.isOk, c.toValue >>= validate)) = some (true, .error (.configuration .mergeTimeout)) := by
      decide +kernel
    have hplain := plainSections_of_read hsections
    obtain ⟨c, w', hrun, hread⟩ := Except.exists_of_map_toOption hshown
    obtain ⟨hwritten, hinvalid⟩ := Prod.mk.inj hread
    obtain ⟨value, rfl, hsavable⟩ := savable_loaded hjson hplain hrun
    obtain ⟨v, hvalue⟩ := Except.isOk_iff.mp hwritten
    have hrefused : validate v = .error (.configuration .mergeTimeout) := by rwa [hvalue] at hinvalid
    obtain ⟨saved, hsave, hload⟩ := saved_loads hsavable hvalue (p := "d.json") (by decide) hwritable
    exact ⟨_, w', saved, hrun, hsave, hload.trans (by rw [hrefused]; rfl)⟩
  · obtain ⟨c, w', hload, hsave⟩ := deep_setting_not_saved (n := 500) (by decide) (by decide)
    exact ⟨c, w', hload, hsave "d.json" "json" w'⟩

end Amalgam.Config
