import Amalgam.Proofs.Config.Completion
import Amalgam.Proofs.Config.Precedence
/-!
# When a bad configuration is reported as one

Loading with validation ends in a configuration, in a fault of the configuration, or in some other failure that nobody
has put into words. The last happens for bytes that are no text, for numbers and nestings that are too large to read, for
sections and settings of a kind that validation cannot look into, and for sections that pass validation and cannot be
filled in. Apart from these, every file is loaded or reported.
-/

namespace Amalgam.Config

open Amalgam.Text

def fileText (glyphs : List Glyph) : List Char :=
  universalNewlines (glyphs.filterMap Glyph.char?)

/-- Bytes whose reading as JSON comes to a verdict: they are a text, and if it is not JSON then because of its form, not
because of the size of a number or the depth of its nesting. -/
def Legible (bytes : List UInt8) : Prop :=
  ∃ glyphs, Codec.utf8.decode false bytes = .ok glyphs ∧
    ∀ fault, Json.parse (String.ofList (fileText glyphs)) = .error fault →
      ∃ problem rest, fault = .malformed problem rest

theorem settled_decodeFields {path : String} (hpath : isYamlName path = false) (bytes : List UInt8) :
    Settled (decodeFields path bytes) ↔ Legible bytes := by
  unfold decodeFields Legible
  cases Codec.utf8.decode false bytes with
  | error fault =>
    constructor
    · intro h
      cases h
    · rintro ⟨_, h, _⟩
      cases h
  | ok glyphs =>
    have hparse : parseFile path (universalNewlines (glyphs.filterMap Glyph.char?)) =
        (Json.parse (String.ofList (fileText glyphs))).mapError (jsonFailure (String.ofList (fileText glyphs))) := by
      rw [parseFile, if_neg (by simp [hpath]), fileText]
    simp only [Except.mapError, Except.ok_bind, Except.ok.injEq, exists_eq_left']
    rw [hparse]
    cases Json.parse (String.ofList (fileText glyphs)) with
    | error fault =>
      cases fault with
      | malformed problem rest => exact ⟨fun _ _ h => ⟨problem, rest, (Except.error.inj h).symm⟩, fun _ => .refused _⟩
      | tooManyDigits count | tooDeep =>
        constructor
        · intro h
          cases h
        · intro h
          obtain ⟨_, _, heq⟩ := h _ rfl
          cases heq
    | ok v =>
      refine ⟨fun _ _ h => (by cases h), fun _ => ?_⟩
      cases v with
      | map fields => exact .ok fields
      | _ => exact .refused _

theorem leadsSomewhere_of_read {fs : FileSystem} {path : String} {bytes : List UInt8}
    (h : fs.read path = .ok bytes) : fs.leadsSomewhere path = true := by
  obtain ⟨node, hstat, _⟩ := Except.bind_eq_ok.mp h
  rw [FileSystem.leadsSomewhere, hstat]

theorem settled_readFields {path : String} (hpath : isYamlName path = false) (fs : FileSystem) :
    Settled (readFields path fs) ↔ ∀ bytes, fs.read path = .ok bytes → Legible bytes := by
  unfold readFields
  cases hread : fs.read path with
  | error fault =>
    refine ⟨fun _ => nofun, fun _ => ?_⟩
    split_ifs
    · exact .refused _
    · exact .refused _
  | ok bytes => simp [leadsSomewhere_of_read hread, Except.mapError, settled_decodeFields hpath]

theorem settled_fileBindings {path : Option String} {w : World}
    (hjson : ∀ p, chosenFile path w = some p → isYamlName p = false) :
    Settled (fileBindings path w) ↔
      ∀ p, chosenFile path w = some p → ∀ bytes, w.files.read p = .ok bytes → Legible bytes := by
  unfold fileBindings
  cases hchosen : chosenFile path w with
  | none => exact ⟨fun _ => nofun, fun _ => .ok []⟩
  | some p => simp [settled_readFields (hjson p hchosen)]

theorem settled_loadLayered {data : Fields} (hnamed : NamedSections data) :
    Settled (loadLayered true data) ↔
      Judgeable data ∧ ((∀ name ∈ sectionNames, Accepted data name) → Completable data) := by
  have hload : loadLayered true data = (validate (.map data) >>= fun _ => fill data) := rfl
  rw [hload, settled_then, settled_validate, validate_eq_ok]
  exact and_congr_right fun _ => forall_congr' fun haccepted => settled_fill hnamed haccepted

/-- Exactly when bad configuration is reported as such: validation of a mapping comes to a verdict if it comes to one on
each section that it gets to, and so does loading if the file is legible, validation of what it says under the
environment comes to a verdict, and what passes validation can be filled in. -/
theorem configuration_settled {path : Option String} {useEnvironment : Bool} {w : World}
    (hjson : ∀ p, chosenFile path w = some p → isYamlName p = false) :
    (∀ data : Fields, Settled (validate (.map data)) ↔ Judgeable data) ∧
      (Settled ((load path useEnvironment true).runIn w).1 ↔
        (∀ p, chosenFile path w = some p → ∀ bytes, w.files.read p = .ok bytes → Legible bytes) ∧
        ∀ file, ((fileData path).runIn w).1 = .ok file →
          Judgeable (layered (consulted useEnvironment w) file) ∧
            ((∀ name ∈ sectionNames, Accepted (layered (consulted useEnvironment w) file) name) →
              Completable (layered (consulted useEnvironment w) file))) := by
  refine ⟨fun data => settled_validate, ?_⟩
  have hdocument (file : Fields) (hfile : fileBindings path w = .ok file) : Json.Document (.map file) :=
    fileBindings_document hjson hfile
  obtain ⟨w₁, hread, _, _⟩ := runIn_fileData path w
  rw [load_result path useEnvironment true w fun file hfile => (hdocument file hfile).named, settled_bind,
    settled_fileBindings hjson, hread]
  exact and_congr_right fun _ => forall₂_congr fun file hfile =>
    settled_loadLayered (namedSections_layered (hdocument file hfile) _)

/-- A timeout of zero is refused, and so the file is legible and comes to a verdict under the empty environment. -/
theorem configuration_settled_zero_timeout :
    let w := Bundler.smallWorld [(["c.json"], Bundler.textFile "\x7b\"bundle\":\x7b\"merge_timeout\":0\x7d\x7d")]
    (∀ p, chosenFile (some "c.json") w = some p → isYamlName p = false) ∧
      Settled ((load (some "c.json") true true).runIn w).1 ∧
      ¬ ((load (some "c.json") true true).runIn w).1.isOk = true ∧
      (∀ p, chosenFile (some "c.json") w = some p → ∀ bytes, w.files.read p = .ok bytes → Legible bytes) ∧
      ∀ file, ((fileData (some "c.json")).runIn w).1 = .ok file → Judgeable (layered w.environment file) := by
  intro w
  have hjson : ∀ p, chosenFile (some "c.json") w = some p → isYamlName p = false :=
    not_yaml_of_given (by decide) (by decide) w
  have hsettled : Settled ((load (some "c.json") true true).runIn w).1 := by decide +kernel
  obtain ⟨hlegible, hfile⟩ := (configuration_settled hjson).2.mp hsettled
  exact ⟨hjson, hsettled, by decide +kernel, hlegible, fun file hread => (hfile file hread).1⟩

/-- A line ending that is a list is misused by validation, and so by loading. -/
theorem line_ending_misused :
    let data : Fields := [(.text "rename", .map [(.text "line_ending", .list [])])]
    let w := Bundler.smallWorld [(["c.json"], Bundler.textFile "\x7b\"rename\":\x7b\"line_ending\":[]\x7d\x7d")]
    Json.Document (.map data) ∧ ¬ Settled (validate (.map data)) ∧
      ¬ Settled ((load (some "c.json") true true).runIn w).1 := by
  refine ⟨?_, by decide +kernel, by decide +kernel⟩
  exact Json.Document.empty.put "rename" (Json.Document.empty.put "line_ending" (.list (by simp)))

end Amalgam.Config
