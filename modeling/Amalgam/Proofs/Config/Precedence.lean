import Amalgam.Proofs.Config.Filling
/-!
# Which source a setting is taken from

Each setting on its own: its variable if that is given and fits, else the file's value for its key, else its default.
Nothing else has a say in it, neither the variables and keys of the other settings nor keys that name no setting. A
variable that does not fit is as good as unset.
-/

namespace Amalgam.Config

theorem load_eq_ok {path : Option String} {useEnvironment checked : Bool} {w w' : World} {c : Settings}
    (hnamed : ∀ file, fileBindings path w = .ok file → file.Named)
    (h : (load path useEnvironment checked).runIn w = (.ok c, w')) :
    ∃ file, fileBindings path w = .ok file ∧
      loadLayered checked (layered (consulted useEnvironment w) file) = .ok c := by
  have hresult := load_result path useEnvironment checked w hnamed
  rw [h] at hresult
  exact Except.bind_eq_ok.mp hresult.symm

theorem loadLayered_eq_ok {checked : Bool} {data : Fields} {c : Settings} (h : loadLayered checked data = .ok c) :
    fill data = .ok c ∧ (checked = true → validate (.map data) = .ok ()) := by
  unfold loadLayered at h
  cases checked with
  | false => exact ⟨h, by simp⟩
  | true =>
    obtain ⟨_, hvalid, hfill⟩ := Except.bind_eq_ok.mp h
    exact ⟨hfill, fun _ => hvalid⟩

/-- What a configuration that was loaded from a JSON file with plain keys is filled with: the merged data. -/
theorem load_filled {path : Option String} {useEnvironment checked : Bool} {w w' : World} {c : Settings}
    (hjson : ∀ p, chosenFile path w = some p → isYamlName p = false)
    (hplain : ∀ file, ((fileData path).runIn w).1 = .ok file → PlainSections file)
    (h : (load path useEnvironment checked).runIn w = (.ok c, w')) :
    ∃ file, ((fileData path).runIn w).1 = .ok file ∧ Json.Document (.map file) ∧
      (checked = true → validate (.map (layered (consulted useEnvironment w) file)) = .ok ()) ∧
      c = .ofValues fun s => (boundIn (layered (consulted useEnvironment w) file) s).getD s.default := by
  obtain ⟨w₁, hread, _, _⟩ := runIn_fileData path w
  rw [hread] at hplain ⊢
  obtain ⟨file, hfile, hload⟩ := load_eq_ok (fun file hfile => (fileBindings_document hjson hfile).named) h
  have hdocument : Json.Document (.map file) := fileBindings_document hjson hfile
  obtain ⟨hfill, hvalid⟩ := loadLayered_eq_ok hload
  have hnamed := namedSections_layered hdocument (consulted useEnvironment w)
  have hplain := plainSections_layered hdocument (hplain file hfile) (consulted useEnvironment w)
  exact ⟨file, hfile, hdocument, hvalid, fill_eq_ok hnamed hplain hfill⟩

/-- A loaded configuration has for each setting what its own variable gives, else what the file binds its key to, else
its default. -/
theorem load_precedence {path : Option String} {useEnvironment checked : Bool} {w w' : World} {c : Settings}
    (hjson : ∀ p, chosenFile path w = some p → isYamlName p = false)
    (hplain : ∀ file, ((fileData path).runIn w).1 = .ok file → PlainSections file)
    (h : (load path useEnvironment checked).runIn w = (.ok c, w')) :
    ∃ file, ((fileData path).runIn w).1 = .ok file ∧
      c = .ofValues fun s =>
        ((s.fromVariable? (consulted useEnvironment w)).or (boundIn file s)).getD s.default := by
  obtain ⟨file, hfile, hdocument, _, hc⟩ := load_filled hjson hplain h
  refine ⟨file, hfile, hc.trans ?_⟩
  simp only [boundIn_layered hdocument.named]

/-- The file sets a line ending and the variables of two other settings a source and an encoding, while the variable of
the line ending does not fit. -/
theorem load_precedence_mixed :
    let w := { Bundler.smallWorld [(["c.json"], Bundler.textFile "\x7b\"rename\":\x7b\"line_ending\":\"lf\"\x7d\x7d")] with
      environment := [("BUNDLECXX_SYMBOL_SOURCE", "EXECUTABLE"), ("BUNDLECXX_ENCODING", "ascii"),
        ("BUNDLECXX_LINE_ENDING", "cr")] }
    ∃ file c w', ((fileData (some "c.json")).runIn w).1 = .ok file ∧
      (load (some "c.json") true true).runIn w = (.ok c, w') ∧
      c = (.ofValues fun s => ((s.fromVariable? w.environment).or (boundIn file s)).getD s.default) ∧
      [c.tools.symbolSource.held SymbolSourceKind.name, c.rename.encoding, c.rename.lineEnding].map Value.shown =
        ["executable", "ascii", "lf"] := by
  intro w
  have hpath : ∀ p, chosenFile (some "c.json") w = some p → isYamlName p = false :=
    not_yaml_of_given (by decide) (by decide) w
  obtain ⟨hsections, hshown⟩ :
      (((fileData (some "c.json")).runIn w).1.toOption.all fun file => PlainSections file) = true ∧
      ((load (some "c.json") true true).runIn w).1.toOption.map (fun c =>
        [c.tools.symbolSource.held SymbolSourceKind.name, c.rename.encoding, c.rename.lineEnding].map Value.shown) =
          some ["executable", "ascii", "lf"] := by
    decide +kernel
  have hplain := plainSections_of_read hsections
  obtain ⟨c, w', hrun, hread⟩ := Except.exists_of_map_toOption hshown
  obtain ⟨file, hfile, hc⟩ := load_precedence hpath hplain hrun
  exact ⟨file, c, w', hfile, hrun, hc, hread⟩

end Amalgam.Config
