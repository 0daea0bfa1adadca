import Amalgam.Proofs.Config.Saved
import Amalgam.Proofs.Value.Equality
/-!
# The default configuration in both formats

The format of a file is chosen when it is written, and when it is read it is seen from the name. JSON is also read as
YAML, so the two agree unless YAML is written to a file whose name does not say so. For the default configuration both
sides can be computed: the texts, what the YAML reader makes of them, and why the JSON reader refuses the other one.
-/

namespace Amalgam.Config

open Amalgam.Text

/-! ### The data -/

def defaultData : Fields :=
  [(.text "tools", .map
      [(.text "list_symbols_path", .text "list-symbols"), (.text "amalgamate_command", .text "amalgamate"),
        (.text "libclang_path", .null), (.text "symbol_source", .text "libclang")]),
    (.text "rename", .map
      [(.text "backup_suffix", .text ".bak"), (.text "encoding", .text "utf-8"), (.text "line_ending", .text "native")]),
    (.text "bundle", .map
      [(.text "restore_policy", .text "always"), (.text "merge_timeout", .null),
        (.text "symbols_suffix", .text "_symbols.csv")])]

/-- The same mapping with all keys in alphabetical order. -/
def sortedDefaultData : Fields :=
  [(.text "bundle", .map
      [(.text "merge_timeout", .null), (.text "restore_policy", .text "always"),
        (.text "symbols_suffix", .text "_symbols.csv")]),
    (.text "rename", .map
      [(.text "backup_suffix", .text ".bak"), (.text "encoding", .text "utf-8"), (.text "line_ending", .text "native")]),
    (.text "tools", .map
      [(.text "amalgamate_command", .text "amalgamate"), (.text "libclang_path", .null),
        (.text "list_symbols_path", .text "list-symbols"), (.text "symbol_source", .text "libclang")])]

theorem dataOfValues_default : dataOfValues Setting.default = defaultData := rfl

theorem toValue_default : ({} : Settings).toValue = .ok (.map defaultData) := rfl

/-- The mapping has the default settings, in one of the two orders. -/
def IsDefault (data : Fields) : Prop :=
  data = defaultData ∨ data = sortedDefaultData

theorem IsDefault.named {data : Fields} (h : IsDefault data) : data.Named := by
  rcases h with rfl | rfl
  · exact dataOfValues_default ▸ named_dataOfValues Setting.default
  · exact ⟨by simp [sortedDefaultData], by simp [sortedDefaultData]⟩

/-- Both orders fill in to the defaults. -/
theorem IsDefault.loadLayered_eq {data : Fields} (h : IsDefault data) : loadLayered true data = .ok {} := by
  rcases h with rfl | rfl <;> rfl

theorem sorted_defaultData : Yaml.sorted (.map defaultData) = .map sortedDefaultData := by
  simp only [defaultData, Yaml.sorted, Yaml.sortedPairs, Yaml.sortedFields, List.all_cons, List.all_nil,
    Option.isSome_some, Bool.and_self, if_true, List.mergeSort, List.MergeSort.Internal.splitInTwo, List.splitAt_eq,
    List.length_cons, List.length_nil, Nat.reduceAdd, Nat.reduceDiv, List.take_succ_cons, List.take_zero,
    List.drop_succ_cons, List.drop_zero]
  -- now the keys are compared, pair by pair
  simp only [Option.getD_some, String.reduceLT, decide_true, Bool.not_true, Bool.false_eq_true, not_false_eq_true,
    List.cons_merge_cons_neg, List.merge_right, decide_false, Bool.not_false, List.cons_merge_cons_pos, List.nil_merge,
    sortedDefaultData]

/-! ### The texts -/

/-- Lines without a line end behind the last one. -/
def joinedLines (lines : List String) : List Char :=
  ['\n'].intercalate (lines.map String.toList)

def defaultJson : List Char :=
  joinedLines
    ["\x7b",
     "  \"tools\": \x7b",
     "    \"list_symbols_path\": \"list-symbols\",",
     "    \"amalgamate_command\": \"amalgamate\",",
     "    \"libclang_path\": null,",
     "    \"symbol_source\": \"libclang\"",
     "  \x7d,",
     "  \"rename\": \x7b",
     "    \"backup_suffix\": \".bak\",",
     "    \"encoding\": \"utf-8\",",
     "    \"line_ending\": \"native\"",
     "  \x7d,",
     "  \"bundle\": \x7b",
     "    \"restore_policy\": \"always\",",
     "    \"merge_timeout\": null,",
     "    \"symbols_suffix\": \"_symbols.csv\"",
     "  \x7d",
     "\x7d"]

def defaultYaml : List Char :=
  joinedLines
    ["bundle:",
     "  merge_timeout: null",
     "  restore_policy: always",
     "  symbols_suffix: _symbols.csv",
     "rename:",
     "  backup_suffix: .bak",
     "  encoding: utf-8",
     "  line_ending: native",
     "tools:",
     "  amalgamate_command: amalgamate",
     "  libclang_path: null",
     "  list_symbols_path: list-symbols",
     "  symbol_source: libclang",
     ""]

theorem write_defaultJson : Json.write .standard (.map defaultData) = .ok (String.ofList defaultJson) := by
  -- the joints are opened by rewriting, which leaves one comparison of characters to compute
  simp only [defaultData, Json.write, Json.render, Json.renderFields, Json.keyText, List.isEmpty_cons,
    Bool.false_eq_true, if_false, Except.ok_bind, pure, Except.pure, Except.ok.injEq, joined, ← String.toList_inj,
    String.toList_append, String.toList_intercalate, List.map_cons, List.map_nil, Json.newline, repeated,
    Json.quotedText, String.toList_ofList]
  decide +kernel

theorem write_defaultYaml : Yaml.write defaultData = String.ofList defaultYaml := by
  rw [Yaml.write, sorted_defaultData]
  refine congrArg String.ofList ?_
  decide +kernel

/-- JSON is YAML in flow style. -/
theorem load_defaultJson : '\r' ∉ defaultJson ∧ Yaml.load defaultJson = .ok (.map defaultData) := by
  decide +kernel

theorem load_defaultYaml : '\r' ∉ defaultYaml ∧ Yaml.load defaultYaml = .ok (.map sortedDefaultData) := by
  decide +kernel

theorem parse_defaultJson : Json.parse (String.ofList defaultJson) = .ok (.map defaultData) := by
  have hsavable := savable_dataOfValues savable_default
  have hcopied : ∀ s : Setting, s.default.canBeCopied = true := fun s => by cases s <;> decide
  obtain ⟨text, htext, _, hparse⟩ :=
    Json.parse_write hsavable.sayable ⟨hsavable.document, within_dataOfValues hcopied⟩ .standard
  rw [dataOfValues_default, write_defaultJson] at htext
  rw [Except.ok.inj htext, hparse, dataOfValues_default]

/-- No JSON value begins with a letter that begins none of its words. -/
theorem parse_defaultYaml :
    Json.parse (String.ofList defaultYaml) = .error (.malformed .expectingValue defaultYaml) := by
  obtain ⟨rest, hrest⟩ : ∃ rest, defaultYaml = 'b' :: rest := List.head?_eq_some_iff.mp (by decide +kernel)
  rw [Json.parse, String.toList_ofList, hrest]
  rfl

/-! ### Saving and loading -/

/-- The formats in which a configuration can be created. -/
def formats : List String := ["json", "yaml"]

theorem mem_formats {format : String} : format ∈ formats ↔ format = "json" ∨ format = "yaml" := by
  simp [formats]

/-- The reader takes a file with that name for something that is written in the format. -/
def FitsName (format path : String) : Prop :=
  format = "yaml" → isYamlName path = true

instance (format path : String) : Decidable (FitsName format path) :=
  inferInstanceAs (Decidable (_ → _))

def defaultText (format : String) : List Char :=
  if format = "yaml" then defaultYaml else defaultJson

section Loading

variable {format p : String}

theorem formatSettings_default (hformat : format ∈ formats) :
    formatSettings format (.map defaultData) = .ok (String.ofList (defaultText format)) := by
  rcases mem_formats.mp hformat with rfl | rfl
  · exact formatSettings_json write_defaultJson
  · rw [formatSettings, if_pos (by decide), write_defaultYaml]
    rfl

theorem defaultText_no_return (format : String) : '\r' ∉ defaultText format := by
  unfold defaultText
  split
  · exact load_defaultYaml.1
  · exact load_defaultJson.1

/-- A file with a fitting name is read as the default configuration, perhaps in another order. -/
theorem parseFile_default (hformat : format ∈ formats) (hfits : FitsName format p) :
    ∃ data, parseFile p (defaultText format) = .ok (.map data) ∧ IsDefault data := by
  rcases mem_formats.mp hformat with rfl | rfl
  · refine ⟨defaultData, ?_, .inl rfl⟩
    cases hname : isYamlName p with
    | true => rw [parseFile, hname, if_pos rfl, defaultText, if_neg (by decide), load_defaultJson.2]; rfl
    | false =>
      have hparse := parseFile_json hname parse_defaultJson
      rwa [String.toList_ofList] at hparse
  · refine ⟨sortedDefaultData, ?_, .inr rfl⟩
    rw [parseFile, hfits rfl, if_pos rfl, defaultText, if_pos rfl, load_defaultYaml.2]
    rfl

theorem parseFile_default_misfit (hmisfit : ¬ FitsName format p) :
    ∃ failure, parseFile p (defaultText format) = .error failure ∧ failure.family = .configuration := by
  obtain ⟨rfl, hname⟩ : format = "yaml" ∧ ¬ isYamlName p = true := Classical.not_imp.mp hmisfit
  rw [parseFile, if_neg hname, defaultText, if_pos rfl, parse_defaultYaml]
  exact ⟨_, rfl, rfl⟩

/-- What was saved is read back as the name of the file says. -/
theorem readFields_default {w saved : World} (hformat : format ∈ formats)
    (hsave : (save {} p format).runIn w = (.ok (), saved)) :
    p ≠ "" ∧ readFields p saved.files = parseFile p (defaultText format) >>= mappingOf := by
  obtain ⟨v, text, route, hvalue, htext, hwritable⟩ := of_runIn_save hsave
  obtain rfl : .map defaultData = v := Except.ok.inj (toValue_default.symm.trans hvalue)
  obtain rfl : String.ofList (defaultText format) = text :=
    Except.ok.inj ((formatSettings_default hformat).symm.trans htext)
  rw [runIn_save hvalue htext hwritable, Prod.mk.injEq] at hsave
  have hread : saved.files.read p = .ok (utf8Encoded (glyphs (String.ofList (defaultText format)))) := by
    rw [← hsave.2]
    exact FileSystem.read_putBytes hwritable _
  have hclean : '\r' ∉ (String.ofList (defaultText format)).toList := by
    rw [String.toList_ofList]
    exact defaultText_no_return format
  have hfields := readFields_text hread hclean
  rw [String.toList_ofList] at hfields
  exact ⟨ne_empty_of_writable hwritable, hfields⟩

/-- The default configuration is loaded from the file that it was saved to if the name fits the format, and if not, the
file is refused. -/
theorem load_saved_default {w saved left : World} (hformat : format ∈ formats)
    (hsave : (save {} p format).runIn w = (.ok (), saved)) (hleft : left.files = saved.files) :
    (FitsName format p → ((load (some p) false true).runIn left).1 = .ok {}) ∧
      (¬ FitsName format p → ∃ failure, ((load (some p) false true).runIn left).1 = .error failure ∧
        failure.family = .configuration) := by
  obtain ⟨hp, hfields⟩ := readFields_default hformat hsave
  rw [← hleft] at hfields
  constructor
  · intro hfits
    obtain ⟨data, hparse, hdata⟩ := parseFile_default hformat hfits
    rw [hparse] at hfields
    have hnamed : ∀ file, readFields p left.files = .ok file → file.Named := by
      intro file hfile
      obtain rfl := Except.ok.inj (hfields.symm.trans hfile)
      exact hdata.named
    rw [load_given hp hnamed, hfields]
    exact hdata.loadLayered_eq
  · intro hmisfit
    obtain ⟨failure, hparse, hfamily⟩ := parseFile_default_misfit hmisfit
    have hrefused : readFields p left.files = .error failure := by rw [hfields, hparse]; rfl
    refine ⟨failure, ?_, hfamily⟩
    have hnamed : ∀ file, readFields p left.files = .ok file → file.Named := by simp [hrefused]
    rw [load_given hp hnamed, hrefused]
    rfl

end Loading

end Amalgam.Config
