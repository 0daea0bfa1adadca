import Amalgam.Proofs.Bundle.Session
import Amalgam.Proofs.Symbols.File
import Amalgam.Proofs.Symbols.Grouping
import Amalgam.Proofs.Symbols.Location
import Amalgam.Proofs.Value.Result
import Mathlib.Data.List.Nodup
/-!
# Groups as a partition

A grouping is determined by its entries: its groups are named by their files in the order in which these are first seen,
and each holds all entries of its file. So the groups have nothing in common, together they are the entries again in
another order, and what they are together falls into the same groups. A plan leaves out groups, and never entries of a
group.
-/

namespace Amalgam.Symbols

variable {e : Entry} {entries : List Entry} {file : String} {group : String × List Entry}
  {groups groups' : List (String × List Entry)}

/-- The files of entries, in the order in which they are first seen. -/
def filesOf (entries : List Entry) : List String :=
  (entries.filterMap Entry.file?).eraseDups

theorem file?_eq_some_iff : e.file? = some file ↔ ∃ line, e.location = .ok ⟨file, line⟩ := by
  unfold Entry.file?
  cases e.location with
  | ok location => exact ⟨fun h => ⟨location.line, by rw [← Option.some.inj h]⟩, fun ⟨_, h⟩ => by cases h; rfl⟩
  | error fault => simp

/-! ### What is in a group -/

theorem mem_entriesIn : e ∈ entriesIn file entries ↔ e ∈ entries ∧ e.file? = some file := by
  simp [entriesIn]

theorem Grouped.mem_group (h : Grouped entries groups) (hgroup : group ∈ groups) :
    e ∈ group.2 ↔ e ∈ entries ∧ e.file? = some group.1 := by
  rw [h.members group hgroup, mem_entriesIn]

theorem Grouped.ne_nil (h : Grouped entries groups) (hgroup : group ∈ groups) : group.2 ≠ [] := by
  obtain ⟨e, he, hfile⟩ := h.mem_names.mp (List.mem_map_of_mem hgroup)
  exact List.ne_nil_of_mem ((h.mem_group hgroup).mpr ⟨he, hfile⟩)

/-- Entries fall into groups in one way only. -/
theorem Grouped.eq_map (h : Grouped entries groups) :
    groups = (filesOf entries).map fun file => (file, entriesIn file entries) := by
  have hmembers : ∀ group ∈ groups, id group = (group.1, entriesIn group.1 entries) :=
    fun group hgroup => Prod.ext rfl (h.members group hgroup)
  calc groups
      = groups.map fun group => (group.1, entriesIn group.1 entries) := by
        rw [← List.map_congr_left hmembers, List.map_id]
    _ = (filesOf entries).map fun file => (file, entriesIn file entries) := by
        rw [filesOf, ← h.names, List.map_map]
        rfl

theorem Grouped.groupByFile_eq (h : Grouped entries groups) : groupByFile entries = .ok groups := by
  have hlocatable : ∀ e ∈ entries, Locatable e.filenameLine := by
    intro e he
    obtain ⟨file, hfile⟩ := Option.isSome_iff_exists.mp (h.located e he)
    obtain ⟨line, hlocation⟩ := file?_eq_some_iff.mp hfile
    exact (parse_returns_iff e.filenameLine).mp ⟨_, hlocation⟩
  obtain ⟨groups', hgroups⟩ := (groupByFile_returns_iff entries).mpr hlocatable
  rw [hgroups, (grouped_groupByFile hgroups).eq_map, h.eq_map]

theorem Grouped.disjoint (h : Grouped entries groups) : groups.Pairwise fun g g' => g.2.Disjoint g'.2 := by
  have hnames : groups.Pairwise fun g g' => g.1 ≠ g'.1 := List.pairwise_map.mp h.nodup
  refine hnames.imp_of_mem fun hg hg' hne e he he' => hne ?_
  have hfile := ((h.mem_group hg).mp he).2
  have hfile' := ((h.mem_group hg').mp he').2
  exact Option.some.inj (hfile.symm.trans hfile')

/-! ### Groups one after the other -/

/-- The entries of different files, file by file, are all entries if each entry is in one of the files. -/
theorem flatMap_entriesIn_perm {files : List String} (hnodup : files.Nodup)
    (hin : ∀ e ∈ entries, ∃ file ∈ files, e.file? = some file) :
    (files.flatMap fun file => entriesIn file entries).Perm entries := by
  induction files generalizing entries with
  | nil =>
    have hnone : entries = [] := List.eq_nil_iff_forall_not_mem.mpr fun e he => by simpa using hin e he
    simp [hnone]
  | cons file rest ih =>
    obtain ⟨hfresh, hnodup⟩ := List.nodup_cons.mp hnodup
    -- The other files do not see the entries of the first one.
    let others := entries.filter fun e => !decide (e.file? = some file)
    have hothers : ∀ other ∈ rest, entriesIn other entries = entriesIn other others := by
      intro other hother
      simp only [entriesIn, others, List.filter_filter]
      refine List.filter_congr fun e _ => ?_
      by_cases hfile : e.file? = some other
      · have hne : other ≠ file := fun heq => hfresh (heq ▸ hother)
        simp [hfile, hne]
      · simp [hfile]
    have hrest : ∀ e ∈ others, ∃ other ∈ rest, e.file? = some other := by
      intro e he
      obtain ⟨he, hnot⟩ := List.mem_filter.mp he
      obtain ⟨other, hother, hfile⟩ := hin e he
      rcases List.mem_cons.mp hother with rfl | hother
      · simp [hfile] at hnot
      · exact ⟨other, hother, hfile⟩
    rw [List.flatMap_cons, List.flatMap_congr hothers]
    exact ((ih hnodup hrest).append_left _).trans (List.filter_append_perm _ entries)

theorem Grouped.perm (h : Grouped entries groups) : (groups.flatMap Prod.snd).Perm entries := by
  have hin : ∀ e ∈ entries, ∃ file ∈ groups.map Prod.fst, e.file? = some file := by
    intro e he
    obtain ⟨file, hfile⟩ := Option.isSome_iff_exists.mp (h.located e he)
    exact ⟨file, h.mem_names.mpr ⟨e, he, hfile⟩, hfile⟩
  have hperm := flatMap_entriesIn_perm h.nodup hin
  rwa [List.flatMap_map, ← List.flatMap_congr h.members] at hperm

theorem eraseDups_replicate {n : Nat} (hn : n ≠ 0) (file : String) : (List.replicate n file).eraseDups = [file] := by
  cases n with
  | zero => exact absurd rfl hn
  | succ n => simp [List.replicate_succ, List.eraseDups_cons]

/-- Entries of one new file make one more group. -/
theorem Grouped.append (h : Grouped entries groups) (hfresh : group.1 ∉ groups.map Prod.fst) (hne : group.2 ≠ [])
    (hfile : ∀ e ∈ group.2, e.file? = some group.1) : Grouped (entries ++ group.2) (groups ++ [group]) := by
  have hnone : ∀ e ∈ entries, e.file? ≠ some group.1 := fun e he hsame => hfresh (h.mem_names.mpr ⟨e, he, hsame⟩)
  have hfiles : group.2.filterMap Entry.file? = List.replicate group.2.length group.1 := by
    have hconst : (fun _ : Entry => some group.1) = some ∘ fun _ => group.1 := rfl
    rw [List.filterMap_congr hfile, hconst, List.filterMap_eq_map, List.map_const']
  have hnew : (List.replicate group.2.length group.1).removeAll (entries.filterMap Entry.file?) =
      List.replicate group.2.length group.1 := by
    refine List.filter_eq_self.mpr fun name hname => ?_
    rw [List.eq_of_mem_replicate hname]
    simpa using hnone
  refine ⟨?_, ?_, ?_, ?_⟩
  · intro e he
    rcases List.mem_append.mp he with he | he
    · exact h.located e he
    · rw [hfile e he]
      rfl
  · have hlength : group.2.length ≠ 0 := fun hzero => hne (List.length_eq_zero_iff.mp hzero)
    rw [List.filterMap_append, List.eraseDups_append, hfiles, hnew, eraseDups_replicate hlength, ← h.names,
      List.map_append]
    rfl
  · rw [List.map_append]
    exact List.nodup_append.mpr ⟨h.nodup, List.nodup_singleton _, fun name hname _ hlast heq =>
      hfresh (List.mem_singleton.mp hlast ▸ heq ▸ hname)⟩
  · intro other hother
    rw [entriesIn, List.filter_append]
    rcases List.mem_append.mp hother with hother | hother
    · have hnil : group.2.filter (fun e => e.file? = some other.1) = [] := by
        refine List.filter_eq_nil_iff.mpr fun e he => ?_
        have hne : group.1 ≠ other.1 := fun heq => hfresh (heq ▸ List.mem_map_of_mem hother)
        simp [hfile e he, hne]
      rw [hnil, List.append_nil]
      exact h.members other hother
    · rw [List.mem_singleton.mp hother]
      have hnil : entries.filter (fun e => e.file? = some group.1) = [] :=
        List.filter_eq_nil_iff.mpr fun e he => by simpa using hnone e he
      have hall : group.2.filter (fun e => e.file? = some group.1) = group.2 :=
        List.filter_eq_self.mpr fun e he => by simpa using hfile e he
      rw [hnil, hall, List.nil_append]

theorem Grouped.append_all {rest : List (String × List Entry)} (h : Grouped entries groups)
    (hnodup : ((groups ++ rest).map Prod.fst).Nodup) (hne : ∀ group ∈ rest, group.2 ≠ [])
    (hfile : ∀ group ∈ rest, ∀ e ∈ group.2, e.file? = some group.1) :
    Grouped (entries ++ rest.flatMap Prod.snd) (groups ++ rest) := by
  induction rest generalizing entries groups with
  | nil => simpa using h
  | cons group rest ih =>
    rw [List.forall_mem_cons] at hne hfile
    have hfresh : group.1 ∉ groups.map Prod.fst := by
      rw [List.map_append, List.map_cons] at hnodup
      exact fun hmem => (List.nodup_append.mp hnodup).2.2 _ hmem _ List.mem_cons_self rfl
    have hnext := ih (h.append hfresh hne.1 hfile.1) (by simpa using hnodup) hne.2 hfile.2
    simpa using hnext

/-- What the groups are together falls into the same groups. -/
theorem Grouped.regrouped (h : Grouped entries groups) : Grouped (groups.flatMap Prod.snd) groups := by
  have hnil : Grouped [] [] := ⟨by simp, rfl, List.nodup_nil, by simp⟩
  have hnodup : (([] ++ groups).map Prod.fst).Nodup := h.nodup
  have hall := hnil.append_all hnodup (fun group hgroup => h.ne_nil hgroup)
    fun group hgroup e he => ((h.mem_group hgroup).mp he).2
  simpa using hall

/-! ### Plans -/

theorem plan_of_readTable {b : Bundler} {table : String} {w : World}
    (hread : ((readTable table b.settings.rename.encoding).runIn w).1 = .ok entries)
    (hgroups : groupByFile entries = .ok groups) : ((b.plan table).runIn w).1 = .ok (withRenames groups) := by
  rw [Bundler.plan, Action.runIn_bind_ok (Prod.ext hread rfl), Action.runIn_bind_ok (Action.runIn_log _ _ _ _), hgroups]
  rfl

/-- Entries with readable locations fall into the groups of their files, named in the order in which these are first
seen, each with all entries of its file in their order. The groups have nothing in common, are the entries again when
they are put together, and are found again in what they are together. The plan of a table with these entries has the
groups in which something is renamed, and has them whole. -/
theorem groups_partition (h : ∀ e ∈ entries, ∃ location, e.location = .ok location) :
    ∃ groups, groupByFile entries = .ok groups ∧
      groups = ((filesOf entries).map fun file => (file, entriesIn file entries)) ∧
      (groups.Pairwise fun g g' => g.2.Disjoint g'.2) ∧ (groups.flatMap Prod.snd).Perm entries ∧
      groupByFile (groups.flatMap Prod.snd) = .ok groups ∧
      ∀ (b : Bundler) (table : String) (w : World),
        ((readTable table b.settings.rename.encoding).runIn w).1 = .ok entries →
        ∃ plan, ((b.plan table).runIn w).1 = .ok plan ∧ plan.Sublist groups ∧
          ∀ group ∈ groups, group ∈ plan ↔ ∃ e ∈ group.2, e.hasRename = true := by
  have hlocatable : ∀ e ∈ entries, Locatable e.filenameLine := fun e he => (parse_returns_iff _).mp (h e he)
  obtain ⟨groups, hgroups⟩ := (groupByFile_returns_iff entries).mpr hlocatable
  have hgrouped := grouped_groupByFile hgroups
  refine ⟨groups, hgroups, hgrouped.eq_map, hgrouped.disjoint, hgrouped.perm, hgrouped.regrouped.groupByFile_eq, ?_⟩
  intro b table w hread
  refine ⟨withRenames groups, plan_of_readTable hread hgroups, List.filter_sublist, fun group hgroup => ?_⟩
  simp [withRenames, hgroup, List.any_eq_true]

/-- Colons and a blank in a file name, blanks around a location, a location without a number, and files that take turns. -/
theorem groups_partition_scattered :
    let entries : List Entry := [⟨"a b:c.h:1", "FUNCTION_DECL:f()", some "g"⟩, ⟨" x.c:2 ", "VAR_DECL:v", some ""⟩,
      ⟨"a b:c.h:7", "VAR_DECL:w", some ""⟩, ⟨"x.c", "", some ""⟩]
    let b := Bundler.smallBundler .always fun _ _ _ => pure ()
    let w := Bundler.smallWorld [(["t.csv"], Bundler.tableFile
      "a b:c.h:1,FUNCTION_DECL:f(),g\n x.c:2 ,VAR_DECL:v,\na b:c.h:7,VAR_DECL:w,\nx.c\n")]
    (∀ e ∈ entries, ∃ location, e.location = .ok location) ∧
    ((readTable "t.csv" b.settings.rename.encoding).runIn w).1 = .ok entries ∧
    ∃ groups plan, groupByFile entries = .ok groups ∧ groups.map Prod.fst = ["a b:c.h", "x.c"] ∧
      (groups.flatMap Prod.snd).Perm entries ∧ groupByFile (groups.flatMap Prod.snd) = .ok groups ∧
      ((b.plan "t.csv").runIn w).1 = .ok plan ∧ plan.Sublist groups ∧ plan.map Prod.fst = ["a b:c.h"] := by
  intro entries b w
  have hlocated : ∀ e ∈ entries, ∃ location, e.location = .ok location := by decide
  have hread : ((readTable "t.csv" b.settings.rename.encoding).runIn w).1 = .ok entries := by
    have hpath : (Path.ofText "t.csv").text = "t.csv" := by decide +kernel
    obtain ⟨text, hfile, hreturn, hmark, hparse⟩ : ∃ text, w.files.read (Path.ofText "t.csv").text =
        .ok (Text.utf8Encoded (Text.glyphs text)) ∧ '\r' ∉ text.toList ∧
        text.toList.dropWhile (· = '\ufeff') = text.toList ∧ parse text = .ok entries :=
      ⟨_, by rw [hpath]; rfl, by decide +kernel⟩
    obtain ⟨_, hrun⟩ := runIn_readTable_text hfile hreturn hmark hparse
    exact congrArg Prod.fst hrun
  obtain ⟨groups, hgroups, heq, _, hperm, hregrouped, hplans⟩ := groups_partition hlocated
  obtain ⟨plan, hplan, hsub, _⟩ := hplans b "t.csv" w hread
  have hnames : groups.map Prod.fst = ["a b:c.h", "x.c"] := by
    rw [heq]
    decide
  obtain rfl : plan = withRenames groups := Except.ok.inj (hplan.symm.trans (plan_of_readTable hread hgroups))
  have hplanned : (withRenames groups).map Prod.fst = ["a b:c.h"] := by
    rw [heq]
    decide
  exact ⟨hlocated, hread, groups, _, hgroups, hnames, hperm, hregrouped, hplan, hsub, hplanned⟩

end Amalgam.Symbols
