import Amalgam.Symbols.Table
import Mathlib.Tactic.Common
/-!
# Grouping by file

Grouping is a stable partition: the groups are named by the distinct files in the order of their first entries, and each
holds exactly the entries of its file in their order. The plan of a table keeps the groups in which something is
renamed.
-/

namespace Amalgam.Symbols

open Amalgam.Number

/-- The file that an entry stands in, when its location can be read. -/
def Entry.file? (e : Entry) : Option String :=
  match e.location with
  | .ok location => some location.file
  | .error _ => none

def entriesIn (file : String) (entries : List Entry) : List Entry :=
  entries.filter fun e => e.file? = some file

variable {file : String} {e : Entry} {entries : List Entry} {groups : List (String × List Entry)}

theorem map_fst_addToGroup (file : String) (e : Entry) (groups : List (String × List Entry)) :
    (addToGroup file e groups).map Prod.fst =
      if file ∈ groups.map Prod.fst then groups.map Prod.fst else groups.map Prod.fst ++ [file] := by
  induction groups with
  | nil => simp [addToGroup]
  | cons group rest ih =>
    rw [addToGroup]
    by_cases hfile : group.1 = file
    · simp [hfile]
    · have hne : file ≠ group.1 := fun h => hfile h.symm
      simp only [hfile, if_false, List.map_cons, ih, List.mem_cons, hne, false_or]
      split_ifs <;> rfl

/-- A group after an entry is added is a group of another file, or the group of its file with the entry at its end. -/
theorem mem_addToGroup {group : String × List Entry} (hnodup : (groups.map Prod.fst).Nodup)
    (h : group ∈ addToGroup file e groups) :
    group.1 ≠ file ∧ group ∈ groups ∨ group.1 = file ∧ ∃ es, group.2 = es ++ [e] ∧
      ((file, es) ∈ groups ∨ es = [] ∧ file ∉ groups.map Prod.fst) := by
  induction groups with
  | nil =>
    rw [addToGroup, List.mem_singleton] at h
    exact Or.inr ⟨by rw [h], [], by simp [h], Or.inr ⟨rfl, by simp⟩⟩
  | cons first rest ih =>
    rw [addToGroup] at h
    rw [List.map_cons, List.nodup_cons] at hnodup
    by_cases hfile : first.1 = file
    · simp only [hfile, if_true, List.mem_cons] at h
      rcases h with rfl | h
      · refine Or.inr ⟨rfl, first.2, rfl, Or.inl ?_⟩
        rw [← hfile]
        exact List.mem_cons_self
      · refine Or.inl ⟨fun heq => hnodup.1 ?_, List.mem_cons_of_mem _ h⟩
        rw [hfile, ← heq]
        exact List.mem_map_of_mem h
    · simp only [hfile, if_false, List.mem_cons] at h
      rcases h with rfl | h
      · exact Or.inl ⟨hfile, List.mem_cons_self⟩
      · rcases ih hnodup.2 h with ⟨hne, hmem⟩ | ⟨heq, es, hes, hmem | ⟨hnil, hnot⟩⟩
        · exact Or.inl ⟨hne, List.mem_cons_of_mem _ hmem⟩
        · exact Or.inr ⟨heq, es, hes, Or.inl (List.mem_cons_of_mem _ hmem)⟩
        · refine Or.inr ⟨heq, es, hes, Or.inr ⟨hnil, ?_⟩⟩
          simpa [hnot] using fun h : file = first.1 => hfile h.symm

/-- The groups are the stable partition of the entries by file. -/
structure Grouped (entries : List Entry) (groups : List (String × List Entry)) : Prop where
  located : ∀ e ∈ entries, e.file?.isSome
  names : groups.map Prod.fst = (entries.filterMap Entry.file?).eraseDups
  nodup : (groups.map Prod.fst).Nodup
  members : ∀ group ∈ groups, group.2 = entriesIn group.1 entries

theorem Grouped.mem_names (h : Grouped entries groups) :
    file ∈ groups.map Prod.fst ↔ ∃ e ∈ entries, e.file? = some file := by
  rw [h.names, List.mem_eraseDups, List.mem_filterMap]

theorem entriesIn_snoc (file : String) (entries : List Entry) (e : Entry) :
    entriesIn file (entries ++ [e]) =
      if e.file? = some file then entriesIn file entries ++ [e] else entriesIn file entries := by
  by_cases h : e.file? = some file
  · simp [entriesIn, List.filter_append, h]
  · simp [entriesIn, List.filter_append, h]

theorem names_snoc (files : List String) (file : String) :
    (files ++ [file]).eraseDups = if file ∈ files.eraseDups then files.eraseDups else files.eraseDups ++ [file] := by
  rw [List.eraseDups_append]
  by_cases h : file ∈ files
  · simp [List.removeAll, h, List.mem_eraseDups]
  · simp [List.removeAll, h, List.mem_eraseDups, List.eraseDups_cons]

/-- Grouping one more entry. -/
theorem Grouped.snoc (h : Grouped entries groups) {location : Location} (hlocation : e.location = .ok location) :
    Grouped (entries ++ [e]) (addToGroup location.file e groups) := by
  have hfile : e.file? = some location.file := by rw [Entry.file?, hlocation]
  refine ⟨?_, ?_, ?_, ?_⟩
  · intro other hother
    rcases List.mem_append.mp hother with hother | hother
    · exact h.located other hother
    · rw [List.mem_singleton.mp hother, hfile]
      rfl
  · rw [map_fst_addToGroup, List.filterMap_append, h.names]
    simp only [List.filterMap_cons, hfile, List.filterMap_nil, names_snoc]
  · rw [map_fst_addToGroup]
    split_ifs with hmem
    · exact h.nodup
    · refine List.nodup_append.mpr ⟨h.nodup, by simp, ?_⟩
      rintro name hname _ hlast rfl
      exact hmem (List.mem_singleton.mp hlast ▸ hname)
  · intro group hgroup
    rw [entriesIn_snoc, hfile]
    rcases mem_addToGroup h.nodup hgroup with ⟨hne, hmem⟩ | ⟨heq, es, hes, hmem⟩
    · rw [if_neg fun hsame => hne (Option.some.inj hsame).symm, h.members group hmem]
    · rw [if_pos (congrArg some heq.symm), hes, heq]
      have hbefore : es = entriesIn location.file entries := by
        rcases hmem with hmem | ⟨rfl, hnot⟩
        · exact h.members _ hmem
        · symm
          rw [entriesIn, List.filter_eq_nil_iff]
          intro other hother hin
          exact hnot (h.mem_names.mpr ⟨other, hother, of_decide_eq_true hin⟩)
      rw [hbefore]

theorem grouped_of_foldlM {done : List Entry} (entries : List Entry) (h : Grouped done groups)
    {result : List (String × List Entry)}
    (hfold : (entries.foldlM (fun groups e => do
      let location ← e.location
      return addToGroup location.file e groups) groups : Except IntegerFault _) = .ok result) :
    Grouped (done ++ entries) result := by
  induction entries generalizing done groups with
  | nil =>
    cases hfold
    rwa [List.append_nil]
  | cons e rest ih =>
    rw [List.foldlM_cons] at hfold
    cases hlocation : e.location with
    | error fault =>
      rw [hlocation] at hfold
      cases hfold
    | ok location =>
      rw [hlocation] at hfold
      have hrest := ih (h.snoc hlocation) hfold
      rwa [List.append_assoc, List.singleton_append] at hrest

theorem grouped_groupByFile (h : groupByFile entries = .ok groups) : Grouped entries groups := by
  have hnil : Grouped [] [] := ⟨by simp, rfl, List.nodup_nil, by simp⟩
  simpa using grouped_of_foldlM entries hnil h

/-! ### Plans -/

/-- The files in which a table renames something, in the order of their first entries. -/
def renamedFiles (entries : List Entry) : List String :=
  (entries.filterMap Entry.file?).eraseDups.filter fun file => (entriesIn file entries).any Entry.hasRename

theorem Grouped.names_withRenames (h : Grouped entries groups) :
    (withRenames groups).map Prod.fst = renamedFiles entries := by
  have hany : ∀ group ∈ groups, group.2.any Entry.hasRename = (entriesIn group.1 entries).any Entry.hasRename :=
    fun group hgroup => by rw [h.members group hgroup]
  rw [renamedFiles, ← h.names, List.filter_map, withRenames, List.filter_congr hany]
  rfl

/-- The plan of a table, read off its entries. -/
def planOf (entries : List Entry) : List (String × List Entry) :=
  (renamedFiles entries).map fun file => (file, entriesIn file entries)

theorem map_fst_planOf (entries : List Entry) : (planOf entries).map Prod.fst = renamedFiles entries := by
  rw [planOf, List.map_map]
  exact List.map_id _

theorem Grouped.withRenames_eq (h : Grouped entries groups) : withRenames groups = planOf entries := by
  have hmembers : ∀ group ∈ withRenames groups, id group = (group.1, entriesIn group.1 entries) :=
    fun group hgroup => Prod.ext rfl (h.members group (List.mem_filter.mp hgroup).1)
  calc withRenames groups
      = (withRenames groups).map fun group => (group.1, entriesIn group.1 entries) := by
        rw [← List.map_congr_left hmembers, List.map_id]
    _ = planOf entries := by
        rw [planOf, ← h.names_withRenames, List.map_map]
        rfl

/-- The groups are those of the files in which something is renamed, each with all entries of its file. -/
structure IsPlan (entries : List Entry) (groups : List (String × List Entry)) : Prop where
  names : ∀ file, file ∈ groups.map Prod.fst ↔ ∃ e ∈ entries, e.file? = some file ∧ e.hasRename = true
  nodup : (groups.map Prod.fst).Nodup
  members : ∀ group ∈ groups, group.2 = entriesIn group.1 entries

theorem any_entriesIn : (entriesIn file entries).any Entry.hasRename = true ↔
    ∃ e ∈ entries, e.file? = some file ∧ e.hasRename = true := by
  simp [entriesIn, List.any_eq_true]

theorem Grouped.isPlan (h : Grouped entries groups) : IsPlan entries (withRenames groups) where
  names := by
    intro file
    rw [← any_entriesIn]
    constructor
    · intro hmem
      obtain ⟨group, hgroup, rfl⟩ := List.mem_map.mp hmem
      obtain ⟨hin, hany⟩ := List.mem_filter.mp hgroup
      rwa [← h.members group hin]
    · intro hany
      obtain ⟨e, he, hfile, _⟩ := any_entriesIn.mp hany
      obtain ⟨group, hgroup, rfl⟩ := List.mem_map.mp (h.mem_names.mpr ⟨e, he, hfile⟩)
      exact List.mem_map_of_mem (List.mem_filter.mpr ⟨hgroup, by rwa [h.members group hgroup]⟩)
  nodup := h.nodup.sublist (List.Sublist.map _ List.filter_sublist)
  members := fun group hgroup => h.members group (List.mem_filter.mp hgroup).1

theorem IsPlan.any_hasRename (h : IsPlan entries groups) {group : String × List Entry} (hgroup : group ∈ groups) :
    group.2.any Entry.hasRename = true := by
  rw [h.members group hgroup, any_entriesIn]
  exact (h.names group.1).mp (List.mem_map_of_mem hgroup)

theorem IsPlan.eq_nil (h : IsPlan entries groups) (hnone : ∀ e ∈ entries, e.hasRename = false) : groups = [] := by
  cases groups with
  | nil => rfl
  | cons group rest =>
    obtain ⟨e, he, _, hrename⟩ := (h.names group.1).mp (by simp)
    rw [hnone e he] at hrename
    cases hrename

end Amalgam.Symbols
