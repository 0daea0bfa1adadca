import Amalgam.FileSystem
import Amalgam.Backup
import Mathlib.Data.List.TakeWhile
import Mathlib.Tactic.Common
/-!
# Names in written paths

A path that was read from text has plain names: none is empty, none is a single point and none holds a slash. Such a
path is written by putting slashes between its names, and reading the names back gives the same list. The sibling of a
path differs from it only in what is written after the last name, so both begin at the same place and go through the
same folders; a suffix that holds a slash is the one case in which the sibling's last name is not a plain name.
-/

namespace Amalgam

open Amalgam.Text

theorem Text.pieces_eq_splitOn {α : Type} [DecidableEq α] (sep : α) (cs : List α) :
    pieces sep cs = cs.splitOn sep := by
  induction cs with
  | nil => rfl
  | cons c rest ih =>
    rw [pieces, ih, List.splitOn_cons_eq_if_modifyHead]
    by_cases hc : c = sep
    · simp [hc]
    · rw [if_neg hc, if_neg (by simpa using hc)]
      cases hr : rest.splitOn sep with
      | nil => exact absurd hr (List.splitOn_ne_nil sep rest)
      | cons p ps => rfl

theorem Text.not_mem_of_mem_splitOn {α : Type} [DecidableEq α] {sep : α} {cs piece : List α}
    (h : piece ∈ cs.splitOn sep) : sep ∉ piece := by
  induction cs generalizing piece with
  | nil => simp_all
  | cons c rest ih =>
    rw [List.splitOn_cons_eq_if_modifyHead] at h
    split at h
    · rcases List.mem_cons.mp h with rfl | h
      · simp
      · exact ih h
    · rename_i hc
      have hne : sep ≠ c := fun h => hc (by simp [h])
      cases hr : rest.splitOn sep with
      | nil => exact absurd hr (List.splitOn_ne_nil sep rest)
      | cons p ps =>
        rw [hr] at h ih
        rcases List.mem_cons.mp h with rfl | h
        · have hp := ih List.mem_cons_self
          simp [hp, hne]
        · exact ih (List.mem_cons_of_mem _ h)

theorem Text.mem_of_mem_pieces {α : Type} [DecidableEq α] {sep c : α} {cs piece : List α} (h : piece ∈ pieces sep cs)
    (hc : c ∈ piece) : c ∈ cs := by
  rw [pieces_eq_splitOn] at h
  induction cs generalizing piece with
  | nil => simp_all
  | cons d rest ih =>
    rw [List.splitOn_cons_eq_if_modifyHead] at h
    split at h
    · rcases List.mem_cons.mp h with rfl | h
      · cases hc
      · exact List.mem_cons_of_mem _ (ih h hc)
    · cases hr : rest.splitOn sep with
      | nil => exact absurd hr (List.splitOn_ne_nil sep rest)
      | cons p ps =>
        rw [hr] at h ih
        rcases List.mem_cons.mp h with rfl | h
        · rcases List.mem_cons.mp hc with rfl | hc
          · exact List.mem_cons_self
          · exact List.mem_cons_of_mem _ (ih List.mem_cons_self hc)
        · exact List.mem_cons_of_mem _ (ih (List.mem_cons_of_mem _ h) hc)

/-! ### Names -/

/-- The names that following a written path goes through, single points included. -/
def FileSystem.namesIn (cs : List Char) : List String :=
  ((pieces '/' cs).map String.ofList).filter (· != "")

namespace Path

open FileSystem

/-- A name that a path read from text can have. -/
structure IsName (s : String) : Prop where
  ne_empty : s ≠ ""
  ne_point : s ≠ "."
  no_slash : '/' ∉ s.toList

theorem IsName.append {name suffix : String} (h : IsName name) (hsuffix : '/' ∉ suffix.toList) :
    IsName (name ++ suffix) := by
  have hne := h.ne_empty
  refine ⟨by simp [hne], ?_, by simp [h.no_slash, hsuffix]⟩
  intro hpoint
  have hlist : name.toList ++ suffix.toList = ['.'] := by simpa using congrArg String.toList hpoint
  rcases List.append_eq_singleton_iff.mp hlist with ⟨hnil, _⟩ | ⟨hone, _⟩
  · exact hne (by simpa using hnil)
  · exact h.ne_point (String.ext hone)

theorem namesIn_append_slash (cs ds : List Char) : namesIn (cs ++ '/' :: ds) = namesIn cs ++ namesIn ds := by
  simp [namesIn, pieces_eq_splitOn, List.splitOn_append_cons_self]

theorem namesIn_slash (cs : List Char) : namesIn ('/' :: cs) = namesIn cs := by
  simp [namesIn, pieces]

theorem namesIn_name {s : String} (hs : IsName s) : namesIn s.toList = [s] := by
  simp [namesIn, pieces_eq_splitOn, List.splitOn_eq_singleton hs.no_slash, hs.ne_empty]

theorem namesIn_joined {folders : List String} (last : List Char) (h : ∀ s ∈ folders, IsName s) :
    namesIn (['/'].intercalate (folders.map String.toList ++ [last])) = folders ++ namesIn last := by
  induction folders with
  | nil => simp
  | cons s rest ih =>
    have hs := namesIn_name (h s List.mem_cons_self)
    have hrest := ih fun t ht => h t (List.mem_cons_of_mem _ ht)
    have hcat : ['/'].intercalate ((s :: rest).map String.toList ++ [last]) =
        s.toList ++ '/' :: ['/'].intercalate (rest.map String.toList ++ [last]) := by
      cases rest <;> simp
    rw [hcat, namesIn_append_slash, hs, hrest, List.singleton_append, List.cons_append]

theorem namesIn_rooted {root : String} (h : root ∈ ["", "/", "//"]) (cs : List Char) :
    namesIn (root.toList ++ cs) = namesIn cs := by
  simp only [List.mem_cons, List.not_mem_nil, or_false] at h
  rcases h with rfl | rfl | rfl
  · rfl
  · exact namesIn_slash cs
  · exact (namesIn_slash _).trans (namesIn_slash cs)

/-- Only slashes hold no names. -/
theorem eq_slash_of_namesIn_eq_nil {cs : List Char} (h : namesIn cs = []) : ∀ c ∈ cs, c = '/' := by
  induction cs with
  | nil => simp
  | cons c rest ih =>
    by_cases hc : c = '/'
    · rw [hc, namesIn_slash] at h
      simpa [hc] using ih h
    · simp only [namesIn, pieces, hc, if_false] at h
      split at h <;> simp at h

theorem partsOf_eq_filter (cs : List Char) : partsOf cs = (namesIn cs).filter (· != ".") := by
  simp only [partsOf, namesIn, List.filter_filter]
  congr 1
  funext s
  exact Bool.and_comm _ _

/-! ### Plain paths -/

/-- A path whose parts are plain names. -/
structure Plain (p : Path) : Prop where
  root_mem : p.root ∈ ["", "/", "//"]
  isName : ∀ s ∈ p.parts, IsName s

theorem plain_ofText (s : String) : (Path.ofText s).Plain := by
  constructor
  · simp only [ofText, rootOf]
    split <;> simp
  · intro part hpart
    simp only [ofText, partsOf, pieces_eq_splitOn, List.mem_filter, List.mem_map, Bool.and_eq_true,
      bne_iff_ne] at hpart
    obtain ⟨⟨piece, hpiece, rfl⟩, hne, hpoint⟩ := hpart
    exact ⟨hne, hpoint, by simpa using not_mem_of_mem_splitOn hpiece⟩

theorem plain_of_mem_ofText {names : List String} {p : Path} (h : p ∈ names.map Path.ofText) : p.Plain := by
  obtain ⟨name, _, rfl⟩ := List.mem_map.mp h
  exact plain_ofText name

theorem toList_text {p : Path} (h : p.parts ≠ []) :
    p.text.toList = p.root.toList ++ ['/'].intercalate (p.parts.map String.toList) := by
  simp [text, h, joined]

theorem dropLast_append_name {p : Path} (h : p.parts ≠ []) : p.parts.dropLast ++ [p.name] = p.parts := by
  have hname : p.name = p.parts.getLast h := by simp [name, List.getLast?_eq_some_getLast h]
  rw [hname, List.dropLast_concat_getLast]

theorem Plain.isName_name {p : Path} (hp : p.Plain) (h : p.parts ≠ []) : IsName p.name := by
  apply hp.isName
  rw [← dropLast_append_name h]
  simp

theorem Plain.name_ne_empty_iff {p : Path} (hp : p.Plain) : p.name ≠ "" ↔ p.parts ≠ [] := by
  constructor
  · intro hname hnil
    simp [name, hnil] at hname
  · exact fun h => (hp.isName_name h).ne_empty

theorem exists_text_eq_append_name {p : Path} (h : p.parts ≠ []) : ∃ front, p.text = front ++ p.name := by
  have htext : p.text = p.root ++ joined "/" (p.parts.dropLast ++ [p.name]) := by
    simp [text, h, dropLast_append_name h]
  by_cases hnil : p.parts.dropLast = []
  · exact ⟨p.root, by simp [htext, hnil, joined]⟩
  · refine ⟨p.root ++ joined "/" p.parts.dropLast ++ "/", ?_⟩
    simp [htext, joined, String.intercalate_append_of_ne_nil hnil, String.append_assoc]

theorem Plain.text_ne_empty {p : Path} (hp : p.Plain) (h : p.parts ≠ []) : p.text ≠ "" := by
  obtain ⟨front, hfront⟩ := exists_text_eq_append_name h
  simp [hfront, (hp.isName_name h).ne_empty]

theorem Plain.not_namesDirectory {p : Path} (hp : p.Plain) (h : p.parts ≠ []) : namesDirectory p.text = false := by
  have hlast := hp.isName_name h
  obtain ⟨front, hfront⟩ := exists_text_eq_append_name h
  have hne : p.name.toList ≠ [] := by simpa using hlast.ne_empty
  rw [namesDirectory, hfront, String.toList_append, List.getLast?_append, List.getLast?_eq_some_getLast hne]
  simp only [Option.some_or, Option.some.injEq, decide_eq_false_iff_not]
  intro hslash
  exact hlast.no_slash (hslash ▸ List.getLast_mem hne)

theorem withName_of_isName {p : Path} (hp : p.name ≠ "") {name : String} (h : IsName name) :
    p.withName name = .ok { p with parts := p.parts.dropLast ++ [name] } := by
  have hparts : partsOf name.toList = [name] := by
    rw [partsOf_eq_filter, namesIn_name h]
    simp [h.ne_point]
  have hroot : rootOf name.toList = "" := by
    have hnone : name.toList.takeWhile (· = '/') = [] := by
      rw [List.takeWhile_eq_nil_iff]
      intro hlt hslash
      exact h.no_slash (of_decide_eq_true hslash ▸ List.getElem_mem hlt)
    rw [rootOf, hnone]
    rfl
  have hlast : name.toList.getLast? ≠ some '/' := fun hslash => h.no_slash (List.mem_of_getLast? hslash)
  simp only [withName, hp, hparts, hroot, hlast]
  rfl

theorem mem_name_of_mem_splitName {p : Path} {c : Char} (h : c ∈ p.stem.toList ∨ c ∈ p.suffix.toList) :
    c ∈ p.name.toList := by
  simp only [stem, suffix, splitName] at h
  cases hsplit : splitLast '.' p.name.toList with
  | none => simpa [hsplit] using h
  | some halves =>
    obtain ⟨hcat, -⟩ := splitLast_eq_some (show splitLast '.' p.name.toList = some (halves.1, halves.2) from hsplit)
    simp only [hsplit] at h
    split_ifs at h
    · simpa using h
    · rw [hcat]
      simpa using h

/-! ### Siblings -/

/-- The path with something written after its last name. -/
def beside (p : Path) (suffix : String) : Path :=
  { p with parts := p.parts.dropLast ++ [p.name ++ suffix] }

theorem text_beside {p : Path} (h : p.parts ≠ []) (suffix : String) : (p.beside suffix).text = p.text ++ suffix := by
  have hjoined : ∀ folders : List String,
      joined "/" (folders ++ [p.name ++ suffix]) = joined "/" (folders ++ [p.name]) ++ suffix := by
    intro folders
    by_cases hnil : folders = []
    · simp [hnil, joined]
    · simp [joined, String.intercalate_append_of_ne_nil hnil, String.append_assoc]
  have hparts : (p.beside suffix).parts ≠ [] := by simp [beside]
  simp only [text, hparts, h, and_false, if_false]
  simp only [beside]
  rw [hjoined, dropLast_append_name h, String.append_assoc]

theorem name_beside (p : Path) (suffix : String) : (p.beside suffix).name = p.name ++ suffix := by
  simp [beside, name]

theorem Plain.beside {p : Path} (hp : p.Plain) (h : p.parts ≠ []) {suffix : String} (hsuffix : '/' ∉ suffix.toList) :
    (p.beside suffix).Plain := by
  refine ⟨hp.root_mem, ?_⟩
  intro s hs
  rcases List.mem_append.mp hs with hs | hs
  · exact hp.isName s (List.dropLast_subset _ hs)
  · rw [List.mem_singleton.mp hs]
    exact (hp.isName_name h).append hsuffix

theorem namesIn_beside {p : Path} (hp : p.Plain) (suffix : String) :
    namesIn (p.beside suffix).text.toList = p.parts.dropLast ++ namesIn (p.name ++ suffix).toList := by
  have hfolders : ∀ s ∈ p.parts.dropLast, IsName s := fun s hs => hp.isName s (List.dropLast_subset _ hs)
  rw [toList_text (by simp [Path.beside]), Path.beside, namesIn_rooted hp.root_mem, List.map_append]
  exact namesIn_joined _ hfolders

end Path

namespace Backup

open FileSystem Amalgam.Path

theorem siblingPath_eq_ok {suffix : Value} {p s : Path} (h : siblingPath suffix p = .ok s) :
    ∃ text, suffix = .text text ∧ s = p.beside text ∧ p.name ≠ "" := by
  cases suffix with
  | text t =>
    refine ⟨t, rfl, ?_⟩
    simp only [siblingPath, withName] at h
    split at h
    · simp [Except.mapError] at h
    · rename_i hname
      split at h
      · simp [Except.mapError] at h
      · simp only [Except.mapError, Except.ok.injEq] at h
        exact ⟨h.symm, hname⟩
  | _ => simp [siblingPath] at h

/-- With a suffix that holds no slash every named path has a sibling. -/
theorem siblingPath_text {p : Path} (hp : p.Plain) (h : p.parts ≠ []) {suffix : String}
    (hsuffix : '/' ∉ suffix.toList) : siblingPath (.text suffix) p = .ok (p.beside suffix) := by
  rw [siblingPath, withName_of_isName (hp.isName_name h).ne_empty ((hp.isName_name h).append hsuffix)]
  rfl

/-- After a suffix that holds a slash only single points may follow, so such a sibling is looked for inside what its
first name leads to. -/
theorem namesIn_of_siblingPath {p s : Path} (hp : p.Plain) {suffix : String} (h : siblingPath (.text suffix) p = .ok s)
    (hslash : '/' ∈ suffix.toList) :
    ∃ first points, namesIn (p.name ++ suffix).toList = first :: points ∧ points ≠ [] ∧ ∀ n ∈ points, n = "." := by
  have hparts : p.parts ≠ [] := by
    obtain ⟨_, _, _, hname⟩ := siblingPath_eq_ok h
    exact hp.name_ne_empty_iff.mp hname
  obtain ⟨front, back, hcat, hfront⟩ := List.eq_append_cons_of_mem hslash
  have hname : IsName (p.name ++ String.ofList front) := (hp.isName_name hparts).append (by simpa using hfront)
  have hnames : namesIn (p.name ++ suffix).toList = (p.name ++ String.ofList front) :: namesIn back := by
    rw [String.toList_append, hcat, ← List.append_assoc, namesIn_append_slash]
    have hone := namesIn_name hname
    rw [String.toList_append, String.toList_ofList] at hone
    rw [hone, List.singleton_append]
  simp only [siblingPath, withName] at h
  split at h
  · simp [Except.mapError] at h
  · split at h
    · simp [Except.mapError] at h
    · rename_i hvalid
      simp only [not_or, not_not] at hvalid
      obtain ⟨hlast, _, hone⟩ := hvalid
      refine ⟨_, _, hnames, ?_, ?_⟩
      · -- No names at all would mean that only slashes follow, and the last character is not one.
        intro hnil
        have hall := eq_slash_of_namesIn_eq_nil hnil
        apply hlast
        rw [String.toList_append, hcat, List.getLast?_append, List.getLast?_append]
        cases hback : back.getLast? with
        | none => simp [List.getLast?_cons, hback]
        | some c => simp [List.getLast?_cons, hback, hall c (List.mem_of_getLast? hback)]
      · rw [partsOf_eq_filter, hnames, List.filter_cons_of_pos (by simpa using hname.ne_point),
          List.length_cons] at hone
        have hnone : (namesIn back).filter (· != ".") = [] := List.length_eq_zero_iff.mp (by omega)
        intro n hn
        simpa using List.filter_eq_nil_iff.mp hnone n hn

end Backup

end Amalgam
