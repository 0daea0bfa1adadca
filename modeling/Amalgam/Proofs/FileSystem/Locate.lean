import Amalgam.Proofs.Path.Names
/-!
# Where paths lead

Following a path succeeds only through directories, so the route it ends at depends on the files through nothing but
the working directory and the set of directories. The last name of a plain path is looked up in one folder, and the
path's sibling is looked up in the same folder: `locate_beside` says so once, for the path itself and for its sibling,
and it makes two siblings with the same place siblings of the same file.
-/

namespace Amalgam

open Amalgam.Text

namespace FileSystem

/-! ### Following names -/

theorem follow_append (fs : FileSystem) (path : String) (route : Route) (xs ys : List String) :
    fs.follow path route (xs ++ ys) = (fs.follow path route xs).bind fun r => fs.follow path r ys := by
  induction xs generalizing route with
  | nil => rfl
  | cons name rest ih =>
    simp only [List.cons_append, follow]
    split
    · rfl
    · rfl
    · split_ifs
      · rfl
      · exact ih _
      · exact ih _
      · exact ih _

/-- The place that a name leads to from a directory. -/
def entry (folder : Route) (name : String) : Route :=
  if name = "." then folder else if name = ".." then folder.dropLast else folder ++ [name]

theorem follow_cons_ok {fs : FileSystem} {path : String} {route r : Route} {name : String} {rest : List String} :
    fs.follow path route (name :: rest) = .ok r ↔
      fs.node? route = some .directory ∧ name.utf8ByteSize ≤ 255 ∧
        fs.follow path (entry route name) rest = .ok r := by
  rw [follow]
  cases hnode : fs.node? route with
  | none => simp
  | some node =>
    cases node with
    | file bytes executable => simp
    | directory =>
      by_cases hlong : 255 < name.utf8ByteSize
      · simp only [hlong, if_true, reduceCtorEq, true_and, false_iff]
        omega
      · have hshort : name.utf8ByteSize ≤ 255 := by omega
        simp only [hlong, if_false, true_and, hshort, entry]
        split_ifs <;> rfl

/-- The text of a path stands in the faults of following it only. -/
theorem follow_ok_congr {fs : FileSystem} {path : String} (other : String) {route r : Route} {names : List String}
    (h : fs.follow path route names = .ok r) : fs.follow other route names = .ok r := by
  induction names generalizing route with
  | nil => exact h
  | cons name rest ih =>
    rw [follow_cons_ok] at h ⊢
    exact ⟨h.1, h.2.1, ih h.2.2⟩

/-- The route that following ends at is fixed by the names alone. -/
theorem eq_foldl_of_follow {fs : FileSystem} {path : String} {route r : Route} {names : List String}
    (h : fs.follow path route names = .ok r) : r = names.foldl entry route := by
  induction names generalizing route with
  | nil => exact (Except.ok.inj h).symm
  | cons name rest ih => exact ih (follow_cons_ok.mp h).2.2

/-- Steps to the place itself stay there, and need a directory to stand in. -/
theorem node?_of_follow_points {fs : FileSystem} {path : String} {route r : Route} {names : List String}
    (hne : names ≠ []) (hpoint : ∀ name ∈ names, name = ".") (h : fs.follow path route names = .ok r) :
    fs.node? r = some .directory := by
  induction names generalizing route with
  | nil => exact absurd rfl hne
  | cons name rest ih =>
    rw [follow_cons_ok, hpoint name List.mem_cons_self] at h
    obtain ⟨hdir, _, hrest⟩ := h
    cases rest with
    | nil =>
      have hroute : route = r := Except.ok.inj hrest
      exact hroute ▸ hdir
    | cons next more => exact ih (by simp) (fun n hn => hpoint n (List.mem_cons_of_mem _ hn)) hrest

/-! ### Locating a path -/

/-- Where following a written path begins. -/
def startOf (fs : FileSystem) (cs : List Char) : Route :=
  if cs.head? = some '/' then [] else fs.here

theorem locate_eq (fs : FileSystem) (path : String) : fs.locate path =
    if '\x00' ∈ path.toList then .error .embeddedNul
    else if path = "" then .error (.missing path)
    else if 4096 ≤ path.utf8ByteSize then .error (.nameTooLong path)
    else fs.follow path (fs.startOf path.toList) (namesIn path.toList) := by
  unfold locate
  simp [startOf, namesIn]

theorem locate_ok_iff {fs : FileSystem} {path : String} {r : Route} : fs.locate path = .ok r ↔
    '\x00' ∉ path.toList ∧ path ≠ "" ∧ path.utf8ByteSize < 4096 ∧
      fs.follow path (fs.startOf path.toList) (namesIn path.toList) = .ok r := by
  rw [locate_eq]
  split_ifs with hnul hempty hlong
  · simp [hnul]
  · simp [hempty]
  · simp only [false_iff]
    omega
  · simp only [hnul, hempty, not_false_eq_true, ne_eq, true_and]
    have hshort : path.utf8ByteSize < 4096 := by omega
    simp [hshort]

theorem follow_ne_embeddedNul (fs : FileSystem) (path : String) (route : Route) (names : List String) :
    fs.follow path route names ≠ .error .embeddedNul := by
  induction names generalizing route with
  | nil => simp [follow]
  | cons name rest ih =>
    rw [follow]
    split
    · simp
    · simp
    · split_ifs
      · simp
      · exact ih _
      · exact ih _
      · exact ih _

theorem locate_ne_embeddedNul {fs : FileSystem} {path : String} (h : '\x00' ∉ path.toList) :
    fs.locate path ≠ .error .embeddedNul := by
  rw [locate_eq, if_neg h]
  split_ifs
  · simp
  · simp
  · exact follow_ne_embeddedNul fs _ _ _

theorem eq_of_follow_nameTooLong {fs : FileSystem} {path p : String} {route : Route} {names : List String}
    (h : fs.follow path route names = .error (.nameTooLong p)) : p = path := by
  induction names generalizing route with
  | nil => cases h
  | cons name rest ih =>
    rw [follow] at h
    split at h
    · cases h
    · cases h
    · split_ifs at h
      · cases h
        rfl
      · exact ih h
      · exact ih h
      · exact ih h

theorem eq_of_locate_nameTooLong {fs : FileSystem} {path p : String} (h : fs.locate path = .error (.nameTooLong p)) :
    p = path := by
  rw [locate_eq] at h
  split_ifs at h
  · cases h
  · cases h
  · cases h
    rfl
  · exact eq_of_follow_nameTooLong h

/-- Two written paths lead to one place. -/
def SamePlace (fs : FileSystem) (a b : String) : Prop :=
  ∃ r, fs.locate a = .ok r ∧ fs.locate b = .ok r

instance (fs : FileSystem) (a b : String) : Decidable (fs.SamePlace a b) :=
  match ha : fs.locate a, hb : fs.locate b with
  | .ok r, .ok s =>
    if h : r = s then isTrue ⟨r, ha, h ▸ hb⟩
    else isFalse fun ⟨_, hr, hs⟩ => h (Except.ok.inj ((ha.symm.trans hr).trans (hs.symm.trans hb)))
  | .ok _, .error _ => isFalse fun ⟨_, _, hs⟩ => nomatch hb.symm.trans hs
  | .error _, _ => isFalse fun ⟨_, hr, _⟩ => nomatch ha.symm.trans hr

/-! ### The folder of a path -/

/-- The last name of a path is looked up in the directory at a route. -/
structure Enters (fs : FileSystem) (p : Path) (folder : Route) : Prop where
  follows : fs.follow p.text (fs.startOf p.text.toList) p.parts.dropLast = .ok folder
  isFolder : fs.node? folder = some .directory

/-- A path is looked up in the same folder of every file system with the same working directory. -/
theorem Enters.unique {fs fs' : FileSystem} (hhere : fs'.here = fs.here) {p : Path} {a b : Route}
    (ha : fs.Enters p a) (hb : fs'.Enters p b) : a = b := by
  rw [eq_foldl_of_follow ha.follows, eq_foldl_of_follow hb.follows, startOf, startOf, hhere]

end FileSystem

/-- The parts of a path's text, with a suffix after it, that the file system takes. -/
structure Path.Fits (p : Path) (suffix : String) : Prop where
  no_nul : '\x00' ∉ (p.text ++ suffix).toList
  text_short : (p.text ++ suffix).utf8ByteSize < 4096
  name_short : (p.name ++ suffix).utf8ByteSize ≤ 255

namespace FileSystem

open Amalgam.Path

theorem startOf_beside {fs : FileSystem} {p : Path} (hp : p.Plain) (h : p.parts ≠ []) (suffix : String) :
    fs.startOf (p.beside suffix).text.toList = fs.startOf p.text.toList := by
  have hne : p.text.toList ≠ [] := by simpa using hp.text_ne_empty h
  obtain ⟨c, cs, hcons⟩ := List.exists_cons_of_ne_nil hne
  rw [startOf, startOf, text_beside h, String.toList_append, hcons, List.cons_append, List.head?_cons, List.head?_cons]

theorem locate_beside {fs : FileSystem} {p : Path} (hp : p.Plain) (h : p.parts ≠ []) {suffix : String}
    (hsuffix : '/' ∉ suffix.toList) {r : Route} :
    fs.locate (p.beside suffix).text = .ok r ↔
      p.Fits suffix ∧ ∃ folder, fs.Enters p folder ∧ r = entry folder (p.name ++ suffix) := by
  have hname := (hp.isName_name h).append hsuffix
  have hne : p.text ++ suffix ≠ "" := by simp [hp.text_ne_empty h]
  rw [locate_ok_iff, startOf_beside hp h, namesIn_beside hp, namesIn_name hname, follow_append, text_beside h]
  constructor
  · rintro ⟨hnul, _, hshort, hfollow⟩
    cases hfolder : fs.follow (p.text ++ suffix) (fs.startOf p.text.toList) p.parts.dropLast with
    | error fault => simp [hfolder, Except.bind] at hfollow
    | ok folder =>
      simp only [hfolder, Except.bind] at hfollow
      obtain ⟨hdir, hlen, hr⟩ := follow_cons_ok.mp hfollow
      exact ⟨⟨hnul, hshort, hlen⟩, folder, ⟨follow_ok_congr _ hfolder, hdir⟩, (Except.ok.inj hr).symm⟩
  · rintro ⟨⟨hnul, hshort, hlen⟩, folder, ⟨hfollows, hdir⟩, rfl⟩
    refine ⟨hnul, hne, hshort, ?_⟩
    rw [follow_ok_congr _ hfollows]
    exact follow_cons_ok.mpr ⟨hdir, hlen, rfl⟩

theorem locate_text {fs : FileSystem} {p : Path} (hp : p.Plain) (h : p.parts ≠ []) {r : Route} :
    fs.locate p.text = .ok r ↔ p.Fits "" ∧ ∃ folder, fs.Enters p folder ∧ r = entry folder p.name := by
  have hloc : fs.locate (p.beside "").text = .ok r ↔
      p.Fits "" ∧ ∃ folder, fs.Enters p folder ∧ r = entry folder (p.name ++ "") := locate_beside hp h (by simp)
  rwa [text_beside h, String.append_empty, String.append_empty] at hloc

/-- A suffix that holds a slash makes a sibling that can only be a directory. -/
theorem node?_of_locate_slash {fs : FileSystem} {p s : Path} (hp : p.Plain) {suffix : String}
    (hs : Backup.siblingPath (.text suffix) p = .ok s) (hslash : '/' ∈ suffix.toList) {r : Route}
    (h : fs.locate s.text = .ok r) : fs.node? r = some .directory := by
  obtain ⟨first, points, hnames, hne, hpoints⟩ := Backup.namesIn_of_siblingPath hp hs hslash
  obtain ⟨text, htext, rfl, _⟩ := Backup.siblingPath_eq_ok hs
  cases htext
  obtain ⟨_, _, _, hfollow⟩ := locate_ok_iff.mp h
  rw [namesIn_beside hp, hnames, List.append_cons, follow_append] at hfollow
  cases hfirst : fs.follow (p.beside suffix).text (fs.startOf (p.beside suffix).text.toList)
      (p.parts.dropLast ++ [first]) with
  | error fault => simp [hfirst, Except.bind] at hfollow
  | ok route =>
    simp only [hfirst, Except.bind] at hfollow
    exact node?_of_follow_points hne hpoints hfollow

end FileSystem

end Amalgam
