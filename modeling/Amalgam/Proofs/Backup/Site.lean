import Amalgam.Proofs.FileSystem.Change
/-!
# Files and the places of their backups

A site is a path, its backup path and the folder in which the last names of both are looked up. As long as the
directories stay the same a site stays a site. Copying a file to its backup works exactly at a site, and two sites whose
backups go to the same place are sites of the same file.
-/

namespace Amalgam

namespace FileSystem

/-- The names that lead on from a folder lead to different places. -/
theorem entry_of_ne {folder : Route} {name : String} (hpoint : name ≠ ".") (hpoints : name ≠ "..") :
    entry folder name = folder ++ [name] := by
  rw [entry, if_neg hpoint, if_neg hpoints]

/-- A path leads to a file. -/
def FileAt (fs : FileSystem) (path : String) : Prop :=
  ∃ bytes executable, fs.stat path = .ok (.file bytes executable)

instance (fs : FileSystem) (path : String) : Decidable (fs.FileAt path) :=
  match h : fs.stat path with
  | .ok (.file bytes executable) => isTrue ⟨bytes, executable, h⟩
  | .ok .directory => isFalse fun ⟨_, _, hfile⟩ => nomatch h.symm.trans hfile
  | .error _ => isFalse fun ⟨_, _, hfile⟩ => nomatch h.symm.trans hfile

theorem not_isDirectory_of_fileAt {fs : FileSystem} {path : String} (h : fs.FileAt path) :
    fs.isDirectory path = false := by
  obtain ⟨bytes, executable, hstat⟩ := h
  simp [isDirectory, hstat]

/-- A path without names leads to a directory. -/
theorem named_of_fileAt {fs : FileSystem} {p : Path} (hp : p.Plain) (h : fs.FileAt p.text) : p.parts ≠ [] := by
  intro hnil
  obtain ⟨bytes, executable, hstat⟩ := h
  obtain ⟨⟨r, hloc, hnode⟩, _⟩ := stat_ok_iff.mp hstat
  obtain ⟨_, _, _, hfollow⟩ := locate_ok_iff.mp hloc
  have hdir : fs.node? r = some .directory := by
    have hroot := hp.root_mem
    simp only [List.mem_cons, List.not_mem_nil, or_false] at hroot
    rcases hroot with hroot | hroot | hroot
    · have htext : p.text = "." := by simp [Path.text, hroot, hnil]
      rw [htext] at hfollow
      exact node?_of_follow_points (by decide) (by decide) hfollow
    all_goals
      have htext : p.text = p.root := by simp [Path.text, hroot, hnil, Text.joined]
      rw [htext, hroot] at hfollow
      cases hfollow
      rfl
  rw [hdir] at hnode
  cases hnode

end FileSystem

namespace Backup

open FileSystem Amalgam.Path

/-- What a suffix must be for any backup to be made with it. -/
structure Usable (suffix : String) : Prop where
  no_slash : '/' ∉ suffix.toList
  ne_empty : suffix ≠ ""
  no_nul : '\x00' ∉ suffix.toList

/-- A path, its backup path and the folder of both. -/
structure Site where
  path : Path
  sibling : Path
  folder : Route

namespace Site

def route (x : Site) : Route :=
  entry x.folder x.path.name

def spot (x : Site) : Route :=
  entry x.folder x.sibling.name

/-- The path and its backup are made with a suffix that is a text. -/
structure Made (suffix : String) (x : Site) : Prop where
  usable : Usable suffix
  sibling_eq : x.sibling = x.path.beside suffix
  fits : x.path.Fits suffix

/-- The file system takes the path and its backup, and the last names of both are looked up in the folder. -/
structure In (suffix : Value) (fs : FileSystem) (x : Site) : Prop where
  plain : x.path.Plain
  named : x.path.parts ≠ []
  fits : x.path.Fits ""
  made : ∃ text, suffix = .text text ∧ x.Made text
  enters : fs.Enters x.path x.folder

variable {suffix : Value} {fs : FileSystem} {x y : Site}

theorem In.siblingPath_eq (h : x.In suffix fs) : siblingPath suffix x.path = .ok x.sibling := by
  obtain ⟨text, rfl, hmade⟩ := h.made
  rw [hmade.sibling_eq, siblingPath_text h.plain h.named hmade.usable.no_slash]

theorem In.locate (h : x.In suffix fs) : fs.locate x.path.text = .ok x.route :=
  (locate_text h.plain h.named).mpr ⟨h.fits, x.folder, h.enters, rfl⟩

theorem Made.spot_eq_entry {text : String} (h : x.Made text) : x.spot = entry x.folder (x.path.name ++ text) := by
  rw [spot, h.sibling_eq, name_beside]

theorem In.locate_sibling (h : x.In suffix fs) : fs.locate x.sibling.text = .ok x.spot := by
  obtain ⟨text, _, hmade⟩ := h.made
  rw [hmade.spot_eq_entry, hmade.sibling_eq]
  exact (locate_beside h.plain h.named hmade.usable.no_slash).mpr ⟨hmade.fits, x.folder, h.enters, rfl⟩

theorem In.of_sameFolders {fs' : FileSystem} (hsame : SameFolders fs fs') (h : x.In suffix fs) : x.In suffix fs' :=
  { h with enters := hsame.enters h.enters }

/-- A backup that still leads somewhere is still looked up in the same folder. -/
theorem In.of_locate_sibling {fs' : FileSystem} (h : x.In suffix fs) {r : Route} (hhere : fs'.here = fs.here)
    (hloc : fs'.locate x.sibling.text = .ok r) : x.In suffix fs' := by
  obtain ⟨text, _, hmade⟩ := h.made
  rw [hmade.sibling_eq] at hloc
  obtain ⟨_, folder, henters, _⟩ := (locate_beside h.plain h.named hmade.usable.no_slash).mp hloc
  have hfolder : x.folder = folder := h.enters.unique hhere henters
  exact { h with enters := hfolder ▸ henters }

theorem Made.spot_eq {text : String} (h : x.Made text) (hplain : x.path.Plain) (hnamed : x.path.parts ≠ []) :
    x.spot = x.folder ++ [x.path.name ++ text] := by
  have hname := hplain.isName_name hnamed
  rw [h.spot_eq_entry]
  refine entry_of_ne (hname.append h.usable.no_slash).ne_point ?_
  intro hpoints
  -- Of two points the first would be the name, and a name is not a point.
  have hlist : x.path.name.toList ++ text.toList = ['.', '.'] := by simpa using congrArg String.toList hpoints
  have htext : text.toList ≠ [] := by simpa using h.usable.ne_empty
  have hpos : x.path.name.toList ≠ [] := by simpa using hname.ne_empty
  have hlen := congrArg List.length hlist
  rw [List.length_append] at hlen
  have hone : x.path.name.toList.length = 1 := by
    have := List.length_pos_iff.mpr hpos
    have := List.length_pos_iff.mpr htext
    simp only [List.length_cons, List.length_nil] at hlen
    omega
  obtain ⟨c, hc⟩ := List.length_eq_one_iff.mp hone
  rw [hc, List.singleton_append] at hlist
  exact hname.ne_point (String.ext (by simp [hc, (List.cons.inj hlist).1]))

/-- The places of two backups with one suffix are the same only in the same folder under the same name. -/
theorem append_suffix_inj {folder folder' : Route} {name name' text : String}
    (h : folder ++ [name ++ text] = folder' ++ [name' ++ text]) : folder = folder' ∧ name = name' := by
  obtain ⟨hfolder, hname⟩ := List.append_inj' h rfl
  simp only [List.cons.injEq, and_true] at hname
  have hlist := congrArg String.toList hname
  rw [String.toList_append, String.toList_append] at hlist
  exact ⟨hfolder, String.ext (List.append_cancel_right hlist)⟩

theorem In.spot_ne_nil (h : x.In suffix fs) : x.spot ≠ [] := by
  obtain ⟨text, _, hmade⟩ := h.made
  simp [hmade.spot_eq h.plain h.named]

theorem In.route_ne_spot (h : x.In suffix fs) : x.route ≠ x.spot := by
  obtain ⟨text, _, hmade⟩ := h.made
  rw [hmade.spot_eq h.plain h.named, route, entry, if_neg (h.plain.isName_name h.named).ne_point]
  split_ifs
  · intro heq
    have hlen := congrArg List.length heq
    simp only [List.length_dropLast, List.length_append, List.length_cons, List.length_nil] at hlen
    omega
  · intro heq
    have hname := (List.append_inj' heq rfl).2
    simp only [List.cons.injEq, and_true] at hname
    have hlen := congrArg (List.length ∘ String.toList) hname
    simp only [Function.comp_apply, String.toList_append, List.length_append] at hlen
    exact hmade.usable.ne_empty (by simpa using List.length_eq_zero_iff.mp (show text.toList.length = 0 by omega))

/-- One place for two backups means one file. -/
theorem In.route_eq_of_spot_eq (hx : x.In suffix fs) (hy : y.In suffix fs) (h : x.spot = y.spot) :
    x.route = y.route := by
  obtain ⟨text, hsuffix, hxmade⟩ := hx.made
  obtain ⟨text', hsuffix', hymade⟩ := hy.made
  obtain rfl : text = text' := by rw [hsuffix] at hsuffix'; cases hsuffix'; rfl
  rw [hxmade.spot_eq hx.plain hx.named, hymade.spot_eq hy.plain hy.named] at h
  obtain ⟨hfolder, hname⟩ := append_suffix_inj h
  rw [route, route, hfolder, hname]

theorem In.eq_of_path_eq (hx : x.In suffix fs) (hy : y.In suffix fs) (h : x.path = y.path) : x = y := by
  have hsibling := hx.siblingPath_eq
  rw [h, hy.siblingPath_eq, Except.ok.injEq] at hsibling
  have hfolder : x.folder = y.folder := hx.enters.unique rfl (h ▸ hy.enters)
  cases x
  cases y
  simp_all

/-! ### Copying at a site -/

theorem In.not_namesDirectory (h : x.In suffix fs) : namesDirectory x.path.text = false :=
  h.plain.not_namesDirectory h.named

theorem In.not_namesDirectory_sibling (h : x.In suffix fs) : namesDirectory x.sibling.text = false := by
  obtain ⟨text, _, hmade⟩ := h.made
  rw [hmade.sibling_eq]
  exact (h.plain.beside h.named hmade.usable.no_slash).not_namesDirectory (by simp [beside])

theorem In.stat_eq_ok_iff (h : x.In suffix fs) {node : Node} :
    fs.stat x.path.text = .ok node ↔ fs.node? x.route = some node := by
  simp [stat_ok_iff, h.locate, h.not_namesDirectory]

theorem In.stat_sibling_eq_ok_iff (h : x.In suffix fs) {node : Node} :
    fs.stat x.sibling.text = .ok node ↔ fs.node? x.spot = some node := by
  simp [stat_ok_iff, h.locate_sibling, h.not_namesDirectory_sibling]

theorem In.stat_sibling_none (h : x.In suffix fs) (hnode : fs.node? x.spot = none) :
    fs.stat x.sibling.text = .error (.missing x.sibling.text) := by
  rw [stat_of_locate h.locate_sibling, hnode]

theorem In.copy_to_sibling (h : x.In suffix fs) {bytes : List UInt8} {executable : Bool}
    (hnode : fs.node? x.route = some (.file bytes executable)) (hspot : fs.node? x.spot ≠ some .directory) :
    fs.copy x.path x.sibling = .ok (fs.put x.spot (.file bytes executable)) := by
  have hw := writable_ok_iff.mpr ⟨h.locate_sibling, h.not_namesDirectory_sibling, hspot⟩
  exact copy_of_file (h.stat_eq_ok_iff.mpr hnode) h.locate hw h.route_ne_spot

/-- Restoring puts the backup's node where the file belongs. -/
theorem In.copy_from_sibling (h : x.In suffix fs) {bytes : List UInt8} {executable : Bool}
    (hnode : fs.node? x.spot = some (.file bytes executable)) (hroute : fs.node? x.route ≠ some .directory) :
    fs.copy x.sibling x.path = .ok (fs.put x.route (.file bytes executable)) := by
  have hw := writable_ok_iff.mpr ⟨h.locate, h.not_namesDirectory, hroute⟩
  exact copy_of_file (h.stat_sibling_eq_ok_iff.mpr hnode) h.locate_sibling hw h.route_ne_spot.symm

end Site

/-! ### Finding sites -/

theorem exists_site {text : String} {fs : FileSystem} {p : Path} {r r' : Route} (hp : p.Plain) (hnamed : p.parts ≠ [])
    (hslash : '/' ∉ text.toList) (hne : text ≠ "") (hpath : fs.locate p.text = .ok r')
    (hloc : fs.locate (p.beside text).text = .ok r) :
    ∃ x : Site, x.path = p ∧ x.sibling = p.beside text ∧ x.In (.text text) fs ∧ x.spot = r := by
  obtain ⟨hsiblingFits, folder, henters, hr⟩ := (locate_beside hp hnamed hslash).mp hloc
  obtain ⟨hfits, _⟩ := (locate_text hp hnamed).mp hpath
  have hnul : '\x00' ∉ text.toList := fun hin => hsiblingFits.no_nul (by simp [hin])
  have hmade : Site.Made text ⟨p, p.beside text, folder⟩ := ⟨⟨hslash, hne, hnul⟩, rfl, hsiblingFits⟩
  exact ⟨⟨p, p.beside text, folder⟩, rfl, rfl, ⟨hp, hnamed, hfits, ⟨text, rfl, hmade⟩, henters⟩,
    hmade.spot_eq_entry.trans hr.symm⟩

/-- A file that can be copied to its backup is at a site. -/
theorem exists_site_of_copy {suffix : Value} {fs fs' : FileSystem} {p s : Path} (hp : p.Plain)
    (hs : siblingPath suffix p = .ok s) (hfree : fs.isDirectory s.text = false) (h : fs.copy p s = .ok fs') :
    ∃ x : Site, x.path = p ∧ x.sibling = s ∧ x.In suffix fs := by
  obtain ⟨bytes, executable, r, hstat, hsame, hw, _⟩ := copy_ok h
  have htarget : fs.copyTarget p s = Named.ofPath s := by simp [copyTarget, hfree]
  rw [htarget] at hsame hw
  obtain ⟨hloc, _, hdir⟩ := writable_ok_iff.mp hw
  obtain ⟨text, rfl, rfl, hname⟩ := siblingPath_eq_ok hs
  have hnamed := hp.name_ne_empty_iff.mp hname
  obtain ⟨⟨r', hloc', _⟩, _⟩ := stat_ok_iff.mp hstat
  have hslash : '/' ∉ text.toList := fun hin => hdir (node?_of_locate_slash hp hs hin hloc)
  have hne : text ≠ "" := by
    rintro rfl
    -- An empty suffix would make the copy one of a file onto itself.
    have htext : (Named.ofPath (p.beside "")).path = p.text := by
      change (p.beside "").text = p.text
      rw [text_beside hnamed, String.append_empty]
    rw [htext, sameNode, hstat, hloc'] at hsame
    simp at hsame
  obtain ⟨x, hxpath, hxsibling, hin, _⟩ := exists_site hp hnamed hslash hne hloc' hloc
  exact ⟨x, hxpath, hxsibling, hin⟩

theorem not_namesDirectory_of_siblingPath {suffix : Value} {p s : Path} (h : siblingPath suffix p = .ok s) :
    namesDirectory s.text = false := by
  obtain ⟨text, rfl, rfl, hname⟩ := siblingPath_eq_ok h
  obtain ⟨front, hfront⟩ := exists_text_eq_append_name (show (p.beside text).parts ≠ [] by simp [beside])
  rw [siblingPath, withName, if_neg hname] at h
  split_ifs at h with hvalid
  · cases h
  · have hlast : (p.name ++ text).toList.getLast? ≠ some '/' := fun hslash => hvalid (Or.inl hslash)
    have hne : (p.name ++ text).toList ≠ [] := by simp [hname]
    rw [namesDirectory, hfront, name_beside, String.toList_append, List.getLast?_append,
      List.getLast?_eq_some_getLast hne]
    rw [List.getLast?_eq_some_getLast hne] at hlast
    simpa using hlast

/-- A backup path that leads to the place of a node leads there. -/
theorem leadsSomewhere_of_siblingPath {suffix : Value} {fs : FileSystem} {p s : Path} {r : Route} {node : Node}
    (hs : siblingPath suffix p = .ok s) (hloc : fs.locate s.text = .ok r) (hnode : fs.node? r = some node) :
    fs.leadsSomewhere s.text = true :=
  leadsSomewhere_iff.mpr ⟨node, stat_ok_iff.mpr
    ⟨⟨r, hloc, hnode⟩, by simp [not_namesDirectory_of_siblingPath hs]⟩⟩

theorem node?_of_nowhere {suffix : Value} {fs : FileSystem} {p s : Path} {r : Route} (hs : siblingPath suffix p = .ok s)
    (hnowhere : fs.leadsSomewhere s.text = false) (hloc : fs.locate s.text = .ok r) : fs.node? r = none := by
  by_contra hsome
  obtain ⟨node, hnode⟩ := Option.ne_none_iff_exists'.mp hsome
  rw [leadsSomewhere_of_siblingPath hs hloc hnode] at hnowhere
  cases hnowhere

/-- A file whose backup path leads to an empty place is at a site. -/
theorem exists_site_of_locate {suffix : Value} {fs : FileSystem} {p s : Path} {r : Route} (hp : p.Plain)
    (hfile : fs.FileAt p.text) (hs : siblingPath suffix p = .ok s) (hnowhere : fs.leadsSomewhere s.text = false)
    (hloc : fs.locate s.text = .ok r) : ∃ x : Site, x.path = p ∧ x.sibling = s ∧ x.In suffix fs ∧ x.spot = r := by
  have hnode := node?_of_nowhere hs hnowhere hloc
  obtain ⟨bytes, executable, hstat⟩ := hfile
  obtain ⟨⟨r', hloc', hnode'⟩, _⟩ := stat_ok_iff.mp hstat
  obtain ⟨text, rfl, rfl, hname⟩ := siblingPath_eq_ok hs
  have hnamed := hp.name_ne_empty_iff.mp hname
  refine exists_site hp hnamed (fun hslash => ?_) ?_ hloc' hloc
  · rw [node?_of_locate_slash hp hs hslash hloc] at hnode
    cases hnode
  · rintro rfl
    rw [text_beside hnamed, String.append_empty, hloc', Except.ok.injEq] at hloc
    rw [← hloc, hnode'] at hnode
    cases hnode

end Backup

end Amalgam
