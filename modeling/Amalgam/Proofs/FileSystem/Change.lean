import Amalgam.Proofs.FileSystem.Locate
/-!
# What an effect changes

`SameFolders` relates file systems with the same directories: every path leads to the same route in both.
`ChangesOnly named` relates a file system to a later one in which files have come, gone or changed only where the
written paths in `named` lead, and no directory has. It composes, because the paths in `named` still lead to the same
places afterwards, so the frame of a whole run is put together from the frames of its effects.
-/

namespace Amalgam

open Amalgam.Text

namespace FileSystem

/-! ### Same directories -/

/-- The same working directory and the same directories. -/
structure SameFolders (fs fs' : FileSystem) : Prop where
  here : fs'.here = fs.here
  folder : ∀ r, fs'.node? r = some .directory ↔ fs.node? r = some .directory

theorem SameFolders.refl (fs : FileSystem) : SameFolders fs fs :=
  ⟨rfl, fun _ => Iff.rfl⟩

theorem SameFolders.symm {fs fs' : FileSystem} (h : SameFolders fs fs') : SameFolders fs' fs :=
  ⟨h.here.symm, fun r => (h.folder r).symm⟩

theorem SameFolders.trans {a b c : FileSystem} (hab : SameFolders a b) (hbc : SameFolders b c) : SameFolders a c :=
  ⟨hbc.here.trans hab.here, fun r => (hbc.folder r).trans (hab.folder r)⟩

/-- Nothing is there, or a file stands where a directory is needed. -/
def IsAbsence (path : String) (x : Except FileFault Route) : Prop :=
  x = .error (.missing path) ∨ x = .error (.notDirectory path)

/-- Where the directories are the same, following a path differs at most in how a missing directory is called. -/
theorem SameFolders.follow_cases {fs fs' : FileSystem} (h : SameFolders fs fs') (path : String) (route : Route)
    (names : List String) : fs'.follow path route names = fs.follow path route names ∨
      IsAbsence path (fs.follow path route names) ∧ IsAbsence path (fs'.follow path route names) := by
  induction names generalizing route with
  | nil => exact Or.inl rfl
  | cons name rest ih =>
    by_cases hdir : fs.node? route = some .directory
    · have hdir' := (h.folder route).mpr hdir
      simp only [follow, hdir, hdir']
      split_ifs
      · exact Or.inl rfl
      · exact ih _
      · exact ih _
      · exact ih _
    · have hdir' : fs'.node? route ≠ some .directory := fun hd => hdir ((h.folder route).mp hd)
      have habsent : ∀ g : FileSystem, g.node? route ≠ some .directory →
          IsAbsence path (g.follow path route (name :: rest)) := by
        intro g hg
        rw [follow]
        split
        · exact Or.inl rfl
        · exact Or.inr rfl
        · exact absurd ‹_› hg
      exact Or.inr ⟨habsent fs hdir, habsent fs' hdir'⟩

theorem SameFolders.locate_cases {fs fs' : FileSystem} (h : SameFolders fs fs') (path : String) :
    fs'.locate path = fs.locate path ∨ IsAbsence path (fs.locate path) ∧ IsAbsence path (fs'.locate path) := by
  have hstart : fs'.startOf path.toList = fs.startOf path.toList := by rw [startOf, startOf, h.here]
  rw [locate_eq, locate_eq, hstart]
  split_ifs
  · exact Or.inl rfl
  · exact Or.inl rfl
  · exact Or.inl rfl
  · exact h.follow_cases path _ _

/-- A path that was followed to its end is followed to the same end, or something on the way is gone. -/
theorem follow_or_absent {fs fs' : FileSystem} {path : String} {route r : Route} {names : List String}
    (h : fs.follow path route names = .ok r) :
    fs'.follow path route names = .ok r ∨ IsAbsence path (fs'.follow path route names) := by
  induction names generalizing route with
  | nil => exact Or.inl h
  | cons name rest ih =>
    obtain ⟨_, hshort, hrest⟩ := follow_cons_ok.mp h
    cases hnode : fs'.node? route with
    | none => exact Or.inr (Or.inl (by simp [follow, hnode]))
    | some node =>
      cases node with
      | file bytes executable => exact Or.inr (Or.inr (by simp [follow, hnode]))
      | directory =>
        have hstep : fs'.follow path route (name :: rest) = fs'.follow path (entry route name) rest := by
          have hlen : ¬ 255 < name.utf8ByteSize := by omega
          simp only [follow, hnode, hlen, if_false, entry]
          split_ifs <;> rfl
        rw [hstep]
        exact ih hrest

theorem locate_or_absent {fs fs' : FileSystem} (hhere : fs'.here = fs.here) {path : String} {r : Route}
    (h : fs.locate path = .ok r) : fs'.locate path = .ok r ∨ IsAbsence path (fs'.locate path) := by
  obtain ⟨hnul, hempty, hshort, hfollow⟩ := locate_ok_iff.mp h
  have hlocate : fs'.locate path = fs'.follow path (fs.startOf path.toList) (namesIn path.toList) := by
    have hlen : ¬ 4096 ≤ path.utf8ByteSize := by omega
    rw [locate_eq, if_neg hnul, if_neg hempty, if_neg hlen, startOf, startOf, hhere]
  rw [hlocate]
  exact follow_or_absent hfollow

theorem SameFolders.locate_ok {fs fs' : FileSystem} (h : SameFolders fs fs') {path : String} {r : Route} :
    fs'.locate path = .ok r ↔ fs.locate path = .ok r := by
  rcases h.locate_cases path with heq | ⟨habsent, habsent'⟩
  · rw [heq]
  · rcases habsent with ha | ha <;> rcases habsent' with hb | hb <;> simp [ha, hb]

theorem SameFolders.enters {fs fs' : FileSystem} (h : SameFolders fs fs') {p : Path} {folder : Route}
    (henters : fs.Enters p folder) : fs'.Enters p folder := by
  refine ⟨?_, (h.folder folder).mpr henters.isFolder⟩
  have hstart : fs'.startOf p.text.toList = fs.startOf p.text.toList := by rw [startOf, startOf, h.here]
  have hfollow := henters.follows
  rw [hstart]
  rcases h.follow_cases p.text (fs.startOf p.text.toList) p.parts.dropLast with heq | ⟨habsent, _⟩
  · rw [heq, hfollow]
  · rcases habsent with ha | ha <;> rw [ha] at hfollow <;> cases hfollow

/-! ### What stands at a path -/

theorem stat_of_locate {fs : FileSystem} {path : String} {r : Route} (h : fs.locate path = .ok r) : fs.stat path =
    match fs.node? r with
    | none => .error (.missing path)
    | some (.file bytes executable) =>
      if namesDirectory path then .error (.notDirectory path) else .ok (.file bytes executable)
    | some .directory => .ok .directory := by
  rw [stat, h]
  simp only [bind, Except.bind]
  cases fs.node? r with
  | none => rfl
  | some node =>
    cases node with
    | file bytes executable => split_ifs <;> rfl
    | directory => rfl

/-- A path leads to a node: it stands at the path's route, and only a directory may be written with a slash at the
end. -/
theorem stat_ok_iff {fs : FileSystem} {path : String} {node : Node} : fs.stat path = .ok node ↔
    (∃ r, fs.locate path = .ok r ∧ fs.node? r = some node) ∧ (namesDirectory path = true → node = .directory) := by
  cases hloc : fs.locate path with
  | error fault => simp [stat, hloc, bind, Except.bind]
  | ok r =>
    rw [stat_of_locate hloc]
    simp only [Except.ok.injEq, exists_eq_left']
    cases hnode : fs.node? r with
    | none => simp
    | some found =>
      cases found with
      | directory =>
        simp only [Except.ok.injEq, Option.some.injEq, iff_self_and]
        exact fun hd _ => hd.symm
      | file bytes executable =>
        by_cases hslash : namesDirectory path = true
        · simp only [hslash, if_true, reduceCtorEq, Option.some.injEq, true_implies, false_iff, not_and]
          rintro rfl
          simp
        · simp [hslash]

theorem stat_ne_embeddedNul {fs : FileSystem} {path : String} (h : '\x00' ∉ path.toList) :
    fs.stat path ≠ .error .embeddedNul := by
  cases hloc : fs.locate path with
  | error fault =>
    have hfault : fs.locate path ≠ .error .embeddedNul := locate_ne_embeddedNul h
    simp_all [stat, bind, Except.bind]
  | ok r =>
    rw [stat_of_locate hloc]
    split
    · simp
    · split_ifs <;> simp
    · simp

theorem read_eq_ok_iff {fs : FileSystem} {path : String} {bytes : List UInt8} :
    fs.read path = .ok bytes ↔ ∃ executable, fs.stat path = .ok (.file bytes executable) := by
  rw [read]
  cases fs.stat path with
  | error fault => simp [bind, Except.bind]
  | ok node => cases node <;> simp [bind, Except.bind, pure, Except.pure, throw, throwThe, MonadExceptOf.throw]

theorem probe_eq_some_iff {fs : FileSystem} {path : String} {node : Node} :
    fs.probe path = .ok (some node) ↔ fs.stat path = .ok node := by
  rw [probe]
  split <;> simp_all

/-- What cannot be looked up has a name that is too long; every other fault is the answer that nothing is there. -/
theorem eq_of_probe_error {fs : FileSystem} {path : String} {fault : FileFault} (h : fs.probe path = .error fault) :
    fault = .nameTooLong path := by
  rw [probe] at h
  split at h
  · cases h
  · rename_i p hstat
    cases h
    cases hloc : fs.locate path with
    | error other =>
      obtain rfl : other = .nameTooLong p := by simpa [stat, hloc, bind, Except.bind] using hstat
      rw [eq_of_locate_nameTooLong hloc]
    | ok r =>
      rw [stat_of_locate hloc] at hstat
      split at hstat
      · cases hstat
      · split_ifs at hstat
        cases hstat
      · cases hstat
  · cases h

theorem leadsSomewhere_iff {fs : FileSystem} {path : String} :
    fs.leadsSomewhere path = true ↔ ∃ node, fs.stat path = .ok node := by
  rw [leadsSomewhere]
  split <;> simp_all

theorem isDirectory_iff {fs : FileSystem} {path : String} :
    fs.isDirectory path = true ↔ fs.stat path = .ok .directory := by
  rw [isDirectory]
  split <;> simp_all

theorem not_isDirectory_of_nowhere {fs : FileSystem} {path : String} (h : fs.leadsSomewhere path = false) :
    fs.isDirectory path = false := by
  rw [Bool.eq_false_iff, ne_eq, isDirectory_iff]
  intro hdir
  rw [leadsSomewhere_iff.mpr ⟨_, hdir⟩] at h
  cases h

/-- A copy to a path that leads nowhere goes there and not into a directory. -/
theorem copyTarget_of_nowhere {fs : FileSystem} {source target : Path} (h : fs.leadsSomewhere target.text = false) :
    fs.copyTarget source target = Named.ofPath target := by
  rw [copyTarget, not_isDirectory_of_nowhere h, if_neg Bool.false_ne_true]

theorem probe_of_absence {fs : FileSystem} {path : String} (h : IsAbsence path (fs.locate path)) :
    fs.probe path = .ok none := by
  rcases h with h | h <;> simp [probe, stat, h, bind, Except.bind]

/-- What a path leads to stays when the directories and the node at its route do. -/
theorem SameFolders.probe_eq {fs fs' : FileSystem} (h : SameFolders fs fs') {path : String}
    (hnode : ∀ r, fs.locate path = .ok r → fs'.node? r = fs.node? r) : fs'.probe path = fs.probe path := by
  rcases h.locate_cases path with heq | ⟨habsent, habsent'⟩
  · have hstat : fs'.stat path = fs.stat path := by
      unfold stat
      rw [heq]
      cases hloc : fs.locate path with
      | error fault => rfl
      | ok r => simp only [bind, Except.bind, hnode r hloc]
    rw [probe, probe, hstat]
  · rw [probe_of_absence habsent, probe_of_absence habsent']

/-- A path that could be looked up before leads to nothing if it leads nowhere now: its names are not too long. -/
theorem probe_of_nowhere {fs fs' : FileSystem} (hhere : fs'.here = fs.here) {path : String} {r : Route}
    (h : fs.locate path = .ok r) (hnowhere : fs'.leadsSomewhere path = false) : fs'.probe path = .ok none := by
  rcases locate_or_absent hhere h with hloc | habsent
  · cases hstat : fs'.stat path with
    | ok node =>
      rw [leadsSomewhere_iff.mpr ⟨node, hstat⟩] at hnowhere
      cases hnowhere
    | error fault =>
      have hcases := hstat
      rw [stat_of_locate hloc] at hcases
      rw [probe, hstat]
      split at hcases
      · cases hcases
        rfl
      · split_ifs at hcases
        cases hcases
        rfl
      · cases hcases
  · exact probe_of_absence habsent

/-! ### Nothing changed -/

/-- The same working directory and the same node at every route. -/
structure Same (fs fs' : FileSystem) : Prop where
  here : fs'.here = fs.here
  node : ∀ r, fs'.node? r = fs.node? r

namespace Same

variable {fs fs' : FileSystem}

theorem refl (fs : FileSystem) : Same fs fs :=
  ⟨rfl, fun _ => rfl⟩

theorem follow_eq (h : Same fs fs') (path : String) (route : Route) (names : List String) :
    fs'.follow path route names = fs.follow path route names := by
  induction names generalizing route with
  | nil => rfl
  | cons name rest ih => simp only [follow, h.node, ih]

theorem stat_eq (h : Same fs fs') (path : String) : fs'.stat path = fs.stat path := by
  have hlocate : fs'.locate path = fs.locate path := by
    rw [locate_eq, locate_eq, startOf, startOf, h.here, h.follow_eq]
  simp only [stat, hlocate, h.node]

end Same

/-! ### Changes at named places -/

/-- Files have changed only where the named paths lead, and directories not at all. -/
structure ChangesOnly (named : String → Prop) (fs fs' : FileSystem) : Prop where
  here : fs'.here = fs.here
  node : ∀ r, fs'.node? r = fs.node? r ∨
    (∃ path, named path ∧ fs.locate path = .ok r) ∧ fs.node? r ≠ some .directory ∧ fs'.node? r ≠ some .directory

namespace ChangesOnly

variable {named : String → Prop} {fs fs' : FileSystem}

theorem refl (named : String → Prop) (fs : FileSystem) : ChangesOnly named fs fs :=
  ⟨rfl, fun _ => Or.inl rfl⟩

theorem sameFolders (h : ChangesOnly named fs fs') : SameFolders fs fs' := by
  refine ⟨h.here, fun r => ?_⟩
  rcases h.node r with heq | ⟨_, hdir, hdir'⟩
  · rw [heq]
  · exact iff_of_false hdir' hdir

theorem mono {named' : String → Prop} (h : ChangesOnly named fs fs') (hsub : ∀ path, named path → named' path) :
    ChangesOnly named' fs fs' := by
  refine ⟨h.here, fun r => ?_⟩
  rcases h.node r with heq | ⟨⟨path, hpath, hloc⟩, hdir⟩
  · exact Or.inl heq
  · exact Or.inr ⟨⟨path, hsub path hpath, hloc⟩, hdir⟩

theorem trans {fs'' : FileSystem} (h : ChangesOnly named fs fs') (h' : ChangesOnly named fs' fs'') :
    ChangesOnly named fs fs'' := by
  have hsame := h.sameFolders
  refine ⟨h'.here.trans h.here, fun r => ?_⟩
  rcases h'.node r with heq' | ⟨⟨path, hpath, hloc⟩, hdir', hdir''⟩
  · rw [heq']
    exact h.node r
  · have hdir : fs.node? r ≠ some .directory := fun hd => hdir' ((hsame.folder r).mpr hd)
    exact Or.inr ⟨⟨path, hpath, hsame.locate_ok.mp hloc⟩, hdir, hdir''⟩

theorem node_eq (h : ChangesOnly named fs fs') {r : Route} (hr : ∀ path, named path → fs.locate path ≠ .ok r) :
    fs'.node? r = fs.node? r := by
  rcases h.node r with heq | ⟨⟨path, hpath, hloc⟩, _⟩
  · exact heq
  · exact absurd hloc (hr path hpath)

theorem probe_eq (h : ChangesOnly named fs fs') {path : String}
    (hpath : ∀ other, named other → ¬ fs.SamePlace path other) : fs'.probe path = fs.probe path :=
  h.sameFolders.probe_eq fun r hr => h.node_eq fun other hother hloc => hpath other hother ⟨r, hr, hloc⟩

end ChangesOnly

theorem ne_nil_of_node? {fs : FileSystem} {r : Route} (h : fs.node? r ≠ some .directory) : r ≠ [] := by
  rintro rfl
  exact h (by simp [node?])

theorem changesOnly_put {fs : FileSystem} {path : String} {r : Route} (hloc : fs.locate path = .ok r)
    (hdir : fs.node? r ≠ some .directory) (bytes : List UInt8) (executable : Bool) :
    ChangesOnly (· = path) fs (fs.put r (.file bytes executable)) := by
  refine ⟨rfl, fun r' => ?_⟩
  by_cases hr : r' = r
  · subst hr
    rw [node?_put_self fs _ (ne_nil_of_node? hdir)]
    exact Or.inr ⟨⟨path, rfl, hloc⟩, hdir, by simp⟩
  · exact Or.inl (node?_put_other fs _ hr)

theorem changesOnly_erase {fs : FileSystem} {path : String} {r : Route} (hloc : fs.locate path = .ok r)
    (hdir : fs.node? r ≠ some .directory) : ChangesOnly (· = path) fs (fs.erase r) := by
  refine ⟨rfl, fun r' => ?_⟩
  by_cases hr : r' = r
  · subst hr
    rw [node?_erase_self fs (ne_nil_of_node? hdir)]
    exact Or.inr ⟨⟨path, rfl, hloc⟩, hdir, by simp⟩
  · exact Or.inl (node?_erase_other fs hr)

/-! ### Effects -/

theorem writable_of_locate {fs : FileSystem} {path : String} {r : Route} (h : fs.locate path = .ok r) :
    fs.writable path =
      if namesDirectory path ∨ fs.node? r = some .directory then .error (.isDirectory path) else .ok r := by
  rw [writable, h]
  simp only [bind, Except.bind]
  by_cases hslash : namesDirectory path = true
  · simp [hslash, throw, throwThe, MonadExceptOf.throw]
  · by_cases hdir : fs.node? r = some .directory
    · simp [hslash, hdir, throw, throwThe, MonadExceptOf.throw]
    · simp only [hslash, hdir, Bool.false_eq_true, or_false, if_false]
      rfl

theorem writable_ok_iff {fs : FileSystem} {path : String} {r : Route} : fs.writable path = .ok r ↔
    fs.locate path = .ok r ∧ namesDirectory path = false ∧ fs.node? r ≠ some .directory := by
  cases hloc : fs.locate path with
  | error fault => simp [writable, hloc, bind, Except.bind]
  | ok route =>
    rw [writable_of_locate hloc]
    split_ifs with h
    · simp only [Except.ok.injEq, false_iff, not_and]
      rintro rfl hslash hdir
      simp_all
    · simp only [not_or, Bool.not_eq_true] at h
      simp only [Except.ok.injEq]
      constructor
      · rintro rfl
        exact ⟨rfl, h.1, h.2⟩
      · exact fun hr => hr.1

theorem changesOnly_putBytes {fs : FileSystem} {path : String} {r : Route} (h : fs.writable path = .ok r)
    (bytes : List UInt8) : ChangesOnly (· = path) fs (fs.putBytes r bytes) := by
  obtain ⟨hloc, _, hdir⟩ := writable_ok_iff.mp h
  rw [putBytes]
  split
  · exact changesOnly_put hloc hdir bytes _
  · exact changesOnly_put hloc hdir bytes _

theorem read_putBytes {fs : FileSystem} {path : String} {r : Route} (h : fs.writable path = .ok r)
    (bytes : List UInt8) : (fs.putBytes r bytes).read path = .ok bytes := by
  obtain ⟨hloc, hslash, hdir⟩ := writable_ok_iff.mp h
  have hloc' : (fs.putBytes r bytes).locate path = .ok r :=
    (changesOnly_putBytes h bytes).sameFolders.locate_ok.mpr hloc
  obtain ⟨executable, hnode⟩ : ∃ executable, (fs.putBytes r bytes).node? r = some (.file bytes executable) := by
    rw [putBytes]
    split
    · exact ⟨_, node?_put_self _ _ (ne_nil_of_node? hdir)⟩
    · exact ⟨_, node?_put_self _ _ (ne_nil_of_node? hdir)⟩
  exact read_eq_ok_iff.mpr ⟨executable, stat_ok_iff.mpr ⟨⟨r, hloc', hnode⟩, by simp [hslash]⟩⟩

/-- Writing what a file holds already changes nothing. -/
theorem same_putBytes {fs : FileSystem} {path : String} {r : Route} {bytes : List UInt8} (h : fs.writable path = .ok r)
    (hread : fs.read path = .ok bytes) : Same fs (fs.putBytes r bytes) := by
  obtain ⟨hloc, _, hdir⟩ := writable_ok_iff.mp h
  obtain ⟨executable, hstat⟩ := read_eq_ok_iff.mp hread
  obtain ⟨⟨r', hloc', hnode⟩, _⟩ := stat_ok_iff.mp hstat
  obtain rfl : r = r' := Except.ok.inj (hloc.symm.trans hloc')
  refine ⟨by simp only [putBytes, hnode]; rfl, fun other => ?_⟩
  simp only [putBytes, hnode]
  by_cases hother : other = r
  · rw [hother, node?_put_self _ _ (ne_nil_of_node? hdir), hnode]
  · exact node?_put_other _ _ hother

/-- A file that is there can be written to and stays as executable as it was. -/
theorem stat_putBytes {fs : FileSystem} {path : String} {original : List UInt8} {executable : Bool}
    (h : fs.stat path = .ok (.file original executable)) : ∃ r, fs.writable path = .ok r ∧
      ∀ bytes, (fs.putBytes r bytes).stat path = .ok (.file bytes executable) := by
  obtain ⟨⟨r, hloc, hnode⟩, hslash⟩ := stat_ok_iff.mp h
  have hplace : fs.node? r ≠ some .directory := by simp [hnode]
  have hwritable : fs.writable path = .ok r := writable_ok_iff.mpr ⟨hloc, by simpa using hslash, hplace⟩
  refine ⟨r, hwritable, fun bytes => stat_ok_iff.mpr ⟨⟨r, ?_, ?_⟩, by simpa using hslash⟩⟩
  · exact (changesOnly_putBytes hwritable bytes).sameFolders.locate_ok.mpr hloc
  · have hput : fs.putBytes r bytes = fs.put r (.file bytes executable) := by rw [putBytes, hnode]
    rw [hput]
    exact node?_put_self _ _ (ne_nil_of_node? hplace)

theorem remove_of_file {fs : FileSystem} {path : String} {r : Route} {bytes : List UInt8} {executable : Bool}
    (hloc : fs.locate path = .ok r) (hstat : fs.stat path = .ok (.file bytes executable)) :
    fs.remove path = .ok (fs.erase r) := by
  rw [remove, hloc, hstat]
  rfl

theorem remove_error {fs : FileSystem} {path : String} {fault : FileFault} (hstat : fs.stat path = .error fault) :
    fs.remove path = .error fault := by
  rw [remove, hstat]
  cases hloc : fs.locate path with
  | ok r => rfl
  | error other =>
    have hother : fs.stat path = .error other := by simp [stat, hloc, bind, Except.bind]
    rw [hstat] at hother
    cases hother
    rfl

theorem remove_ok {fs fs' : FileSystem} {path : String} (h : fs.remove path = .ok fs') :
    ∃ r, fs.locate path = .ok r ∧ fs.node? r ≠ some .directory ∧ fs' = fs.erase r := by
  cases hstat : fs.stat path with
  | error fault => simp [remove_error hstat] at h
  | ok node =>
    obtain ⟨⟨r, hloc, hnode⟩, _⟩ := stat_ok_iff.mp hstat
    cases node with
    | directory => 
      rw [remove, hloc, hstat] at h
      cases h
    | file bytes executable =>
      rw [remove_of_file hloc hstat, Except.ok.injEq] at h
      exact ⟨r, hloc, by simp [hnode], h.symm⟩

theorem sameNode_eq_false {fs : FileSystem} {a b : String} {r s : Route} {node : Node} (hstat : fs.stat a = .ok node)
    (ha : fs.locate a = .ok r) (hb : fs.locate b = .ok s) (hne : r ≠ s) : fs.sameNode a b = .ok false := by
  have hnul : fs.stat b ≠ .error .embeddedNul := stat_ne_embeddedNul (locate_ok_iff.mp hb).1
  unfold sameNode
  rw [hstat, ha, hb]
  cases hsb : fs.stat b with
  | ok other => simp [hne]
  | error fault =>
    cases fault with
    | embeddedNul => exact absurd hsb hnul
    | _ => rfl

/-- A file is copied to any other place at which a file can be written. -/
theorem copy_of_file {fs : FileSystem} {source target : Path} {r s : Route} {bytes : List UInt8} {executable : Bool}
    (hstat : fs.stat source.text = .ok (.file bytes executable)) (hloc : fs.locate source.text = .ok r)
    (htarget : fs.writable target.text = .ok s) (hne : r ≠ s) :
    fs.copy source target = .ok (fs.put s (.file bytes executable)) := by
  obtain ⟨hs, _, hdir⟩ := writable_ok_iff.mp htarget
  have hnot : fs.isDirectory target.text = false := by
    rw [Bool.eq_false_iff]
    intro hd
    obtain ⟨⟨s', hs', hnode⟩, _⟩ := stat_ok_iff.mp (isDirectory_iff.mp hd)
    rw [hs] at hs'
    cases hs'
    exact hdir hnode
  have hsame := sameNode_eq_false hstat hloc hs hne
  simp only [copy, copyTarget, hnot, Bool.false_eq_true, if_false, copyOnto, Named.ofPath, hsame, hstat, htarget]
  rfl

theorem copy_ok {fs fs' : FileSystem} {source target : Path} (h : fs.copy source target = .ok fs') :
    ∃ bytes executable s, fs.stat source.text = .ok (.file bytes executable) ∧
      fs.sameNode source.text (fs.copyTarget source target).path = .ok false ∧
      fs.writable (fs.copyTarget source target).path = .ok s ∧ fs' = fs.put s (.file bytes executable) := by
  rw [copy, copyOnto] at h
  cases hsame : fs.sameNode (Named.ofPath source).path (fs.copyTarget source target).path with
  | error fault =>
    rw [hsame] at h
    cases h
  | ok same =>
    cases same with
    | true =>
      rw [hsame] at h
      cases h
    | false =>
      rw [hsame] at h
      cases hstat : fs.stat (Named.ofPath source).path with
      | error fault =>
        rw [hstat] at h
        cases h
      | ok node =>
        rw [hstat] at h
        cases node with
        | directory => cases h
        | file bytes executable =>
          cases hw : fs.writable (fs.copyTarget source target).path with
          | ok s =>
            rw [hw] at h
            exact ⟨bytes, executable, s, hstat, hsame, rfl, (Except.ok.inj h).symm⟩
          | error fault =>
            rw [hw] at h
            cases fault <;> cases h

theorem sameNode_ne_error {fs : FileSystem} {a b : String} (ha : fs.stat a ≠ .error .embeddedNul)
    (hb : fs.stat b ≠ .error .embeddedNul) (fault : FileFault) : fs.sameNode a b ≠ .error fault := by
  unfold sameNode
  split
  · exact absurd ‹_› ha
  · exact absurd ‹_› hb
  · split <;> simp
  · simp

theorem writable_ne_embeddedNul {fs : FileSystem} {path : String} (h : '\x00' ∉ path.toList) :
    fs.writable path ≠ .error .embeddedNul := by
  cases hloc : fs.locate path with
  | error fault =>
    have hfault : fs.locate path ≠ .error .embeddedNul := locate_ne_embeddedNul h
    simp_all [writable, bind, Except.bind]
  | ok r =>
    rw [writable_of_locate hloc]
    split_ifs <;> simp

theorem no_nul_copyTarget (fs : FileSystem) {source target : Path} (hsource : '\x00' ∉ source.text.toList)
    (htarget : '\x00' ∉ target.text.toList) : '\x00' ∉ (fs.copyTarget source target).path.toList := by
  rw [copyTarget]
  split
  · have hlast : '\x00' ∉ (Text.pieces '/' source.text.toList).getLast?.getD [] := by
      cases hpiece : (Text.pieces '/' source.text.toList).getLast? with
      | none => exact List.not_mem_nil
      | some piece => exact fun hin => hsource (Text.mem_of_mem_pieces (List.mem_of_getLast? hpiece) hin)
    simp [htarget, hlast]
  · exact htarget

/-- Only the text of a path makes a copy fail otherwise than by the file system. -/
theorem isSystem_of_copy_error {fs : FileSystem} {source target : Path} {fault : FileFault}
    (hsource : '\x00' ∉ source.text.toList) (htarget : '\x00' ∉ target.text.toList)
    (h : fs.copy source target = .error fault) : fault.isSystem = true := by
  have hnul := no_nul_copyTarget fs hsource htarget
  have hs : fs.stat source.text ≠ .error .embeddedNul := stat_ne_embeddedNul hsource
  have ht : fs.stat (fs.copyTarget source target).path ≠ .error .embeddedNul := stat_ne_embeddedNul hnul
  have hw : fs.writable (fs.copyTarget source target).path ≠ .error .embeddedNul := writable_ne_embeddedNul hnul
  rw [copy, copyOnto] at h
  cases hsame : fs.sameNode (Named.ofPath source).path (fs.copyTarget source target).path with
  | error other => exact absurd hsame (sameNode_ne_error hs ht other)
  | ok same =>
    rw [hsame] at h
    cases same with
    | true =>
      cases h
      rfl
    | false =>
      cases hstat : fs.stat (Named.ofPath source).path with
      | error other =>
        rw [hstat] at h
        cases h
        cases fault with
        | embeddedNul => exact absurd hstat hs
        | _ => rfl
      | ok node =>
        rw [hstat] at h
        cases node with
        | directory =>
          cases h
          rfl
        | file bytes executable =>
          cases hwrite : fs.writable (fs.copyTarget source target).path with
          | ok r =>
            rw [hwrite] at h
            cases h
          | error other =>
            rw [hwrite] at h
            cases other with
            | embeddedNul => exact absurd hwrite hw
            | isDirectory path =>
              have hfault := Except.error.inj h
              rw [← hfault]
              split_ifs <;> rfl
            | _ =>
              cases h
              rfl

theorem isSystem_of_remove_error {fs : FileSystem} {path : String} {fault : FileFault} (hpath : '\x00' ∉ path.toList)
    (h : fs.remove path = .error fault) : fault.isSystem = true := by
  cases hstat : fs.stat path with
  | error other =>
    rw [remove_error hstat, Except.error.injEq] at h
    cases fault with
    | embeddedNul => exact absurd (h ▸ hstat) (stat_ne_embeddedNul hpath)
    | _ => rfl
  | ok node =>
    obtain ⟨⟨r, hloc, hnode⟩, _⟩ := stat_ok_iff.mp hstat
    rw [remove, hloc, hstat] at h
    cases node with
    | directory =>
      cases h
      rfl
    | file bytes executable => cases h

theorem changesOnly_copy {fs fs' : FileSystem} {source target : Path} (h : fs.copy source target = .ok fs') :
    ChangesOnly (· = (fs.copyTarget source target).path) fs fs' := by
  obtain ⟨bytes, executable, s, _, _, hw, rfl⟩ := copy_ok h
  obtain ⟨hloc, _, hdir⟩ := writable_ok_iff.mp hw
  exact changesOnly_put hloc hdir bytes executable

theorem changesOnly_remove {fs fs' : FileSystem} {path : String} (h : fs.remove path = .ok fs') :
    ChangesOnly (· = path) fs fs' := by
  obtain ⟨r, hloc, hdir, rfl⟩ := remove_ok h
  exact changesOnly_erase hloc hdir

theorem SameFolders.isDirectory_eq {fs fs' : FileSystem} (h : SameFolders fs fs') (path : String) :
    fs'.isDirectory path = fs.isDirectory path := by
  rw [Bool.eq_iff_iff, isDirectory_iff, isDirectory_iff, stat_ok_iff, stat_ok_iff]
  simp only [h.locate_ok, h.folder]

theorem SameFolders.copyTarget_eq {fs fs' : FileSystem} (h : SameFolders fs fs') (source target : Path) :
    fs'.copyTarget source target = fs.copyTarget source target := by
  rw [copyTarget, copyTarget, h.isDirectory_eq]

end FileSystem

end Amalgam
