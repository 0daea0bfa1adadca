import Amalgam.Proofs.Backup.Site
import Amalgam.Proofs.World.Running
/-!
# Backup, discard and restore at sites

Each of the three passes goes through a list of sites and ends without a failure. A backup puts the node of every file
at its spot, a discard empties the spots, and a restore puts back what the spots hold and empties them; nothing else
changes. A list may name one file twice. Then the second backup repeats the first, and the second restore finds no
backup but a file that is restored already, so the invariant of the restore is that a spot holds the original or its
file does.
-/

namespace Amalgam

namespace Backup

open FileSystem Amalgam.Path

/-! ### Single steps -/

theorem tryCopy_ok {w : World} {source target : Path} {fs : FileSystem} (h : w.files.copy source target = .ok fs) :
    (tryCopy source target).runIn w = (.ok none, { w with files := fs }) := by
  rw [tryCopy, Action.runIn_bind_ok (Action.runIn_files w), h]
  rfl

theorem tryCopy_error {w : World} {source target : Path} {fault : FileFault}
    (h : w.files.copy source target = .error fault) : (tryCopy source target).runIn w =
      (if fault.isSystem then .ok (some fault) else .error (.file fault), w) := by
  rw [tryCopy, Action.runIn_bind_ok (Action.runIn_files w), h]
  split_ifs with hsystem <;> simp [hsystem]

theorem tryRemove_ok {w : World} {path : Path} {fs : FileSystem} (h : w.files.remove path.text = .ok fs) :
    (tryRemove path).runIn w = (.ok none, { w with files := fs }) := by
  rw [tryRemove, Action.runIn_bind_ok (Action.runIn_files w), h]
  rfl

theorem tryRemove_error {w : World} {path : Path} {fault : FileFault} (h : w.files.remove path.text = .error fault) :
    (tryRemove path).runIn w = (if fault.isSystem then .ok (some fault) else .error (.file fault), w) := by
  rw [tryRemove, Action.runIn_bind_ok (Action.runIn_files w), h]
  split_ifs with hsystem <;> simp [hsystem]

/-! ### Sites of one pass -/

variable {suffix : Value} {xs : List Site} {fs fs' : FileSystem}

/-- No path leads to where the backup of another one goes, and no backup path leads to a directory. -/
structure Separate (suffix : Value) (fs : FileSystem) (paths : List Path) : Prop where
  free : ∀ p ∈ paths, ∀ s, siblingPath suffix p = .ok s → fs.isDirectory s.text = false
  apart : ∀ p ∈ paths, ∀ q ∈ paths, p ≠ q → ∀ s, siblingPath suffix q = .ok s → ¬ fs.SamePlace p.text s.text

instance (p : Path) (prop : Path → Prop) [DecidablePred prop] :
    Decidable (∀ s, siblingPath suffix p = .ok s → prop s) :=
  match h : siblingPath suffix p with
  | .ok s => decidable_of_iff (prop s) (by simp)
  | .error _ => isTrue fun _ hs => nomatch hs

instance (paths : List Path) : Decidable (Separate suffix fs paths) :=
  decidable_of_iff ((∀ p ∈ paths, ∀ s, siblingPath suffix p = .ok s → fs.isDirectory s.text = false) ∧
    ∀ p ∈ paths, ∀ q ∈ paths, p ≠ q → ∀ s, siblingPath suffix q = .ok s → ¬ fs.SamePlace p.text s.text)
    ⟨fun h => ⟨h.1, h.2⟩, fun h => ⟨h.free, h.apart⟩⟩

theorem Separate.mono {ps qs : List Path} (h : Separate suffix fs ps) (hsub : ∀ p ∈ qs, p ∈ ps) :
    Separate suffix fs qs where
  free := fun p hp => h.free p (hsub p hp)
  apart := fun p hp q hq => h.apart p (hsub p hp) q (hsub q hq)

/-- Sites of files that can be backed up, none of them where the backup of any goes. -/
structure Ready (suffix : Value) (fs : FileSystem) (xs : List Site) : Prop where
  isIn : ∀ x ∈ xs, x.In suffix fs
  file : ∀ x ∈ xs, ∃ bytes executable, fs.node? x.route = some (.file bytes executable)
  free : ∀ x ∈ xs, fs.node? x.spot ≠ some .directory
  apart : ∀ x ∈ xs, ∀ y ∈ xs, x.route ≠ y.spot

theorem Separate.ready (h : Separate suffix fs (xs.map Site.path)) (hin : ∀ x ∈ xs, x.In suffix fs)
    (hfile : ∀ x ∈ xs, ∃ bytes executable, fs.node? x.route = some (.file bytes executable)) : Ready suffix fs xs where
  isIn := hin
  file := hfile
  free := by
    intro x hx hdir
    have hfree := h.free x.path (List.mem_map_of_mem hx) x.sibling (hin x hx).siblingPath_eq
    rw [isDirectory_iff.mpr ((hin x hx).stat_sibling_eq_ok_iff.mpr hdir)] at hfree
    cases hfree
  apart := by
    intro x hx y hy heq
    by_cases hpath : x.path = y.path
    · rw [(hin x hx).eq_of_path_eq (hin y hy) hpath] at heq
      exact (hin y hy).route_ne_spot heq
    · have hlocate := (hin x hx).locate
      rw [heq] at hlocate
      exact h.apart x.path (List.mem_map_of_mem hx) y.path (List.mem_map_of_mem hy) hpath y.sibling
        (hin y hy).siblingPath_eq ⟨y.spot, hlocate, (hin y hy).locate_sibling⟩

theorem Ready.init {x : Site} (h : Ready suffix fs (xs ++ [x])) : Ready suffix fs xs where
  isIn := fun y hy => h.isIn y (List.mem_append_left _ hy)
  file := fun y hy => h.file y (List.mem_append_left _ hy)
  free := fun y hy => h.free y (List.mem_append_left _ hy)
  apart := fun y hy z hz => h.apart y (List.mem_append_left _ hy) z (List.mem_append_left _ hz)

theorem Ready.snoc {x : Site} (h : Ready suffix fs xs) (hin : x.In suffix fs) (hfile : fs.FileAt x.path.text)
    (hsep : Separate suffix fs ((xs ++ [x]).map Site.path)) : Ready suffix fs (xs ++ [x]) := by
  obtain ⟨bytes, executable, hstat⟩ := hfile
  refine hsep.ready ?_ ?_
  · intro y hy
    rcases List.mem_append.mp hy with hy | hy
    · exact h.isIn y hy
    · exact List.mem_singleton.mp hy ▸ hin
  · intro y hy
    rcases List.mem_append.mp hy with hy | hy
    · exact h.file y hy
    · exact List.mem_singleton.mp hy ▸ ⟨bytes, executable, hin.stat_eq_ok_iff.mp hstat⟩

/-! ### Discard -/

/-- The spots are empty, and all else is as it was. -/
structure Cleared (xs : List Site) (fs fs' : FileSystem) : Prop where
  here : fs'.here = fs.here
  spot : ∀ x ∈ xs, fs'.node? x.spot = none
  rest : ∀ r, (∀ x ∈ xs, r ≠ x.spot) → fs'.node? r = fs.node? r

theorem Cleared.nil (fs : FileSystem) : Cleared [] fs fs :=
  ⟨rfl, by simp, fun _ _ => rfl⟩

theorem Cleared.sameFolders (h : Cleared xs fs fs') (hfree : ∀ x ∈ xs, fs.node? x.spot ≠ some .directory) :
    SameFolders fs fs' := by
  refine ⟨h.here, fun r => ?_⟩
  by_cases hr : ∃ x ∈ xs, r = x.spot
  · obtain ⟨x, hx, rfl⟩ := hr
    exact iff_of_false (by simp [h.spot x hx]) (hfree x hx)
  · push Not at hr
    rw [h.rest r hr]

theorem Cleared.cons {x : Site} {mid : FileSystem} (h : Cleared xs mid fs') (hhere : mid.here = fs.here)
    (hspot : mid.node? x.spot = none) (hrest : ∀ r, r ≠ x.spot → mid.node? r = fs.node? r) :
    Cleared (x :: xs) fs fs' where
  here := h.here.trans hhere
  spot := by
    intro y hy
    by_cases hmem : ∃ z ∈ xs, y.spot = z.spot
    · obtain ⟨z, hz, heq⟩ := hmem
      rw [heq]
      exact h.spot z hz
    · push Not at hmem
      rw [h.rest y.spot hmem]
      rcases List.mem_cons.mp hy with rfl | hy
      · exact hspot
      · exact absurd rfl (hmem y hy)
  rest := by
    intro r hr
    rw [h.rest r fun y hy => hr y (List.mem_cons_of_mem _ hy), hrest r (hr x List.mem_cons_self)]

/-- Discarding one backup empties its spot. -/
theorem remove_sibling {x : Site} (hin : x.In suffix fs) (hfree : fs.node? x.spot ≠ some .directory) :
    (fs.node? x.spot = none ∧ fs.remove x.sibling.text = .error (.missing x.sibling.text)) ∨
      fs.remove x.sibling.text = .ok (fs.erase x.spot) := by
  cases hnode : fs.node? x.spot with
  | none => exact Or.inl ⟨rfl, remove_error (hin.stat_sibling_none hnode)⟩
  | some node =>
    cases node with
    | directory => exact absurd hnode hfree
    | file bytes executable =>
      exact Or.inr (remove_of_file hin.locate_sibling (hin.stat_sibling_eq_ok_iff.mpr hnode))

theorem discard_sites (w : World) (hin : ∀ x ∈ xs, x.In suffix w.files)
    (hfree : ∀ x ∈ xs, w.files.node? x.spot ≠ some .directory) :
    ∃ w', (discard suffix (xs.map Site.path)).runIn w = (.ok (), w') ∧ Cleared xs w.files w'.files := by
  induction xs generalizing w with
  | nil => exact ⟨w, rfl, Cleared.nil _⟩
  | cons x rest ih =>
    have hx := hin x List.mem_cons_self
    have hxfree := hfree x List.mem_cons_self
    have hrest : ∀ y ∈ rest, y ∈ x :: rest := fun y hy => List.mem_cons_of_mem _ hy
    simp only [discard, List.map_cons, List.forM_eq_forM, List.forM_cons, hx.siblingPath_eq] at ih ⊢
    rcases remove_sibling hx hxfree with ⟨hnone, hremove⟩ | hremove
    · obtain ⟨w', hrun, hcleared⟩ := ih w (fun y hy => hin y (hrest y hy)) fun y hy => hfree y (hrest y hy)
      refine ⟨w', ?_, hcleared.cons rfl hnone fun _ _ => rfl⟩
      simpa [Action.runIn_bind, tryRemove_error hremove, FileFault.isSystem, Except.mapError] using hrun
    · have hchange := changesOnly_erase hx.locate_sibling hxfree
      obtain ⟨w', hrun, hcleared⟩ := ih { w with files := w.files.erase x.spot }
        (fun y hy => (hin y (hrest y hy)).of_sameFolders hchange.sameFolders)
        (fun y hy hdir => hfree y (hrest y hy) ((hchange.sameFolders.folder _).mp hdir))
      refine ⟨w', ?_, hcleared.cons rfl (node?_erase_self _ hx.spot_ne_nil) fun r hr => node?_erase_other _ hr⟩
      simpa [Action.runIn_bind, tryRemove_ok hremove, Except.mapError] using hrun

/-! ### Backup -/

/-- The spots hold what stands at the files, and all else is as it was. -/
structure Backed (xs : List Site) (fs fs' : FileSystem) : Prop where
  here : fs'.here = fs.here
  spot : ∀ x ∈ xs, fs'.node? x.spot = fs.node? x.route
  rest : ∀ r, (∀ x ∈ xs, r ≠ x.spot) → fs'.node? r = fs.node? r

theorem Backed.nil (fs : FileSystem) : Backed [] fs fs :=
  ⟨rfl, by simp, fun _ _ => rfl⟩

theorem Backed.route (h : Backed xs fs fs') (hready : Ready suffix fs xs) {x : Site} (hx : x ∈ xs) :
    fs'.node? x.route = fs.node? x.route :=
  h.rest _ fun y hy => hready.apart x hx y hy

theorem Backed.spot_ne_directory (h : Backed xs fs fs') (hready : Ready suffix fs xs) {x : Site} (hx : x ∈ xs) :
    fs'.node? x.spot ≠ some .directory := by
  obtain ⟨bytes, executable, hfile⟩ := hready.file x hx
  simp [h.spot x hx, hfile]

theorem Backed.sameFolders (h : Backed xs fs fs') (hready : Ready suffix fs xs) : SameFolders fs fs' := by
  refine ⟨h.here, fun r => ?_⟩
  by_cases hr : ∃ x ∈ xs, r = x.spot
  · obtain ⟨x, hx, rfl⟩ := hr
    exact iff_of_false (h.spot_ne_directory hready hx) (hready.free x hx)
  · push Not at hr
    rw [h.rest r hr]

/-- Backing up one more file. A spot that is filled already is one of the same file. -/
theorem Backed.snoc {x : Site} (h : Backed xs fs fs') (hready : Ready suffix fs (xs ++ [x])) {node : Node}
    (hnode : fs.node? x.route = some node) : Backed (xs ++ [x]) fs (fs'.put x.spot node) where
  here := h.here
  spot := by
    intro y hy
    have hx : x ∈ xs ++ [x] := by simp
    by_cases hspot : y.spot = x.spot
    · have hroute := (hready.isIn y hy).route_eq_of_spot_eq (hready.isIn x hx) hspot
      rw [hspot, node?_put_self _ _ (hready.isIn x hx).spot_ne_nil, hroute, hnode]
    · rcases List.mem_append.mp hy with hy | hy
      · rw [node?_put_other _ _ hspot, h.spot y hy]
      · exact absurd (congrArg Site.spot (List.mem_singleton.mp hy)) hspot
  rest := by
    intro r hr
    rw [node?_put_other _ _ (hr x (by simp)), h.rest r fun y hy => hr y (List.mem_append_left _ hy)]

/-- Clearing the spots of a backup undoes it, but for what stood at the spots before. -/
theorem Backed.cleared {fs'' : FileSystem} (h : Backed xs fs fs') (h' : Cleared xs fs' fs'') : Cleared xs fs fs'' where
  here := h'.here.trans h.here
  spot := h'.spot
  rest := fun r hr => (h'.rest r hr).trans (h.rest r hr)

/-- How a backup of paths ends: with the backups of all of them, or with none of those it has made. -/
inductive BackUpEnds (suffix : Value) (fs : FileSystem) (paths : List Path) : Except Failure Summary × World → Prop
  | backed {xs : List Site} {w : World} (hpaths : xs.map Site.path = paths) (hready : Ready suffix fs xs)
      (hbacked : Backed xs fs w.files) : BackUpEnds suffix fs paths (.ok { processed := paths }, w)
  | cleared {xs : List Site} {failure : Failure} {w : World} (hpaths : ∀ x ∈ xs, x.path ∈ paths)
      (hready : Ready suffix fs xs) (hcleared : Cleared xs fs w.files) : BackUpEnds suffix fs paths (.error failure, w)

theorem Ready.usable (h : Ready suffix fs xs) (hne : xs ≠ []) : ∃ text, suffix = .text text ∧ Usable text := by
  obtain ⟨x, hx⟩ := List.exists_mem_of_ne_nil xs hne
  obtain ⟨text, hsuffix, hmade⟩ := (h.isIn x hx).made
  exact ⟨text, hsuffix, hmade.usable⟩

theorem no_nul_of_fileAt {path : String} (h : fs.FileAt path) : '\x00' ∉ path.toList := by
  obtain ⟨bytes, executable, hstat⟩ := h
  obtain ⟨⟨r, hloc, _⟩, _⟩ := stat_ok_iff.mp hstat
  exact (locate_ok_iff.mp hloc).1

theorem backUpFrom_runIn_fault {w w' : World} {before rest : List Path} {p s : Path} {fault : FileFault}
    (hs : siblingPath suffix p = .ok s) (hcopy : w.files.copy p s = .error fault) (hsystem : fault.isSystem = true)
    (hdiscard : (discard suffix before).runIn w = (.ok (), w')) :
    (backUpFrom suffix before (p :: rest)).runIn w = (.error (.notBackedUp p.text fault), w') := by
  simp [backUpFrom, Action.runIn_bind, hs, tryCopy_error hcopy, hsystem, hdiscard, Except.mapError]

theorem backUpFrom_runIn_copied {w : World} {before : List Path} {p s : Path} (hs : siblingPath suffix p = .ok s)
    (hcopy : w.files.copy p s = .ok fs') (rest : List Path) : ∃ w', w'.files = fs' ∧
      (backUpFrom suffix before (p :: rest)).runIn w = (backUpFrom suffix (before ++ [p]) rest).runIn w' := by
  refine ⟨{ w with
    files := fs'
    journal := w.journal ++ [.logged ⟨.debug, logger, "Backup created: " ++ s.text⟩] }, rfl, ?_⟩
  simp [backUpFrom, Action.runIn_bind, hs, tryCopy_ok hcopy, Except.mapError]

/-- The backups made before a copy that fails are removed. -/
theorem backUpFrom_fault {w : World} {paths rest : List Path} {p s : Path} {fault : FileFault}
    (hready : Ready suffix fs xs) (hbacked : Backed xs fs w.files) (hpaths : ∀ x ∈ xs, x.path ∈ paths)
    (hs : siblingPath suffix p = .ok s) (hcopy : w.files.copy p s = .error fault) (hsystem : fault.isSystem = true) :
    BackUpEnds suffix fs paths ((backUpFrom suffix (xs.map Site.path) (p :: rest)).runIn w) := by
  have hsame := hbacked.sameFolders hready
  obtain ⟨w', hdiscard, hcleared⟩ := discard_sites w (fun x hx => (hready.isIn x hx).of_sameFolders hsame)
    fun x hx => hbacked.spot_ne_directory hready hx
  rw [backUpFrom_runIn_fault hs hcopy hsystem hdiscard]
  exact .cleared hpaths hready (hbacked.cleared hcleared)

/-- A copy that succeeds adds one to the backups that are made. -/
theorem backUpFrom_copied {x : Site} {w : World} (hready : Ready suffix fs (xs ++ [x])) (hbacked : Backed xs fs w.files)
    (rest : List Path) : ∃ w', Backed (xs ++ [x]) fs w'.files ∧
      (backUpFrom suffix (xs.map Site.path) (x.path :: rest)).runIn w =
        (backUpFrom suffix ((xs ++ [x]).map Site.path) rest).runIn w' := by
  have hsame := hbacked.sameFolders hready.init
  have hin := hready.isIn x (by simp)
  obtain ⟨bytes, executable, hnode⟩ := hready.file x (by simp)
  have hroute : w.files.node? x.route = some (.file bytes executable) := by
    rw [hbacked.rest _ fun y hy => hready.apart x (by simp) y (List.mem_append_left _ hy), hnode]
  have hspot : w.files.node? x.spot ≠ some .directory :=
    fun hdir => hready.free x (by simp) ((hsame.folder _).mp hdir)
  have hcopy := (hin.of_sameFolders hsame).copy_to_sibling hroute hspot
  obtain ⟨w', hfiles, hrun⟩ := backUpFrom_runIn_copied hin.siblingPath_eq hcopy rest
  refine ⟨w', hfiles ▸ hbacked.snoc hready hnode, ?_⟩
  rw [hrun, List.map_append, List.map_singleton]

theorem BackUpEnds.of_nothing_done {w : World} {paths : List Path} {failure : Failure}
    (hbacked : Backed [] fs w.files) : BackUpEnds suffix fs paths (.error failure, w) :=
  .cleared (by simp) ⟨by simp, by simp, by simp, by simp⟩ (hbacked.cleared (Cleared.nil _))

theorem backUpFrom_ends (ps : List Path) (w : World) (hready : Ready suffix fs xs) (hbacked : Backed xs fs w.files)
    (hplain : ∀ p ∈ ps, p.Plain) (hfile : ∀ p ∈ ps, fs.FileAt p.text)
    (hsep : Separate suffix fs (xs.map Site.path ++ ps)) :
    BackUpEnds suffix fs (xs.map Site.path ++ ps) ((backUpFrom suffix (xs.map Site.path) ps).runIn w) := by
  induction ps generalizing xs w with
  | nil =>
    rw [List.append_nil]
    exact .backed rfl hready hbacked
  | cons p rest ih =>
    have hp := hplain p List.mem_cons_self
    have hpfile := hfile p List.mem_cons_self
    have hsame := hbacked.sameFolders hready
    have hmem : ∀ x ∈ xs, x.path ∈ xs.map Site.path ++ p :: rest :=
      fun x hx => List.mem_append_left _ (List.mem_map_of_mem hx)
    have hnamed := named_of_fileAt hp hpfile
    cases hs : siblingPath suffix p with
    | error failure =>
      -- A suffix with which one file was backed up gives every named path a backup path.
      have hnil : xs = [] := by
        by_contra hne
        obtain ⟨text, rfl, husable⟩ := hready.usable hne
        rw [siblingPath_text hp hnamed husable.no_slash] at hs
        cases hs
      subst hnil
      have hrun : (backUpFrom suffix [] (p :: rest)).runIn w = (.error failure, w) := by
        simp [backUpFrom, Action.runIn_bind, hs, Except.mapError]
      rw [List.map_nil, hrun]
      exact .of_nothing_done hbacked
    | ok s =>
      have hfree : w.files.isDirectory s.text = false := by
        rw [hsame.isDirectory_eq]
        exact hsep.free p (by simp) s hs
      cases hcopy : w.files.copy p s with
      | error fault =>
        by_cases hsystem : fault.isSystem = true
        · exact backUpFrom_fault hready hbacked hmem hs hcopy hsystem
        · have hnil : xs = [] := by
            by_contra hne
            obtain ⟨text, rfl, husable⟩ := hready.usable hne
            rw [siblingPath_text hp hnamed husable.no_slash, Except.ok.injEq] at hs
            have hnul : '\x00' ∉ s.text.toList := by
              rw [← hs, text_beside hnamed]
              simp [no_nul_of_fileAt hpfile, husable.no_nul]
            exact hsystem (isSystem_of_copy_error (no_nul_of_fileAt hpfile) hnul hcopy)
          subst hnil
          have hrun : (backUpFrom suffix [] (p :: rest)).runIn w = (.error (.file fault), w) := by
            simp [backUpFrom, Action.runIn_bind, hs, tryCopy_error hcopy, hsystem, Except.mapError]
          rw [List.map_nil, hrun]
          exact .of_nothing_done hbacked
      | ok fs₁ =>
        obtain ⟨x, rfl, rfl, hnow⟩ := exists_site_of_copy hp hs hfree hcopy
        have hlist : xs.map Site.path ++ x.path :: rest = (xs ++ [x]).map Site.path ++ rest := by simp
        rw [hlist] at hsep ⊢
        have hready' := hready.snoc (hnow.of_sameFolders hsame.symm) hpfile
          (hsep.mono fun q hq => List.mem_append_left _ hq)
        obtain ⟨w', hbacked', hstep⟩ := backUpFrom_copied hready' hbacked rest
        rw [hstep]
        exact ih w' hready' hbacked' (fun q hq => hplain q (List.mem_cons_of_mem _ hq))
          (fun q hq => hfile q (List.mem_cons_of_mem _ hq)) hsep

theorem backUp_ends {paths : List Path} (w : World) (hplain : ∀ p ∈ paths, p.Plain)
    (hfile : ∀ p ∈ paths, w.files.FileAt p.text) (hsep : Separate suffix w.files paths) :
    BackUpEnds suffix w.files paths ((backUp suffix paths).runIn w) :=
  backUpFrom_ends paths w ⟨by simp, by simp, by simp, by simp⟩ (Backed.nil _) hplain hfile hsep

/-! ### Restore -/

/-- While the files of the sites may have changed: each spot holds what its file held, or is empty and the file holds
it. -/
structure Held (suffix : Value) (xs : List Site) (fs fs' : FileSystem) : Prop where
  isIn : ∀ x ∈ xs, x.In suffix fs'
  free : ∀ x ∈ xs, fs'.node? x.route ≠ some .directory
  kept : ∀ x ∈ xs, fs'.node? x.spot = fs.node? x.route ∨
    fs'.node? x.spot = none ∧ fs'.node? x.route = fs.node? x.route

/-- Some of the sites are restored: no backup of them is left. -/
structure Restored (suffix : Value) (xs done : List Site) (fs start fs' : FileSystem) : Prop where
  held : Held suffix xs fs fs'
  spot : ∀ x ∈ done, fs'.node? x.spot = none
  rest : ∀ r, (∀ x ∈ xs, r ≠ x.route ∧ r ≠ x.spot) → fs'.node? r = start.node? r

variable {done : List Site} {start : FileSystem}

theorem Restored.route (h : Restored suffix xs done fs start fs') (hready : Ready suffix fs xs) {x : Site} (hx : x ∈ xs)
    (hdone : x ∈ done) : fs'.node? x.route = fs.node? x.route := by
  rcases h.held.kept x hx with hkept | ⟨_, hkept⟩
  · obtain ⟨bytes, executable, hfile⟩ := hready.file x hx
    rw [h.spot x hdone, hfile] at hkept
    cases hkept
  · exact hkept

/-- What restoring one file does to the file system. -/
def putBack (fs : FileSystem) (x : Site) (node : Node) : FileSystem :=
  (fs.put x.route node).erase x.spot

section PutBack

variable {x y : Site} {node : Node}

theorem node?_putBack_spot (hin : x.In suffix fs) : (putBack fs x node).node? x.spot = none :=
  node?_erase_self _ hin.spot_ne_nil

theorem node?_putBack_route (hin : x.In suffix fs) (hroute : x.route ≠ []) :
    (putBack fs x node).node? x.route = some node := by
  rw [putBack, node?_erase_other _ hin.route_ne_spot, node?_put_self _ _ hroute]

theorem node?_putBack_other {r : Route} (hroute : r ≠ x.route) (hspot : r ≠ x.spot) :
    (putBack fs x node).node? r = fs.node? r := by
  rw [putBack, node?_erase_other _ hspot, node?_put_other _ _ hroute]

theorem sameFolders_putBack (hin : x.In suffix fs) (hroute : fs.node? x.route ≠ some .directory)
    (hspot : fs.node? x.spot ≠ some .directory) (bytes : List UInt8) (executable : Bool) :
    SameFolders fs (putBack fs x (.file bytes executable)) := by
  have hput := (changesOnly_put hin.locate hroute bytes executable).sameFolders
  have hspot' : (fs.put x.route (.file bytes executable)).node? x.spot ≠ some .directory :=
    fun hdir => hspot ((hput.folder _).mp hdir)
  exact hput.trans (changesOnly_erase (hin.of_sameFolders hput).locate_sibling hspot').sameFolders

end PutBack

theorem Held.spot_ne_directory (h : Held suffix xs fs fs') (hready : Ready suffix fs xs) {x : Site} (hx : x ∈ xs) :
    fs'.node? x.spot ≠ some .directory := by
  obtain ⟨bytes, executable, hfile⟩ := hready.file x hx
  rcases h.kept x hx with hkept | ⟨hkept, _⟩
  · simp [hkept, hfile]
  · simp [hkept]

theorem Held.putBack {x : Site} (h : Held suffix xs fs fs') (hready : Ready suffix fs xs) (hx : x ∈ xs)
    {bytes : List UInt8} {executable : Bool} (hnode : fs.node? x.route = some (.file bytes executable)) :
    Held suffix xs fs (putBack fs' x (.file bytes executable)) := by
  have hin := h.isIn x hx
  have hsame := sameFolders_putBack hin (h.free x hx) (h.spot_ne_directory hready hx) bytes executable
  have hback : (Backup.putBack fs' x (.file bytes executable)).node? x.route = some (.file bytes executable) :=
    node?_putBack_route hin (ne_nil_of_node? (h.free x hx))
  refine ⟨fun y hy => (h.isIn y hy).of_sameFolders hsame, fun y hy hdir => h.free y hy ((hsame.folder _).mp hdir), ?_⟩
  intro y hy
  by_cases hspot : y.spot = x.spot
  · -- The same spot means the same file, which is back.
    have heq := (hready.isIn y hy).route_eq_of_spot_eq (hready.isIn x hx) hspot
    refine Or.inr ⟨?_, ?_⟩
    · rw [hspot, node?_putBack_spot hin]
    · rw [heq, hback, hnode]
  · rw [node?_putBack_other (hready.apart x hx y hy).symm hspot]
    refine (h.kept y hy).imp_right fun hkept => ⟨hkept.1, ?_⟩
    by_cases heq : y.route = x.route
    · rw [heq, hback, hnode]
    · rw [node?_putBack_other heq (hready.apart y hy x hx), hkept.2]

theorem Restored.putBack {x : Site} (h : Restored suffix xs done fs start fs') (hready : Ready suffix fs xs)
    (hx : x ∈ xs) {bytes : List UInt8} {executable : Bool} (hdone : ∀ y ∈ done, y ∈ xs)
    (hnode : fs.node? x.route = some (.file bytes executable)) :
    Restored suffix xs (x :: done) fs start (putBack fs' x (.file bytes executable)) where
  held := h.held.putBack hready hx hnode
  spot := by
    intro y hy
    by_cases hspot : y.spot = x.spot
    · rw [hspot, node?_putBack_spot (h.held.isIn x hx)]
    · rcases List.mem_cons.mp hy with rfl | hy
      · exact absurd rfl hspot
      · rw [node?_putBack_other (hready.apart x hx y (hdone y hy)).symm hspot, h.spot y hy]
  rest := by
    intro r hr
    rw [node?_putBack_other (hr x hx).1 (hr x hx).2, h.rest r hr]

theorem Restored.skip {x : Site} (h : Restored suffix xs done fs start fs') (hspot : fs'.node? x.spot = none) :
    Restored suffix xs (x :: done) fs start fs' :=
  { h with spot := fun y hy => (List.mem_cons.mp hy).elim (fun heq => heq ▸ hspot) (h.spot y) }

theorem restoreOne_missing {p s : Path} {w : World} (summary : Summary) (hs : siblingPath suffix p = .ok s)
    (hprobe : w.files.probe s.text = .ok none) : (restoreOne suffix summary p).runIn w =
      (.ok { summary with missing := summary.missing ++ [p] }, { w with
        journal := w.journal ++ [.logged ⟨.warning, logger, "No backup found for " ++ p.text⟩] }) := by
  simp [restoreOne, Action.runIn_bind, hs, Action.leadsSomewhere, Action.probe, hprobe, Except.mapError, Except.map]

theorem restoreOne_refused {p s : Path} {w : World} {node : Node} {fault : FileFault} (summary : Summary)
    (hs : siblingPath suffix p = .ok s) (hprobe : w.files.probe s.text = .ok (some node))
    (hcopy : w.files.copy s p = .error fault) (hsystem : fault.isSystem = true) :
    (restoreOne suffix summary p).runIn w = (.ok { summary with failed := summary.failed ++ [p] }, { w with
      journal := w.journal ++ [.logged ⟨.error, logger, "Failed to restore " ++ p.text ++ ": " ++ fault.message⟩] }) := by
  simp [restoreOne, Action.runIn_bind, hs, Action.leadsSomewhere, Action.probe, hprobe, tryCopy_error hcopy, hsystem,
    Except.mapError, Except.map]

theorem restoreOne_empty {x : Site} {w : World} (summary : Summary) (hin : x.In suffix w.files)
    (hspot : w.files.node? x.spot = none) : (restoreOne suffix summary x.path).runIn w =
      (.ok { summary with missing := summary.missing ++ [x.path] }, { w with
        journal := w.journal ++ [.logged ⟨.warning, logger, "No backup found for " ++ x.path.text⟩] }) := by
  have hprobe : w.files.probe x.sibling.text = .ok none := by rw [probe, hin.stat_sibling_none hspot]
  exact restoreOne_missing summary hin.siblingPath_eq hprobe

theorem restoreOne_file {x : Site} {w : World} (summary : Summary) (hin : x.In suffix w.files) {bytes : List UInt8}
    {executable : Bool} (hspot : w.files.node? x.spot = some (.file bytes executable))
    (hroute : w.files.node? x.route ≠ some .directory) : (restoreOne suffix summary x.path).runIn w =
      (.ok { summary with processed := summary.processed ++ [x.path] }, { w with
        files := putBack w.files x (.file bytes executable)
        journal := w.journal ++ [.logged ⟨.debug, logger, "Restored from backup: " ++ x.path.text⟩] }) := by
  have hprobe : w.files.probe x.sibling.text = .ok (some (.file bytes executable)) :=
    probe_eq_some_iff.mpr (hin.stat_sibling_eq_ok_iff.mpr hspot)
  have hput := (changesOnly_put hin.locate hroute bytes executable).sameFolders
  have hin' := hin.of_sameFolders hput
  have hspot' : (w.files.put x.route (.file bytes executable)).node? x.spot = some (.file bytes executable) := by
    rw [node?_put_other _ _ hin.route_ne_spot.symm, hspot]
  have hremove : ({ w with files := w.files.put x.route (.file bytes executable) } : World).files.remove
      x.sibling.text = .ok (putBack w.files x (.file bytes executable)) :=
    remove_of_file hin'.locate_sibling (hin'.stat_sibling_eq_ok_iff.mpr hspot')
  simp [restoreOne, Action.runIn_bind, hin.siblingPath_eq, Action.leadsSomewhere, Action.probe, hprobe,
    tryCopy_ok (hin.copy_from_sibling hspot hroute), tryRemove_ok hremove, Except.mapError,
    Except.map]

theorem restoreOne_site {x : Site} (w : World) (summary : Summary) (hready : Ready suffix fs xs)
    (hdone : ∀ y ∈ done, y ∈ xs) (h : Restored suffix xs done fs start w.files) (hx : x ∈ xs) :
    ∃ summary' w', (restoreOne suffix summary x.path).runIn w = (.ok summary', w') ∧
      summary'.failed = summary.failed ∧ Restored suffix xs (x :: done) fs start w'.files := by
  have hin := h.held.isIn x hx
  obtain ⟨bytes, executable, hfile⟩ := hready.file x hx
  rcases h.held.kept x hx with hkept | ⟨hspot, _⟩
  · have hrun := restoreOne_file summary hin (hkept.trans hfile) (h.held.free x hx)
    exact ⟨_, _, hrun, rfl, h.putBack hready hx hdone hfile⟩
  · have hrun := restoreOne_empty summary hin hspot
    exact ⟨_, _, hrun, rfl, h.skip hspot⟩

/-- Restoring goes on from site to site; what is restored stays so. -/
theorem foldlM_restoreOne (ys : List Site) (w : World) (summary : Summary) (hready : Ready suffix fs xs)
    (hdone : ∀ y ∈ done, y ∈ xs) (hys : ∀ y ∈ ys, y ∈ xs) (h : Restored suffix xs done fs start w.files) :
    ∃ summary' w', ((ys.map Site.path).foldlM (restoreOne suffix) summary).runIn w = (.ok summary', w') ∧
      summary'.failed = summary.failed ∧ Restored suffix xs (ys.reverse ++ done) fs start w'.files := by
  induction ys generalizing done w summary with
  | nil => exact ⟨summary, w, rfl, rfl, h⟩
  | cons y rest ih =>
    obtain ⟨summary₁, w₁, hrun₁, hfailed₁, h₁⟩ := restoreOne_site w summary hready hdone h (hys y List.mem_cons_self)
    have hdone₁ : ∀ z ∈ y :: done, z ∈ xs := by
      simpa using ⟨hys y List.mem_cons_self, hdone⟩
    obtain ⟨summary₂, w₂, hrun₂, hfailed₂, h₂⟩ :=
      ih w₁ summary₁ hdone₁ (fun z hz => hys z (List.mem_cons_of_mem _ hz)) h₁
    refine ⟨summary₂, w₂, ?_, hfailed₂.trans hfailed₁, by simpa using h₂⟩
    rw [List.map_cons, List.foldlM_cons, Action.runIn_bind_ok hrun₁, hrun₂]

/-- Restoring held files succeeds and leaves no backup. -/
theorem restoreAll_sites (w : World) (hready : Ready suffix fs xs) (h : Held suffix xs fs w.files) :
    ∃ w', (restoreAll suffix (xs.map Site.path)).runIn w = (.ok (), w') ∧
      Restored suffix xs xs fs w.files w'.files := by
  have hstart : Restored suffix xs [] fs w.files w.files := ⟨h, by simp, fun _ _ => rfl⟩
  obtain ⟨summary, w', hrun, hfailed, hrestored⟩ := foldlM_restoreOne xs
    { w with journal := w.journal ++ [.logged ⟨.info, logger,
      "Restoring " ++ Text.numeral (xs.map Site.path).length ++ " original files ..."⟩] }
    {} hready (by simp) (fun _ hy => hy) hstart
  refine ⟨w', ?_, { hrestored with spot := fun x hx => hrestored.spot x (by simp [hx]) }⟩
  have hsuccess : summary.success = true := by simp [Summary.success, hfailed]
  rw [restoreAll, Action.runIn_bind_ok (Action.runIn_log ..), restore, Action.runIn_bind_ok hrun]
  simp [hsuccess]

end Backup

end Amalgam
