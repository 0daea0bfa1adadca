import Amalgam.Proofs.Backup.Passes
/-!
# A backup that fails leaves no trace

Nothing is asked of the paths here. They may lead nowhere or to directories, be listed twice, or one may be the backup
of another; only the places of the backups must be empty before. Then whatever stands at a spot later is a copy that
this backup has made, and a file and its copy hold the same as long as it runs: `Mirrored` says so. Copying a file to a
spot that is filled therefore changes nothing, a spot is never the source of anything that was there before, and
emptying the spots undoes the whole.
-/

namespace Amalgam

namespace Backup

open FileSystem Amalgam.Path

variable {suffix : Value} {fs fs' mid : FileSystem} {xs : List Site} {paths : List Path}

/-! ### Copies in turn -/

/-- The files of a list are copied to their backup paths, one after the other. -/
inductive Copied (suffix : Value) (fs : FileSystem) : List Path → FileSystem → Prop
  | nil : Copied suffix fs [] fs
  | snoc {done : List Path} {p s : Path} {mid fs' : FileSystem} (hdone : Copied suffix fs done mid)
      (hs : siblingPath suffix p = .ok s) (hcopy : mid.copy p s = .ok fs') : Copied suffix fs (done ++ [p]) fs'

/-- The files before `p` in a list are copied in turn, and then the file system refuses the copy of `p`. -/
def FirstFault (suffix : Value) (fs : FileSystem) (paths : List Path) (p : Path) (fault : FileFault) : Prop :=
  ∃ before rest mid s, paths = before ++ p :: rest ∧ Copied suffix fs before mid ∧ siblingPath suffix p = .ok s ∧
    mid.copy p s = .error fault ∧ fault.isSystem = true

/-- The backup paths lead nowhere. -/
def Unclaimed (suffix : Value) (fs : FileSystem) (paths : List Path) : Prop :=
  ∀ p ∈ paths, ∀ s, siblingPath suffix p = .ok s → fs.leadsSomewhere s.text = false

instance (suffix : Value) (fs : FileSystem) (paths : List Path) : Decidable (Unclaimed suffix fs paths) :=
  inferInstanceAs (Decidable (∀ p ∈ paths, ∀ s, siblingPath suffix p = .ok s → fs.leadsSomewhere s.text = false))

/-- A file and its backup hold the same, the backup is new, and all else is as it was. -/
structure Mirrored (suffix : Value) (xs : List Site) (fs fs' : FileSystem) : Prop where
  isIn : ∀ x ∈ xs, x.In suffix fs
  empty : ∀ x ∈ xs, fs.node? x.spot = none
  here : fs'.here = fs.here
  file : ∀ x ∈ xs, ∃ bytes executable, fs'.node? x.spot = some (.file bytes executable) ∧
    fs'.node? x.route = some (.file bytes executable)
  rest : ∀ r, (∀ x ∈ xs, r ≠ x.spot) → fs'.node? r = fs.node? r

namespace Mirrored

theorem nil (suffix : Value) (fs : FileSystem) : Mirrored suffix [] fs fs :=
  ⟨by simp, by simp, rfl, by simp, fun _ _ => rfl⟩

theorem spot_ne_directory (h : Mirrored suffix xs fs fs') {x : Site} (hx : x ∈ xs) :
    fs'.node? x.spot ≠ some .directory := by
  obtain ⟨bytes, executable, hspot, _⟩ := h.file x hx
  simp [hspot]

theorem sameFolders (h : Mirrored suffix xs fs fs') : SameFolders fs fs' := by
  refine ⟨h.here, fun r => ?_⟩
  by_cases hr : ∃ x ∈ xs, r = x.spot
  · obtain ⟨x, hx, rfl⟩ := hr
    exact iff_of_false (h.spot_ne_directory hx) (by simp [h.empty x hx])
  · push Not at hr
    rw [h.rest r hr]

theorem same_of_cleared {fs'' : FileSystem} (h : Mirrored suffix xs fs fs') (hcleared : Cleared xs fs' fs'') :
    Same fs fs'' := by
  refine ⟨hcleared.here.trans h.here, fun r => ?_⟩
  by_cases hr : ∃ x ∈ xs, r = x.spot
  · obtain ⟨x, hx, rfl⟩ := hr
    rw [hcleared.spot x hx, h.empty x hx]
  · push Not at hr
    rw [hcleared.rest r hr, h.rest r hr]

/-- A spot that is filled holds what its file holds, whichever of its sites it was filled for. -/
theorem filled (h : Mirrored suffix xs fs fs') {x : Site} (hin : x.In suffix fs) (hempty : fs.node? x.spot = none)
    (hfilled : fs'.node? x.spot ≠ none) : fs'.node? x.spot = fs'.node? x.route := by
  obtain ⟨y, hy, hspot⟩ : ∃ y ∈ xs, x.spot = y.spot := by
    by_contra hnot
    push Not at hnot
    exact hfilled ((h.rest x.spot hnot).trans hempty)
  have hroute := hin.route_eq_of_spot_eq (h.isIn y hy) hspot
  obtain ⟨bytes, executable, hyspot, hyroute⟩ := h.file y hy
  rw [hspot, hroute, hyspot, hyroute]

theorem snoc {x : Site} (h : Mirrored suffix xs fs fs') (hin : x.In suffix fs) (hempty : fs.node? x.spot = none)
    {bytes : List UInt8} {executable : Bool} (hnode : fs'.node? x.route = some (.file bytes executable)) :
    Mirrored suffix (xs ++ [x]) fs (fs'.put x.spot (.file bytes executable)) where
  isIn := by simpa [or_imp, forall_and] using ⟨h.isIn, hin⟩
  empty := by simpa [or_imp, forall_and] using ⟨h.empty, hempty⟩
  here := h.here
  file := by
    have hself := node?_put_self fs' (.file bytes executable) hin.spot_ne_nil
    have hlast : ∃ b e, (fs'.put x.spot (.file bytes executable)).node? x.spot = some (.file b e) ∧
        (fs'.put x.spot (.file bytes executable)).node? x.route = some (.file b e) :=
      ⟨bytes, executable, hself, by rw [node?_put_other _ _ hin.route_ne_spot, hnode]⟩
    -- A place that holds a file keeps it: if it is the spot, the spot was filled with the same before.
    have hkeeps : ∀ r b e, fs'.node? r = some (.file b e) →
        (fs'.put x.spot (.file bytes executable)).node? r = some (.file b e) := by
      intro r b e hr
      by_cases hspot : r = x.spot
      · have hfilled := h.filled hin hempty (by simp [← hspot, hr])
        rw [hspot, hself, ← hnode, ← hfilled, ← hspot, hr]
      · rw [node?_put_other _ _ hspot, hr]
    intro y hy
    rcases List.mem_append.mp hy with hy | hy
    · obtain ⟨b, e, hspot, hroute⟩ := h.file y hy
      exact ⟨b, e, hkeeps _ b e hspot, hkeeps _ b e hroute⟩
    · exact List.mem_singleton.mp hy ▸ hlast
  rest := by
    intro r hr
    rw [node?_put_other _ _ (hr x (by simp)), h.rest r fun y hy => hr y (List.mem_append_left _ hy)]

/-- One more copy keeps files and backups alike. -/
theorem copy {p s : Path} (h : Mirrored suffix xs fs mid) (hp : p.Plain) (hs : siblingPath suffix p = .ok s)
    (hnowhere : fs.leadsSomewhere s.text = false) (hcopy : mid.copy p s = .ok fs') :
    ∃ x : Site, x.path = p ∧ Mirrored suffix (xs ++ [x]) fs fs' := by
  have hsame := h.sameFolders
  have hfree : mid.isDirectory s.text = false := by
    rw [hsame.isDirectory_eq]
    exact not_isDirectory_of_nowhere hnowhere
  obtain ⟨x, rfl, rfl, hnow⟩ := exists_site_of_copy hp hs hfree hcopy
  have hin := hnow.of_sameFolders hsame.symm
  have hempty := node?_of_nowhere hs hnowhere hin.locate_sibling
  obtain ⟨bytes, executable, _, hstat, _⟩ := copy_ok hcopy
  have hnode := hnow.stat_eq_ok_iff.mp hstat
  have hspot : mid.node? x.spot ≠ some .directory := by simp [hsame.folder, hempty]
  rw [hnow.copy_to_sibling hnode hspot, Except.ok.injEq] at hcopy
  exact ⟨x, rfl, hcopy ▸ h.snoc hin hempty hnode⟩

end Mirrored

theorem Copied.mirrored (h : Copied suffix fs paths fs') (hplain : ∀ p ∈ paths, p.Plain)
    (hnowhere : Unclaimed suffix fs paths) : ∃ xs : List Site, xs.map Site.path = paths ∧ Mirrored suffix xs fs fs' := by
  induction h with
  | nil => exact ⟨[], rfl, .nil _ _⟩
  | @snoc done p s mid fs' hdone hs hcopy ih =>
    obtain ⟨xs, rfl, hmirrored⟩ := ih (fun q hq => hplain q (List.mem_append_left _ hq))
      fun q hq => hnowhere q (List.mem_append_left _ hq)
    have hlast : p ∈ xs.map Site.path ++ [p] := by simp
    obtain ⟨x, rfl, hmirrored'⟩ := hmirrored.copy (hplain p hlast) hs (hnowhere p hlast s hs) hcopy
    exact ⟨xs ++ [x], by simp, hmirrored'⟩

/-! ### The run of a backup -/

/-- A backup goes through the copies that succeed. -/
theorem Copied.backUp_runIn {w : World} (h : Copied suffix w.files paths fs') : ∃ w' : World, w'.files = fs' ∧
    ∀ rest, (backUp suffix (paths ++ rest)).runIn w = (backUpFrom suffix paths rest).runIn w' := by
  induction h with
  | nil => exact ⟨w, rfl, fun rest => rfl⟩
  | @snoc done p s mid fs' _ hs hcopy ih =>
    obtain ⟨w₁, rfl, hrun⟩ := ih
    refine ⟨{ w₁ with
      files := fs'
      journal := w₁.journal ++ [.logged ⟨.debug, logger, "Backup created: " ++ s.text⟩] }, rfl, fun rest => ?_⟩
    rw [List.append_assoc, List.singleton_append, hrun]
    simp [backUpFrom, Action.runIn_bind, hs, tryCopy_ok hcopy, Except.mapError]

theorem Copied.backUp_returns {w : World} (h : Copied suffix w.files paths fs') :
    ∃ w' : World, w'.files = fs' ∧ (backUp suffix paths).runIn w = (.ok { processed := paths }, w') := by
  obtain ⟨w', hfiles, hrun⟩ := h.backUp_runIn
  refine ⟨w', hfiles, ?_⟩
  rw [← List.append_nil paths, hrun [], List.append_nil]
  rfl

/-- The first copy that fails ends the backup, and the files stand as before it. -/
theorem FirstFault.backUp_undone {w : World} {p : Path} {fault : FileFault}
    (h : FirstFault suffix w.files paths p fault) (hplain : ∀ p ∈ paths, p.Plain)
    (hnowhere : Unclaimed suffix w.files paths) : ∃ w' : World, Same w.files w'.files ∧
      (backUp suffix paths).runIn w = (.error (.notBackedUp p.text fault), w') := by
  obtain ⟨before, rest, mid, s, rfl, hcopied, hs, hcopy, hsystem⟩ := h
  obtain ⟨w₁, rfl, hrun⟩ := hcopied.backUp_runIn
  obtain ⟨xs, rfl, hmirrored⟩ := hcopied.mirrored (fun q hq => hplain q (List.mem_append_left _ hq))
    fun q hq => hnowhere q (List.mem_append_left _ hq)
  obtain ⟨w', hdiscard, hcleared⟩ := discard_sites w₁
    (fun x hx => (hmirrored.isIn x hx).of_sameFolders hmirrored.sameFolders) fun x hx => hmirrored.spot_ne_directory hx
  refine ⟨w', hmirrored.same_of_cleared hcleared, ?_⟩
  rw [hrun, backUpFrom_runIn_fault hs hcopy hsystem hdiscard]

theorem family_of_siblingPath_error {p : Path} {failure : Failure} (h : siblingPath suffix p = .error failure) :
    failure.family ≠ .backup := by
  cases suffix with
  | text text =>
    cases hname : p.withName (p.name ++ text) with
    | ok s => simp [siblingPath, hname, Except.mapError] at h
    | error fault =>
      simp only [siblingPath, hname, Except.mapError, Except.error.injEq] at h
      simp [← h, Failure.family]
  | _ =>
    cases h
    simp [Failure.family, Failure.misuseFamily]

/-- Every backup copies the rest of its list, or meets a first fault there, or is refused the text of a path. -/
theorem backUpFrom_cases {done : List Path} (rest : List Path) (w : World) (hcopied : Copied suffix fs done w.files) :
    (∃ fs', Copied suffix fs (done ++ rest) fs') ∨ (∃ p fault, FirstFault suffix fs (done ++ rest) p fault) ∨
      ∃ failure w', failure.family ≠ .backup ∧ (backUpFrom suffix done rest).runIn w = (.error failure, w') := by
  induction rest generalizing done w with
  | nil =>
    rw [List.append_nil]
    exact Or.inl ⟨w.files, hcopied⟩
  | cons p rest ih =>
    cases hs : siblingPath suffix p with
    | error failure =>
      refine Or.inr (Or.inr ⟨failure, w, family_of_siblingPath_error hs, ?_⟩)
      simp [backUpFrom, Action.runIn_bind, hs, Except.mapError]
    | ok s =>
      cases hcopy : w.files.copy p s with
      | ok fs' =>
        obtain ⟨w', rfl, hrun⟩ := backUpFrom_runIn_copied hs hcopy rest
        have hnext := ih w' (hcopied.snoc hs hcopy)
        rwa [List.append_assoc, List.singleton_append, ← hrun] at hnext
      | error fault =>
        by_cases hsystem : fault.isSystem = true
        · exact Or.inr (Or.inl ⟨p, fault, done, rest, _, s, rfl, hcopied, hs, hcopy, hsystem⟩)
        · refine Or.inr (Or.inr ⟨.file fault, w, ?_, ?_⟩)
          · cases fault with
            | embeddedNul => simp [Failure.family, Failure.fileFamily]
            | _ => exact absurd rfl hsystem
          · simp [backUpFrom, Action.runIn_bind, hs, tryCopy_error hcopy, hsystem, Except.mapError]

/-! ### What it leaves -/

/-- Every backup path holds what its file holds, which is what the file held before if it was there, and whatever does
not lead to a backup leads to what it led to. -/
structure Doubled (suffix : Value) (paths : List Path) (fs fs' : FileSystem) : Prop where
  backup : ∀ p ∈ paths, ∃ s bytes executable, siblingPath suffix p = .ok s ∧
    fs'.stat s.text = .ok (.file bytes executable) ∧ fs'.stat p.text = .ok (.file bytes executable) ∧
    ∀ node, fs.stat p.text = .ok node → node = .file bytes executable
  rest : ∀ path, (∀ p ∈ paths, ∀ s, siblingPath suffix p = .ok s → ¬ fs.SamePlace path s.text) →
    fs'.probe path = fs.probe path

theorem Mirrored.doubled (h : Mirrored suffix xs fs fs') : Doubled suffix (xs.map Site.path) fs fs' := by
  have hsame := h.sameFolders
  refine ⟨?_, ?_⟩
  · intro p hp
    obtain ⟨x, hx, rfl⟩ := List.mem_map.mp hp
    have hin := h.isIn x hx
    have hin' := hin.of_sameFolders hsame
    obtain ⟨bytes, executable, hspot, hroute⟩ := h.file x hx
    refine ⟨x.sibling, bytes, executable, hin.siblingPath_eq, hin'.stat_sibling_eq_ok_iff.mpr hspot,
      hin'.stat_eq_ok_iff.mpr hroute, fun node hnode => ?_⟩
    -- What was there before is not at a spot, because the spots were empty.
    have hbefore := hin.stat_eq_ok_iff.mp hnode
    have hkept : fs'.node? x.route = fs.node? x.route := by
      refine h.rest x.route fun y hy heq => ?_
      rw [heq, h.empty y hy] at hbefore
      cases hbefore
    rw [hkept, hbefore] at hroute
    exact Option.some.inj hroute
  · intro path hpath
    refine hsame.probe_eq fun r hr => h.rest r ?_
    rintro x hx rfl
    have hin := h.isIn x hx
    exact hpath x.path (List.mem_map_of_mem hx) x.sibling hin.siblingPath_eq ⟨x.spot, hr, hin.locate_sibling⟩

/-- A backup to paths that lead nowhere ends with the first copy that fails, and then nothing is changed; or it has made
a backup of every file of the list, and nothing else. -/
theorem backUp_traceless {names : List String} {w w' : World} {ended : Except Failure Summary}
    (hnowhere : Unclaimed suffix w.files (names.map Path.ofText))
    (hrun : (backUp suffix (names.map Path.ofText)).runIn w = (ended, w')) :
    (∀ p fault, FirstFault suffix w.files (names.map Path.ofText) p fault → ended = .error (.notBackedUp p.text fault)) ∧
    (∀ failure, ended = .error failure → failure.family = .backup → Same w.files w'.files ∧
      ∃ p fault, FirstFault suffix w.files (names.map Path.ofText) p fault ∧ failure = .notBackedUp p.text fault) ∧
    (∀ summary, ended = .ok summary → summary = { processed := names.map Path.ofText } ∧
      Doubled suffix (names.map Path.ofText) w.files w'.files) := by
  have hplain : ∀ p ∈ names.map Path.ofText, p.Plain := fun p hp => plain_of_mem_ofText hp
  generalize names.map Path.ofText = paths at *
  have hfault : ∀ p fault, FirstFault suffix w.files paths p fault →
      ended = .error (.notBackedUp p.text fault) ∧ Same w.files w'.files := by
    intro p fault h
    obtain ⟨w₁, hsame, hundone⟩ := h.backUp_undone hplain hnowhere
    rw [hrun] at hundone
    cases hundone
    exact ⟨rfl, hsame⟩
  refine ⟨fun p fault h => (hfault p fault h).1, ?_⟩
  rcases backUpFrom_cases paths w .nil with ⟨fs', hcopied⟩ | ⟨p, fault, h⟩ | ⟨failure, w₁, hfamily, hrefused⟩
  · obtain ⟨w₁, rfl, hreturns⟩ := hcopied.backUp_returns
    obtain ⟨xs, rfl, hmirrored⟩ := hcopied.mirrored hplain hnowhere
    rw [List.nil_append] at hreturns
    rw [hrun] at hreturns
    cases hreturns
    refine ⟨by simp, fun summary hended => ⟨(Except.ok.inj hended).symm, hmirrored.doubled⟩⟩
  · obtain ⟨rfl, hsame⟩ := hfault p fault h
    refine ⟨fun failure hended _ => ⟨hsame, p, fault, h, (Except.error.inj hended).symm⟩, by simp⟩
  · rw [backUp, hrefused] at hrun
    cases hrun
    refine ⟨fun failure' hended hbackup => ?_, by simp⟩
    exact absurd (Except.error.inj hended ▸ hbackup) hfamily

/-- A file, its backup as a file of its own, the file again, and one that is not there. -/
theorem backUp_traceless_repeated :
    let w := Bundler.smallWorld [(["a.c"], Bundler.textFile "f")]
    let paths := ["a.c", "a.c.bak", "a.c", "gone.c"].map Path.ofText
    Unclaimed (.text ".bak") w.files paths ∧
    ((backUp (.text ".bak") (paths.take 3)).runIn w).2.files.read "a.c.bak.bak" = .ok "f".toUTF8.toList ∧
    ((backUp (.text ".bak") paths).runIn w).1 = .error (.notBackedUp "gone.c" (.missing "gone.c")) ∧
    Same w.files ((backUp (.text ".bak") paths).runIn w).2.files := by
  intro w paths
  obtain ⟨hnowhere, hread, hfailed⟩ : Unclaimed (.text ".bak") w.files paths ∧
      ((backUp (.text ".bak") (paths.take 3)).runIn w).2.files.read "a.c.bak.bak" = .ok "f".toUTF8.toList ∧
      ((backUp (.text ".bak") paths).runIn w).1 = .error (.notBackedUp "gone.c" (.missing "gone.c")) := by
    decide +kernel
  refine ⟨hnowhere, hread, hfailed, ?_⟩
  obtain ⟨_, hraised, _⟩ := backUp_traceless hnowhere (Prod.ext hfailed rfl)
  exact (hraised _ rfl rfl).1

end Backup

end Amalgam
