import Amalgam.Proofs.Backup.Undo
/-!
# What a session that ends silently has restored

The restore at the end of a session sorts its files into those it put back, those whose backup is missing and those that
it failed on, and only the last make it fail. The body here may do anything but fill a backup path. So what stands at a
backup path when the body ends is the copy of the file, or nothing: the sites of the first kind are held and are put
back, and the restore passes over the others. A file whose backup is gone is restored if it was not changed, or if it is
listed once more under a name by which its backup is still found.
-/

namespace Amalgam

namespace Backup

open FileSystem Amalgam.Path

variable {suffix : Value} {xs zs done : List Site} {fs mid left : FileSystem} {paths : List Path}

/-- The backup paths lead to nothing but what they led to, and the working directory is the same. -/
structure NeverFills (suffix : Value) (paths : List Path) (fs fs' : FileSystem) : Prop where
  here : fs'.here = fs.here
  backup : ∀ p ∈ paths, ∀ s, siblingPath suffix p = .ok s → ∀ node, fs'.stat s.text = .ok node →
    fs.stat s.text = .ok node

/-- A file holds what it held before, or a path to the same place still has its backup. -/
def Recoverable (suffix : Value) (paths : List Path) (before left : FileSystem) (p : Path) : Prop :=
  left.read p.text = before.read p.text ∨ ∃ q ∈ paths, left.SamePlace p.text q.text ∧
    ∃ s, siblingPath suffix q = .ok s ∧ left.leadsSomewhere s.text = true

/-- Two file systems with one working directory take a path to the same route, if to any. -/
theorem locate_unique {fs' : FileSystem} (hhere : fs'.here = fs.here) {path : String} {r r' : Route}
    (h : fs.locate path = .ok r) (h' : fs'.locate path = .ok r') : r' = r := by
  obtain ⟨_, _, _, hfollow⟩ := locate_ok_iff.mp h
  obtain ⟨_, _, _, hfollow'⟩ := locate_ok_iff.mp h'
  rw [eq_foldl_of_follow hfollow, eq_foldl_of_follow hfollow', startOf, startOf, hhere]

/-! ### The sites that still have their backups -/

/-- The sites whose backup path leads somewhere. -/
def keeping (left : FileSystem) (xs : List Site) : List Site :=
  xs.filter fun x => left.leadsSomewhere x.sibling.text

theorem mem_keeping {x : Site} : x ∈ keeping left xs ↔ x ∈ xs ∧ left.leadsSomewhere x.sibling.text = true :=
  List.mem_filter

theorem keeping_cons_of_pos {x : Site} (h : left.leadsSomewhere x.sibling.text = true) :
    keeping left (x :: xs) = x :: keeping left xs :=
  List.filter_cons_of_pos h

theorem keeping_cons_of_neg {x : Site} (h : left.leadsSomewhere x.sibling.text = false) :
    keeping left (x :: xs) = keeping left xs :=
  List.filter_cons_of_neg (by simp [h])

theorem Ready.keeping (h : Ready suffix fs xs) (left : FileSystem) : Ready suffix fs (keeping left xs) :=
  h.mono fun _ hy => (mem_keeping.mp hy).1

/-- A body that fills no backup path leaves a site without its backup, or with the backup that was made. -/
theorem NeverFills.site (h : NeverFills suffix (xs.map Site.path) mid left) (hready : Ready suffix fs xs)
    (hbacked : Backed xs fs mid) {x : Site} (hx : x ∈ keeping left xs) :
    x.In suffix left ∧ left.node? x.spot = fs.node? x.route := by
  obtain ⟨hmem, hsomewhere⟩ := mem_keeping.mp hx
  have hin := hready.isIn x hmem
  obtain ⟨node, hstat⟩ := leadsSomewhere_iff.mp hsomewhere
  have hmade := h.backup x.path (List.mem_map_of_mem hmem) x.sibling hin.siblingPath_eq node hstat
  have hspot := (hin.of_sameFolders (hbacked.sameFolders hready)).stat_sibling_eq_ok_iff.mp hmade
  obtain ⟨⟨r, hloc, _⟩, _⟩ := stat_ok_iff.mp hstat
  have hin' := hin.of_locate_sibling (h.here.trans hbacked.here) hloc
  exact ⟨hin', by rw [hin'.stat_sibling_eq_ok_iff.mp hstat, ← hspot, hbacked.spot x hmem]⟩

theorem NeverFills.held (h : NeverFills suffix (xs.map Site.path) mid left) (hready : Ready suffix fs xs)
    (hbacked : Backed xs fs mid) (hfree : ∀ p ∈ xs.map Site.path, left.isDirectory p.text = false) :
    Held suffix (keeping left xs) fs left where
  isIn := fun _ hx => (h.site hready hbacked hx).1
  free := by
    intro x hx hdir
    have hnot := hfree x.path (List.mem_map_of_mem (mem_keeping.mp hx).1)
    rw [isDirectory_iff.mpr ((h.site hready hbacked hx).1.stat_eq_ok_iff.mpr hdir)] at hnot
    cases hnot
  kept := fun _ hx => Or.inl (h.site hready hbacked hx).2

/-! ### The restore -/

/-- While files are put back, the backup path of a site without a backup goes on leading to nothing. -/
theorem probe_sibling_none {fs' : FileSystem} {x : Site} (hready : Ready suffix fs xs) (hx : x ∈ xs)
    (hhere : left.here = fs.here) (hgone : left.leadsSomewhere x.sibling.text = false)
    (hheld : Held suffix (keeping left xs) fs left) (h : Restored suffix (keeping left xs) done fs left fs')
    (hsame : SameFolders left fs') : fs'.probe x.sibling.text = .ok none := by
  have hin := hready.isIn x hx
  rw [← probe_of_nowhere hhere hin.locate_sibling hgone]
  refine hsame.probe_eq fun r hr => ?_
  obtain rfl := locate_unique hhere hin.locate_sibling hr
  have hempty := node?_of_nowhere hin.siblingPath_eq hgone hr
  refine h.rest x.spot fun y hy => ⟨?_, fun heq => ?_⟩
  · exact (hready.apart y (mem_keeping.mp hy).1 x hx).symm
  · -- A site with a backup has a file at its spot.
    obtain ⟨node, hstat⟩ := leadsSomewhere_iff.mp (mem_keeping.mp hy).2
    rw [(hheld.isIn y hy).stat_sibling_eq_ok_iff, ← heq, hempty] at hstat
    cases hstat

theorem coversRestore_all (suffix : Value) (fs : FileSystem) (paths : List Path) :
    CoversRestore (fun _ => True) suffix fs paths :=
  ⟨fun _ _ _ _ => trivial, fun _ _ _ _ _ => trivial⟩

/-- Restoring one site puts it back if it has its backup and changes nothing if it has none. -/
theorem restoreOne_kept {x : Site} (w : World) (summary : Summary) (hready : Ready suffix fs xs) (hx : x ∈ xs)
    (hhere : left.here = fs.here) (hheld : Held suffix (keeping left xs) fs left)
    (hdone : ∀ y ∈ done, y ∈ keeping left xs) (h : Restored suffix (keeping left xs) done fs left w.files)
    (hsame : SameFolders left w.files) :
    ∃ summary' w', (restoreOne suffix summary x.path).runIn w = (.ok summary', w') ∧ summary'.failed = summary.failed ∧
      Restored suffix (keeping left xs) ((keeping left [x]).reverse ++ done) fs left w'.files ∧
      SameFolders left w'.files := by
  have hstep := restoreOne_keeps (coversRestore_all suffix w.files [x.path]) summary List.mem_cons_self w (.refl _ _)
  cases hlive : left.leadsSomewhere x.sibling.text with
  | true =>
    have hmem : x ∈ keeping left xs := mem_keeping.mpr ⟨hx, hlive⟩
    obtain ⟨summary', w', hrun, hfailed, hrestored⟩ := restoreOne_site w summary (hready.keeping left) hdone h hmem
    rw [hrun] at hstep
    rw [keeping_cons_of_pos hlive]
    exact ⟨summary', w', hrun, hfailed, hrestored, hsame.trans hstep.sameFolders⟩
  | false =>
    have hprobe := probe_sibling_none hready hx hhere hlive hheld h hsame
    have hrun := restoreOne_missing summary (hready.isIn x hx).siblingPath_eq hprobe
    rw [keeping_cons_of_neg hlive]
    exact ⟨_, _, hrun, rfl, h, hsame⟩

theorem foldlM_restoreOne_kept (ys : List Site) (w : World) (summary : Summary) (hready : Ready suffix fs xs)
    (hys : ∀ y ∈ ys, y ∈ xs) (hhere : left.here = fs.here) (hheld : Held suffix (keeping left xs) fs left)
    (hdone : ∀ y ∈ done, y ∈ keeping left xs) (h : Restored suffix (keeping left xs) done fs left w.files)
    (hsame : SameFolders left w.files) :
    ∃ summary' w', ((ys.map Site.path).foldlM (restoreOne suffix) summary).runIn w = (.ok summary', w') ∧
      summary'.failed = summary.failed ∧
      Restored suffix (keeping left xs) ((keeping left ys).reverse ++ done) fs left w'.files ∧
      SameFolders left w'.files := by
  induction ys generalizing done w summary with
  | nil => exact ⟨summary, w, rfl, rfl, h, hsame⟩
  | cons y rest ih =>
    obtain ⟨summary₁, w₁, hrun₁, hfailed₁, h₁, hsame₁⟩ :=
      restoreOne_kept w summary hready (hys y List.mem_cons_self) hhere hheld hdone h hsame
    have hone : ∀ z ∈ (keeping left [y]).reverse ++ done, z ∈ keeping left xs := by
      intro z hz
      rcases List.mem_append.mp hz with hz | hz
      · obtain ⟨hmem, hlive⟩ := mem_keeping.mp (List.mem_reverse.mp hz)
        exact mem_keeping.mpr ⟨hys z (by simp [List.mem_singleton.mp hmem]), hlive⟩
      · exact hdone z hz
    obtain ⟨summary₂, w₂, hrun₂, hfailed₂, h₂, hsame₂⟩ :=
      ih w₁ summary₁ (fun z hz => hys z (List.mem_cons_of_mem _ hz)) hone h₁ hsame₁
    refine ⟨summary₂, w₂, ?_, hfailed₂.trans hfailed₁, ?_, hsame₂⟩
    · rw [List.map_cons, List.foldlM_cons, Action.runIn_bind_ok hrun₁, hrun₂]
    · have hlist : keeping left (y :: rest) = keeping left [y] ++ keeping left rest := List.filter_append [y] rest
      rw [hlist, List.reverse_append, List.append_assoc]
      exact h₂

/-- No failure is met, and the sites that have their backups are put back. -/
theorem restoreAll_kept (w : World) (hready : Ready suffix fs xs) (hhere : w.files.here = fs.here)
    (hheld : Held suffix (keeping w.files xs) fs w.files) :
    ∃ w', (restoreAll suffix (xs.map Site.path)).runIn w = (.ok (), w') ∧
      Restored suffix (keeping w.files xs) (keeping w.files xs) fs w.files w'.files ∧
      SameFolders w.files w'.files := by
  obtain ⟨w₁, hfiles, hlog⟩ := Action.exists_runIn_log .info logger
    ("Restoring " ++ Text.numeral (xs.map Site.path).length ++ " original files ...") w
  have hstart : Restored suffix (keeping w.files xs) [] fs w.files w₁.files := by
    rw [hfiles]
    exact ⟨hheld, by simp, fun _ _ => rfl⟩
  obtain ⟨summary, w', hrun, hfailed, hrestored, hsame⟩ := foldlM_restoreOne_kept xs w₁ {} hready (fun _ hy => hy) hhere
    hheld (by simp) hstart (by rw [hfiles]; exact .refl _)
  refine ⟨w', ?_, { hrestored with spot := fun x hx => hrestored.spot x (by simp [hx]) }, hsame⟩
  have hsuccess : summary.success = true := by simp [Summary.success, hfailed]
  rw [restoreAll, Action.runIn_bind_ok hlog, restore, Action.runIn_bind_ok hrun]
  simp [hsuccess]

/-! ### What is restored -/

theorem read_eq_iff_of_probe_eq {a b : FileSystem} {path : String} {bytes : List UInt8}
    (h : a.probe path = b.probe path) : a.read path = .ok bytes ↔ b.read path = .ok bytes := by
  simp only [read_eq_ok_iff, ← probe_eq_some_iff, h]

/-- After the restore a file holds what it held before exactly if it was recoverable. -/
theorem read_restored_iff {fs' : FileSystem} {x : Site} (hready : Ready suffix fs xs) (hx : x ∈ xs)
    (hhere : left.here = fs.here) (hheld : Held suffix (keeping left xs) fs left)
    (h : Restored suffix (keeping left xs) (keeping left xs) fs left fs') (hsame : SameFolders left fs') :
    fs'.read x.path.text = fs.read x.path.text ↔ Recoverable suffix (xs.map Site.path) fs left x.path := by
  have hin := hready.isIn x hx
  obtain ⟨bytes, executable, hfile⟩ := hready.file x hx
  have hstat := hin.stat_eq_ok_iff.mpr hfile
  by_cases hagain : ∃ y ∈ keeping left xs, left.SamePlace x.path.text y.path.text
  · obtain ⟨y, hy, r, hxloc, hyloc⟩ := hagain
    obtain ⟨hymem, hlive⟩ := mem_keeping.mp hy
    have hryloc := (hheld.isIn y hy).locate
    rw [hyloc, Except.ok.injEq] at hryloc
    have hroute := locate_unique hhere hin.locate hxloc
    have hback : fs'.stat x.path.text = .ok (.file bytes executable) := by
      refine stat_ok_iff.mpr ⟨⟨r, hsame.locate_ok.mpr hxloc, ?_⟩, by simp [hin.not_namesDirectory]⟩
      rw [hryloc, h.route (hready.keeping left) hy hy, ← hryloc, hroute, hfile]
    have hread : fs'.read x.path.text = fs.read x.path.text := by rw [FileSystem.read, FileSystem.read, hback, hstat]
    exact iff_of_true hread (Or.inr ⟨y.path, List.mem_map_of_mem hymem, ⟨r, hxloc, hyloc⟩, y.sibling,
      (hready.isIn y hymem).siblingPath_eq, hlive⟩)
  · -- Nothing that is put back is the file, so it stays as the body left it.
    have hprobe : fs'.probe x.path.text = left.probe x.path.text := by
      refine hsame.probe_eq fun r hr => h.rest r fun y hy => ⟨?_, ?_⟩
      · rintro rfl
        exact hagain ⟨y, hy, y.route, hr, (hheld.isIn y hy).locate⟩
      · rw [locate_unique hhere hin.locate hr]
        exact hready.apart x hx y (mem_keeping.mp hy).1
    have hbytes : fs.read x.path.text = .ok bytes := read_eq_ok_iff.mpr ⟨executable, hstat⟩
    rw [Recoverable, hbytes, read_eq_iff_of_probe_eq hprobe]
    refine ⟨Or.inl, fun hcases => hcases.resolve_right ?_⟩
    rintro ⟨q, hq, hplace, s, hs, hlive⟩
    obtain ⟨y, hy, rfl⟩ := List.mem_map.mp hq
    rw [(hready.isIn y hy).siblingPath_eq, Except.ok.injEq] at hs
    exact hagain ⟨y, mem_keeping.mpr ⟨hy, hs ▸ hlive⟩, hplace⟩

/-- A directory that the body has put in the place of a file stays. -/
theorem read_ne_of_isDirectory {fs' : FileSystem} {p : Path} (hsame : SameFolders left fs')
    (hdir : left.isDirectory p.text = true) (bytes : List UInt8) : fs'.read p.text ≠ .ok bytes := by
  rw [← hsame.isDirectory_eq, isDirectory_iff] at hdir
  simp [read_eq_ok_iff, hdir]

/-! ### Whole sessions -/

theorem session_eq_ok {α : Type} {restoreOnFailure : Bool} {body : Summary → Action α} {a : α} {w w' : World}
    (h : (session suffix paths restoreOnFailure body : Action α).runIn w = (.ok a, w')) :
    ∃ summary w₁ left, (backUp suffix paths).runIn w = (.ok summary, w₁) ∧
      (body summary).runIn w₁ = (.ok a, left) ∧ (restoreAll suffix paths).runIn left = (.ok (), w') := by
  rw [session_runIn_action] at h
  rcases hbackUp : (backUp suffix paths).runIn w with ⟨failure | summary, w₁⟩
  · simp [hbackUp] at h
  · simp only [hbackUp] at h
    rcases hbody : (body summary).runIn w₁ with ⟨failure | b, left⟩
    · -- A body that fails makes the session fail, whatever its end does.
      rcases hend : (endSession suffix paths restoreOnFailure true).runIn left with ⟨failure' | ⟨⟩, w₂⟩ <;>
        simp [hbody, Except.isOk, Except.toBool, hend, Except.bind] at h
    · rcases hend : (restoreAll suffix paths).runIn left with ⟨failure' | ⟨⟩, w₂⟩
      · simp [hbody, Except.isOk, Except.toBool, endSession, hend, Except.bind] at h
      · simp only [hbody, Except.isOk, Except.toBool, Bool.not_true, endSession, Bool.false_and, Bool.false_eq_true,
          if_false, hend, Except.bind, Prod.mk.injEq, Except.ok.injEq] at h
        obtain ⟨rfl, rfl⟩ := h
        exact ⟨summary, w₁, left, rfl, hbody, hend⟩

/-- A session whose body puts no directory in the place of a file ends silently, whatever has become of the backups. -/
theorem session_kept {α : Type} {restoreOnFailure : Bool} {body : Summary → Action α} {summary : Summary} {a : α}
    {w w₁ left : World} (hready : Ready suffix w.files xs) (hbacked : Backed xs w.files w₁.files)
    (hbackUp : (backUp suffix (xs.map Site.path)).runIn w = (.ok summary, w₁))
    (hbody : (body summary).runIn w₁ = (.ok a, left))
    (hfills : NeverFills suffix (xs.map Site.path) w₁.files left.files)
    (hfree : ∀ p ∈ xs.map Site.path, left.files.isDirectory p.text = false) :
    ∃ w', (session suffix (xs.map Site.path) restoreOnFailure body : Action α).runIn w = (.ok a, w') ∧
      ∀ p ∈ xs.map Site.path, w'.files.read p.text = w.files.read p.text ↔
        Recoverable suffix (xs.map Site.path) w.files left.files p := by
  have hhere := hfills.here.trans hbacked.here
  have hheld := hfills.held hready hbacked hfree
  obtain ⟨w', hrun, hrestored, hsame⟩ := restoreAll_kept left hready hhere hheld
  refine ⟨w', ?_, fun p hp => ?_⟩
  · rw [session_runIn_action, hbackUp]
    simp only [hbody]
    rw [endSession_restores (by simp [Except.isOk, Except.toBool]), hrun]
    rfl
  · obtain ⟨x, hx, rfl⟩ := List.mem_map.mp hp
    exact read_restored_iff hready hx hhere hheld hrestored hsame

/-- The body of a session fills no backup path. Then a session that ends silently has restored all its files exactly if
its body has left each of them recoverable and made none a directory, and it does end silently if its body returns and
made none a directory. -/
theorem silent_exit_restores {α : Type} {names : List String} {restoreOnFailure : Bool} {body : Summary → Action α}
    {w : World} (hfile : ∀ p ∈ names.map Path.ofText, w.files.FileAt p.text)
    (hsep : Separate suffix w.files (names.map Path.ofText))
    (hbody : ∀ summary w₁, (backUp suffix (names.map Path.ofText)).runIn w = (.ok summary, w₁) →
      NeverFills suffix (names.map Path.ofText) w₁.files ((body summary).runIn w₁).2.files) :
    (∀ a w', (session suffix (names.map Path.ofText) restoreOnFailure body : Action α).runIn w = (.ok a, w') →
      ∃ summary w₁ left, (backUp suffix (names.map Path.ofText)).runIn w = (.ok summary, w₁) ∧
        (body summary).runIn w₁ = (.ok a, left) ∧
        ((∀ p ∈ names.map Path.ofText, w'.files.read p.text = w.files.read p.text) ↔
          ∀ p ∈ names.map Path.ofText, left.files.isDirectory p.text = false ∧
            Recoverable suffix (names.map Path.ofText) w.files left.files p)) ∧
    ∀ summary w₁ a left, (backUp suffix (names.map Path.ofText)).runIn w = (.ok summary, w₁) →
      (body summary).runIn w₁ = (.ok a, left) →
      (∀ p ∈ names.map Path.ofText, left.files.isDirectory p.text = false) →
      ∃ w', (session suffix (names.map Path.ofText) restoreOnFailure body : Action α).runIn w = (.ok a, w') ∧
        ∀ p ∈ names.map Path.ofText, w'.files.read p.text = w.files.read p.text ↔
          Recoverable suffix (names.map Path.ofText) w.files left.files p := by
  have hplain : ∀ p ∈ names.map Path.ofText, p.Plain := fun p hp => plain_of_mem_ofText hp
  generalize names.map Path.ofText = paths at *
  have hreturns : ∀ summary w₁ a left, (backUp suffix paths).runIn w = (.ok summary, w₁) →
      (body summary).runIn w₁ = (.ok a, left) → (∀ p ∈ paths, left.files.isDirectory p.text = false) →
      ∃ w', (session suffix paths restoreOnFailure body : Action α).runIn w = (.ok a, w') ∧
        ∀ p ∈ paths, w'.files.read p.text = w.files.read p.text ↔ Recoverable suffix paths w.files left.files p := by
    intro summary w₁ a left hbackUp hran hfree
    have hends := backUp_ends w hplain hfile hsep
    have hfills := hbody summary w₁ hbackUp
    rw [hbackUp] at hends
    rw [hran] at hfills
    cases hends with
    | backed hpaths hready hbacked =>
      subst hpaths
      exact session_kept hready hbacked hbackUp hran hfills hfree
  refine ⟨fun a w' hrun => ?_, hreturns⟩
  obtain ⟨summary, w₁, left, hbackUp, hran, hrestore⟩ := session_eq_ok hrun
  refine ⟨summary, w₁, left, hbackUp, hran, ?_⟩
  by_cases hfree : ∀ p ∈ paths, left.files.isDirectory p.text = false
  · obtain ⟨w₂, hagain, hiff⟩ := hreturns summary w₁ a left hbackUp hran hfree
    rw [hrun] at hagain
    cases hagain
    exact forall₂_congr fun p hp => (hiff p hp).trans (by simp [hfree p hp])
  · push Not at hfree
    obtain ⟨p, hp, hdir⟩ := hfree
    have hsame := (restoreAll_keeps (coversRestore_all suffix left.files paths) left (.refl _ _)).sameFolders
    rw [hrestore] at hsame
    obtain ⟨bytes, executable, hstat⟩ := hfile p hp
    have hbytes : w.files.read p.text = .ok bytes := read_eq_ok_iff.mpr ⟨executable, hstat⟩
    refine iff_of_false (fun hall => ?_) fun hall => ?_
    · exact read_ne_of_isDirectory hsame (by simpa using hdir) bytes ((hall p hp).trans hbytes)
    · exact hdir (hall p hp).1

/-- A file that is changed and loses its backup is not restored, and the session ends silently. -/
theorem silent_exit_forgets :
    let w := Bundler.smallWorld [(["a.c"], Bundler.textFile "f")]
    let paths := ["a.c"].map Path.ofText
    let body : Summary → Action Unit := fun _ => do
      Action.setFiles (((← Action.files).erase ["a.c.bak"]).put ["a.c"] (Bundler.textFile "g"))
    let ran := (session (.text ".bak") paths true body : Action Unit).runIn w
    (∀ p ∈ paths, w.files.FileAt p.text) ∧ Separate (.text ".bak") w.files paths ∧
    (∀ summary w₁, (backUp (.text ".bak") paths).runIn w = (.ok summary, w₁) →
      NeverFills (.text ".bak") paths w₁.files ((body summary).runIn w₁).2.files) ∧
    ran.1 = .ok () ∧ ran.2.files.read "a.c" = .ok "g".toUTF8.toList ∧ w.files.read "a.c" = .ok "f".toUTF8.toList := by
  intro w paths body ran
  have hgone : ∀ p ∈ paths, ∀ s, siblingPath (.text ".bak") p = .ok s →
      ((((backUp (.text ".bak") paths).runIn w).2.files.erase ["a.c.bak"]).put ["a.c"]
        (Bundler.textFile "g")).stat s.text = .error (.missing s.text) := by decide +kernel
  refine ⟨by decide +kernel, by decide +kernel, fun summary w₁ hbackUp => ?_, by decide +kernel, by decide +kernel,
    by decide +kernel⟩
  rw [hbackUp] at hgone
  refine ⟨rfl, fun p hp s hs node hnode => ?_⟩
  cases (hgone p hp s hs).symm.trans hnode

/-- One file loses its backup and is not changed, another is taken away and has its backup. -/
theorem silent_exit_restores_two_files :
    let w := Bundler.smallWorld [(["a.c"], Bundler.textFile "f"), (["b.c"], Bundler.textFile "g")]
    let paths := ["a.c", "b.c"].map Path.ofText
    let body : Summary → Action Unit := fun _ => do
      Action.setFiles (((← Action.files).erase ["a.c.bak"]).erase ["b.c"])
    (∀ p ∈ paths, w.files.FileAt p.text) ∧ Separate (.text ".bak") w.files paths ∧
    ∃ w', (session (.text ".bak") paths true body : Action Unit).runIn w = (.ok (), w') ∧
      ∀ p ∈ paths, w'.files.read p.text = w.files.read p.text := by
  intro w paths body
  let backed := ((backUp (.text ".bak") paths).runIn w).2
  let left := (backed.files.erase ["a.c.bak"]).erase ["b.c"]
  obtain ⟨hsep, hfile, hended, hleft, hfree, hread, hthere, hplace, hhere⟩ :
      Separate (.text ".bak") w.files paths ∧ (∀ p ∈ paths, w.files.FileAt p.text) ∧
      ((backUp (.text ".bak") paths).runIn w).1 = .ok { processed := paths } ∧
      (∀ p ∈ paths, ∀ s, siblingPath (.text ".bak") p = .ok s → left.leadsSomewhere s.text = true →
        left.stat s.text = backed.files.stat s.text) ∧
      (∀ p ∈ paths, left.isDirectory p.text = false) ∧ left.read "a.c" = w.files.read "a.c" ∧
      left.leadsSomewhere "b.c.bak" = true ∧ left.SamePlace "b.c" "b.c" ∧ left.here = backed.files.here := by
    decide +kernel
  have hbackUp : (backUp (.text ".bak") paths).runIn w = (.ok { processed := paths }, backed) := Prod.ext hended rfl
  have hran : (body { processed := paths }).runIn backed = (.ok (), { backed with files := left }) := rfl
  clear_value left backed
  have hbody : ∀ summary w₁, (backUp (.text ".bak") paths).runIn w = (.ok summary, w₁) →
      NeverFills (.text ".bak") paths w₁.files ((body summary).runIn w₁).2.files := by
    intro summary w₁ hrun
    cases hbackUp.symm.trans hrun
    rw [hran]
    refine ⟨hhere, fun p hp s hs node hnode => ?_⟩
    rw [← hleft p hp s hs (leadsSomewhere_iff.mpr ⟨node, hnode⟩)]
    exact hnode
  refine ⟨hfile, hsep, ?_⟩
  obtain ⟨w', hrun, hrestored⟩ := (silent_exit_restores hfile hsep hbody).2 _ _ () _ hbackUp hran hfree
  refine ⟨w', hrun, fun p hp => (hrestored p hp).mpr ?_⟩
  rcases List.mem_cons.mp hp with rfl | hp
  · exact Or.inl hread
  · obtain rfl := List.mem_singleton.mp hp
    exact Or.inr ⟨Path.ofText "b.c", List.mem_cons_of_mem _ hp, hplace, Path.ofText "b.c.bak", by decide +kernel, hthere⟩

end Backup

end Amalgam
