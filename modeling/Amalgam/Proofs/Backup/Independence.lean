import Mathlib.Data.List.Induction
import Mathlib.Data.List.Pairwise
import Amalgam.Proofs.Backup.Undo
import Amalgam.Proofs.Value.Result
/-!
# Restores do not disturb each other

What a restore does with a path depends on one question, what stands where its backup belongs. A file is copied back
and taken away, a directory cannot be copied and is left, nothing is noted as missing. The restore of one path changes
only what stands at the path and at its backup, so if no two paths lead to one place and none leads to the place of
another's backup, the question has the same answer when the path's turn comes as it has at the beginning. What is left
is a question without an answer: a backup whose name the file system does not take ends the whole restore, and the
paths behind it are not tried.
-/

namespace Amalgam

theorem Path.Fits.bare {p : Path} {text : String} (h : p.Fits text) : p.Fits "" where
  no_nul := fun found => h.no_nul (by
    rw [String.append_empty] at found
    simp [found])
  text_short := by
    have short := h.text_short
    rw [String.utf8ByteSize_append] at short ⊢
    rw [String.utf8ByteSize_empty]
    omega
  name_short := by
    have short := h.name_short
    rw [String.utf8ByteSize_append] at short ⊢
    rw [String.utf8ByteSize_empty]
    omega

theorem FileSystem.SameFolders.samePlace_iff {fs fs' : FileSystem} (h : SameFolders fs fs') {a b : String} :
    fs'.SamePlace a b ↔ fs.SamePlace a b := by
  simp only [SamePlace, h.locate_ok]

namespace Backup

open FileSystem Amalgam.Path

/-- What stands where the backup of a path belongs, if that can be looked up. -/
def backupOf (suffix : Value) (fs : FileSystem) (p : Path) : Except Failure (Option Node) := do
  let sibling ← siblingPath suffix p
  (fs.probe sibling.text).mapError .file

/-- The paths lead to different places, none to a directory and none to where the backup of another goes. -/
structure Independent (suffix : Value) (fs : FileSystem) (paths : List Path) : Prop where
  not_directory : ∀ p ∈ paths, fs.isDirectory p.text = false
  apart : ∀ p ∈ paths, ∀ q ∈ paths, p ≠ q → ∀ s, siblingPath suffix q = .ok s → ¬ fs.SamePlace p.text s.text
  different : paths.Pairwise fun p q => ¬ fs.SamePlace p.text q.text

section

variable {suffix : Value} {text : String} {fs mid fs' : FileSystem} {paths front back : List Path} {p q s s' : Path}
  {failure : Failure} {found : Option Node}

theorem backupOf_of_siblingPath (hs : siblingPath suffix p = .ok s) :
    backupOf suffix fs p = (fs.probe s.text).mapError .file := by
  rw [backupOf, hs]
  rfl

theorem backupOf_eq_ok_iff :
    backupOf suffix fs p = .ok found ↔ ∃ s, siblingPath suffix p = .ok s ∧ fs.probe s.text = .ok found := by
  cases hs : siblingPath suffix p with
  | error failure => simp [backupOf, hs, bind, Except.bind]
  | ok s =>
    rw [backupOf_of_siblingPath hs]
    cases hprobe : fs.probe s.text <;> simp [Except.mapError, hprobe]

theorem Independent.mono (h : Independent suffix fs paths) (hsub : front.Sublist paths) :
    Independent suffix fs front where
  not_directory := fun p hp => h.not_directory p (hsub.subset hp)
  apart := fun p hp q hq => h.apart p (hsub.subset hp) q (hsub.subset hq)
  different := h.different.sublist hsub

/-! ### Places of backups -/

theorem eq_beside_of_siblingPath (hp : p.Plain) (hs : siblingPath (.text text) p = .ok s) :
    p.parts ≠ [] ∧ s = p.beside text := by
  obtain ⟨_, htext, rfl, hname⟩ := siblingPath_eq_ok hs
  cases htext
  exact ⟨hp.name_ne_empty_iff.mp hname, rfl⟩

theorem exists_site_of_locate_sibling (hslash : '/' ∉ text.toList) (hne : text ≠ "") (hp : p.Plain)
    (hs : siblingPath (.text text) p = .ok s) {r : Route} (hloc : fs.locate s.text = .ok r) :
    ∃ x : Site, x.path = p ∧ x.sibling = s ∧ x.In (.text text) fs ∧ x.spot = r := by
  obtain ⟨hnamed, rfl⟩ := eq_beside_of_siblingPath hp hs
  obtain ⟨hfits, folder, henters, _⟩ := (locate_beside hp hnamed hslash).mp hloc
  have hpath := (locate_text hp hnamed).mpr ⟨hfits.bare, folder, henters, rfl⟩
  exact exists_site hp hnamed hslash hne hpath hloc

theorem not_samePlace_sibling (hslash : '/' ∉ text.toList) (hne : text ≠ "") (hp : p.Plain)
    (hs : siblingPath (.text text) p = .ok s) : ¬ fs.SamePlace p.text s.text := by
  rintro ⟨r, hpath, hloc⟩
  obtain ⟨x, rfl, rfl, hin, rfl⟩ := exists_site_of_locate_sibling hslash hne hp hs hloc
  rw [hin.locate, Except.ok.injEq] at hpath
  exact hin.route_ne_spot hpath

/-- Where the backups of two paths go to one place the paths lead to one place. -/
theorem samePlace_of_siblings (hslash : '/' ∉ text.toList) (hne : text ≠ "") (hp : p.Plain) (hq : q.Plain)
    (hs : siblingPath (.text text) p = .ok s) (hs' : siblingPath (.text text) q = .ok s')
    (h : fs.SamePlace s.text s'.text) : fs.SamePlace p.text q.text := by
  obtain ⟨r, hloc, hloc'⟩ := h
  obtain ⟨x, rfl, rfl, hx, rfl⟩ := exists_site_of_locate_sibling hslash hne hp hs hloc
  obtain ⟨y, rfl, rfl, hy, hspot⟩ := exists_site_of_locate_sibling hslash hne hq hs' hloc'
  exact ⟨x.route, hx.locate, by rw [hx.route_eq_of_spot_eq hy hspot.symm, hy.locate]⟩

/-! ### One path -/

/-- A path holds what its backup held, the backup is gone and nothing else has changed. -/
structure PutBack (suffix : Value) (p : Path) (node : Node) (before after : FileSystem) : Prop where
  same : SameFolders before after
  file : after.probe p.text = .ok (some node)
  backup : backupOf suffix after p = .ok none
  rest : ∀ path, ¬ before.SamePlace path p.text →
    (∀ s, siblingPath suffix p = .ok s → ¬ before.SamePlace path s.text) → after.probe path = before.probe path

theorem Site.In.putBack {x : Site} {bytes : List UInt8} {executable : Bool} (hin : x.In suffix fs)
    (hspot : fs.node? x.spot = some (.file bytes executable)) (hroute : fs.node? x.route ≠ some .directory) :
    PutBack suffix x.path (.file bytes executable) fs (putBack fs x (.file bytes executable)) := by
  have hsame := sameFolders_putBack hin hroute (by simp [hspot]) bytes executable
  have hin' := hin.of_sameFolders hsame
  refine ⟨hsame, ?_, ?_, fun path hpath hsibling => ?_⟩
  · exact probe_eq_some_iff.mpr (hin'.stat_eq_ok_iff.mpr (node?_putBack_route hin (ne_nil_of_node? hroute)))
  · have hgone := hin'.stat_sibling_none (node?_putBack_spot hin)
    rw [backupOf_of_siblingPath hin.siblingPath_eq, probe, hgone]
    rfl
  · refine hsame.probe_eq fun r hr => node?_putBack_other ?_ ?_
    · rintro rfl
      exact hpath ⟨_, hr, hin.locate⟩
    · rintro rfl
      exact hsibling _ hin.siblingPath_eq ⟨_, hr, hin.locate_sibling⟩

theorem restoreOne_unanswered {w : World} (summary : Summary) (h : backupOf suffix w.files p = .error failure) :
    (restoreOne suffix summary p).runIn w = (.error failure, w) := by
  cases hs : siblingPath suffix p with
  | error other =>
    have hfailure : other = failure := by simpa [backupOf, hs, bind, Except.bind] using h
    simp [restoreOne, Action.runIn_bind, hs, Except.mapError, hfailure]
  | ok s =>
    rw [backupOf_of_siblingPath hs] at h
    cases hprobe : w.files.probe s.text with
    | ok found => simp [hprobe, Except.mapError] at h
    | error fault =>
      have hfailure : Failure.file fault = failure := by simpa [hprobe, Except.mapError] using h
      simp [restoreOne, Action.runIn_bind, hs, Action.leadsSomewhere, Action.probe, hprobe, Except.mapError, hfailure]

theorem restoreOne_none {w : World} (summary : Summary) (h : backupOf suffix w.files p = .ok none) :
    ∃ w', (restoreOne suffix summary p).runIn w = (.ok { summary with missing := summary.missing ++ [p] }, w') ∧
      w'.files = w.files := by
  obtain ⟨s, hs, hprobe⟩ := backupOf_eq_ok_iff.mp h
  exact ⟨_, restoreOne_missing summary hs hprobe, rfl⟩

theorem restoreOne_directory {w : World} (summary : Summary) (hp : p.Plain)
    (h : backupOf (.text text) w.files p = .ok (some .directory)) :
    ∃ w', (restoreOne (.text text) summary p).runIn w =
      (.ok { summary with failed := summary.failed ++ [p] }, w') ∧ w'.files = w.files := by
  obtain ⟨s, hs, hprobe⟩ := backupOf_eq_ok_iff.mp h
  have hstat := probe_eq_some_iff.mp hprobe
  cases hcopy : w.files.copy s p with
  | ok fs' =>
    obtain ⟨_, _, _, hfile, _⟩ := copy_ok hcopy
    cases hstat.symm.trans hfile
  | error fault =>
    obtain ⟨⟨r, hloc, _⟩, _⟩ := stat_ok_iff.mp hstat
    have hnul := (locate_ok_iff.mp hloc).1
    obtain ⟨hnamed, rfl⟩ := eq_beside_of_siblingPath hp hs
    have hpath : '\x00' ∉ p.text.toList := fun hin => hnul (by rw [text_beside hnamed]; simp [hin])
    exact ⟨_, restoreOne_refused summary hs hprobe hcopy (isSystem_of_copy_error hnul hpath hcopy), rfl⟩

theorem restoreOne_backedUp {w : World} {bytes : List UInt8} {executable : Bool} (summary : Summary)
    (hslash : '/' ∉ text.toList) (hne : text ≠ "") (hp : p.Plain) (hdir : w.files.isDirectory p.text = false)
    (h : backupOf (.text text) w.files p = .ok (some (.file bytes executable))) :
    ∃ w', (restoreOne (.text text) summary p).runIn w =
      (.ok { summary with processed := summary.processed ++ [p] }, w') ∧
      PutBack (.text text) p (.file bytes executable) w.files w'.files := by
  obtain ⟨s, hs, hprobe⟩ := backupOf_eq_ok_iff.mp h
  have hstat := probe_eq_some_iff.mp hprobe
  obtain ⟨⟨r, hloc, hnode⟩, _⟩ := stat_ok_iff.mp hstat
  obtain ⟨x, rfl, rfl, hin, rfl⟩ := exists_site_of_locate_sibling hslash hne hp hs hloc
  have hroute : w.files.node? x.route ≠ some .directory := by
    intro hdir'
    rw [isDirectory_iff.mpr (hin.stat_eq_ok_iff.mpr hdir')] at hdir
    cases hdir
  exact ⟨_, restoreOne_file summary hin hnode hroute, hin.putBack hnode hroute⟩

/-! ### All paths -/

/-- The summary of a restore, told by the backups that are there before it. -/
def summaryOf (suffix : Value) (fs : FileSystem) (paths : List Path) : Summary where
  processed := paths.filter (backupOf suffix fs · matches .ok (some (.file ..)))
  missing := paths.filter (backupOf suffix fs · matches .ok none)
  failed := paths.filter (backupOf suffix fs · matches .ok (some .directory))

/-- A path leads neither to where another one does nor to where its backup goes. -/
def Away (suffix : Value) (fs : FileSystem) (path : String) (p : Path) : Prop :=
  ¬ fs.SamePlace path p.text ∧ ∀ s, siblingPath suffix p = .ok s → ¬ fs.SamePlace path s.text

/-- Every path whose backup was a file holds what the backup held and has no backup any more; nothing else has changed. -/
structure RestoredEach (suffix : Value) (paths : List Path) (before after : FileSystem) : Prop where
  same : SameFolders before after
  back : ∀ p ∈ paths, ∀ bytes executable, backupOf suffix before p = .ok (some (.file bytes executable)) →
    after.probe p.text = .ok (some (.file bytes executable)) ∧ backupOf suffix after p = .ok none
  rest : ∀ path, (∀ p ∈ (summaryOf suffix before paths).processed, Away suffix before path p) →
    after.probe path = before.probe path

theorem mem_processed : p ∈ (summaryOf suffix fs paths).processed ↔
    p ∈ paths ∧ ∃ bytes executable, backupOf suffix fs p = .ok (some (.file bytes executable)) := by
  rw [summaryOf, List.mem_filter]
  refine and_congr_right fun _ => ?_
  split <;> simp_all

/-- No path is noted twice and none is forgotten. -/
theorem summaryOf_perm (h : ∀ p ∈ paths, ∃ found, backupOf suffix fs p = .ok found) :
    ((summaryOf suffix fs paths).processed ++ (summaryOf suffix fs paths).missing ++
      (summaryOf suffix fs paths).failed).Perm paths := by
  induction paths with
  | nil => exact .refl _
  | cons p rest ih =>
    have hrest := ih fun q hq => h q (List.mem_cons_of_mem _ hq)
    obtain ⟨found, hfound⟩ := h p List.mem_cons_self
    rcases found with _ | ⟨bytes, executable⟩ | _
    · have hcons : summaryOf suffix fs (p :: rest) =
          { summaryOf suffix fs rest with missing := p :: (summaryOf suffix fs rest).missing } := by
        simp [summaryOf, hfound]
      rw [hcons, List.append_assoc, List.cons_append]
      exact List.perm_middle.trans ((List.append_assoc .. ▸ hrest).cons p)
    · have hcons : summaryOf suffix fs (p :: rest) =
          { summaryOf suffix fs rest with processed := p :: (summaryOf suffix fs rest).processed } := by
        simp [summaryOf, hfound]
      rw [hcons, List.cons_append, List.cons_append]
      exact hrest.cons p
    · have hcons : summaryOf suffix fs (p :: rest) =
          { summaryOf suffix fs rest with failed := p :: (summaryOf suffix fs rest).failed } := by
        simp [summaryOf, hfound]
      rw [hcons]
      exact List.perm_middle.trans (hrest.cons p)

theorem backupOf_congr (h : ∀ s, siblingPath suffix p = .ok s → fs'.probe s.text = fs.probe s.text) :
    backupOf suffix fs' p = backupOf suffix fs p := by
  cases hs : siblingPath suffix p with
  | error failure => simp [backupOf, hs, bind, Except.bind]
  | ok s => rw [backupOf_of_siblingPath hs, backupOf_of_siblingPath hs, h s hs]

theorem away_of_different (hslash : '/' ∉ text.toList) (hne : text ≠ "") (hp : p.Plain) (hq : q.Plain)
    (h : Independent (.text text) fs paths) (hpm : p ∈ paths) (hqm : q ∈ paths) (hpq : ¬ fs.SamePlace p.text q.text) :
    Away (.text text) fs p.text q ∧ ∀ s, siblingPath (.text text) p = .ok s → Away (.text text) fs s.text q := by
  have happart : ∀ {a b}, a ∈ paths → b ∈ paths → a.Plain → ∀ s, siblingPath (.text text) b = .ok s →
      ¬ fs.SamePlace a.text s.text := by
    intro a b ha hb hplain s hs
    by_cases hab : a = b
    · subst hab
      exact not_samePlace_sibling hslash hne hplain hs
    · exact h.apart a ha b hb hab s hs
  refine ⟨⟨hpq, happart hpm hqm hp⟩, fun s hs => ⟨?_, fun s' hs' hsame => ?_⟩⟩
  · rintro ⟨r, hsibling, hpath⟩
    exact happart hqm hpm hq s hs ⟨r, hpath, hsibling⟩
  · exact hpq (samePlace_of_siblings hslash hne hp hq hs hs' hsame)

theorem Away.of_sameFolders {path : String} (h : SameFolders fs fs') (haway : Away suffix fs path p) :
    Away suffix fs' path p :=
  ⟨fun hsame => haway.1 (h.samePlace_iff.mp hsame), fun s hs hsame => haway.2 s hs (h.samePlace_iff.mp hsame)⟩

namespace RestoredEach

/-- A path that leads nowhere a restored one does keeps what it holds, and its backup. -/
theorem unchanged (h : RestoredEach (.text text) front fs fs') (hslash : '/' ∉ text.toList) (hne : text ≠ "")
    (hplain : ∀ q ∈ paths, q.Plain) (hind : Independent (.text text) fs paths) (hsub : front.Sublist paths)
    (hp : p ∈ paths) (hother : ∀ q ∈ (summaryOf (.text text) fs front).processed, ¬ fs.SamePlace p.text q.text) :
    fs'.probe p.text = fs.probe p.text ∧ backupOf (.text text) fs' p = backupOf (.text text) fs p := by
  have haway : ∀ q ∈ (summaryOf (.text text) fs front).processed,
      Away (.text text) fs p.text q ∧ ∀ s, siblingPath (.text text) p = .ok s → Away (.text text) fs s.text q := by
    intro q hq
    have hqm := hsub.subset (mem_processed.mp hq).1
    exact away_of_different hslash hne (hplain p hp) (hplain q hqm) hind hp hqm (hother q hq)
  exact ⟨h.rest _ fun q hq => (haway q hq).1, backupOf_congr fun s hs => h.rest _ fun q hq => (haway q hq).2 s hs⟩

/-- What the restore of the paths in front leaves of the next one. -/
theorem asks (h : RestoredEach (.text text) front fs fs') (hslash : '/' ∉ text.toList) (hne : text ≠ "")
    (hplain : ∀ q ∈ front ++ [p], q.Plain) (hind : Independent (.text text) fs (front ++ [p])) :
    backupOf (.text text) fs' p = backupOf (.text text) fs p := by
  refine (h.unchanged hslash hne hplain hind (List.sublist_append_left _ _) (by simp) ?_).2
  rintro q hq ⟨r, hpath, hother⟩
  exact (List.pairwise_append.mp hind.different).2.2 q (mem_processed.mp hq).1 p (by simp) ⟨r, hother, hpath⟩

/-- A path that is missing its backup or fails stays as it is. -/
theorem kept (h : RestoredEach (.text text) paths fs fs') (hslash : '/' ∉ text.toList) (hne : text ≠ "")
    (hplain : ∀ q ∈ paths, q.Plain) (hind : Independent (.text text) fs paths) (hp : p ∈ paths)
    (hnone : p ∉ (summaryOf (.text text) fs paths).processed) :
    fs'.probe p.text = fs.probe p.text ∧ backupOf (.text text) fs' p = backupOf (.text text) fs p := by
  refine h.unchanged hslash hne hplain hind (.refl _) hp fun q hq => ?_
  have hqp : q ≠ p := fun heq => hnone (heq ▸ hq)
  have hsymm : Std.Symm fun a b : Path => ¬ fs.SamePlace a.text b.text :=
    ⟨fun a b hab ⟨r, hb, ha⟩ => hab ⟨r, ha, hb⟩⟩
  exact hind.different.forall hp (mem_processed.mp hq).1 hqp.symm

/-- What holds of a path away from all restored ones holds of one away from those in front. -/
theorem away_front {path : String} (haway : ∀ q ∈ (summaryOf suffix fs (front ++ [p])).processed, Away suffix fs path q) :
    ∀ q ∈ (summaryOf suffix fs front).processed, Away suffix fs path q := by
  intro q hq
  obtain ⟨hqm, hfile⟩ := mem_processed.mp hq
  exact haway q (mem_processed.mpr ⟨List.mem_append_left _ hqm, hfile⟩)

theorem snoc_kept (h : RestoredEach suffix front fs fs')
    (hnone : ∀ bytes executable, backupOf suffix fs p ≠ .ok (some (.file bytes executable))) :
    RestoredEach suffix (front ++ [p]) fs fs' := by
  refine ⟨h.same, fun q hq bytes executable hbackup => ?_, fun path haway => h.rest path (away_front haway)⟩
  rcases List.mem_append.mp hq with hq | hq
  · exact h.back q hq bytes executable hbackup
  · obtain rfl := List.mem_singleton.mp hq
    exact absurd hbackup (hnone bytes executable)

theorem snoc_putBack {bytes : List UInt8} {executable : Bool} (h : RestoredEach (.text text) front fs mid)
    (hslash : '/' ∉ text.toList) (hne : text ≠ "") (hplain : ∀ q ∈ front ++ [p], q.Plain)
    (hind : Independent (.text text) fs (front ++ [p]))
    (hbackup : backupOf (.text text) fs p = .ok (some (.file bytes executable)))
    (hput : PutBack (.text text) p (.file bytes executable) mid fs') :
    RestoredEach (.text text) (front ++ [p]) fs fs' := by
  have haway : ∀ q ∈ front, Away (.text text) fs q.text p ∧
      ∀ s, siblingPath (.text text) q = .ok s → Away (.text text) fs s.text p := fun q hq =>
    away_of_different hslash hne (hplain q (by simp [hq])) (hplain p (by simp)) hind (by simp [hq]) (by simp)
      ((List.pairwise_append.mp hind.different).2.2 q hq p (by simp))
  have hkeeps : ∀ path, Away (.text text) fs path p → fs'.probe path = mid.probe path := fun path hpath =>
    hput.rest path (hpath.of_sameFolders h.same).1 (hpath.of_sameFolders h.same).2
  refine ⟨h.same.trans hput.same, fun q hq bytes' executable' hbackup' => ?_, fun path hpath => ?_⟩
  · rcases List.mem_append.mp hq with hq | hq
    · obtain ⟨hfile, hgone⟩ := h.back q hq bytes' executable' hbackup'
      rw [hkeeps _ (haway q hq).1, backupOf_congr fun s hs => hkeeps _ ((haway q hq).2 s hs)]
      exact ⟨hfile, hgone⟩
    · obtain rfl := List.mem_singleton.mp hq
      cases hbackup.symm.trans hbackup'
      exact ⟨hput.file, hput.backup⟩
  · have hlast := hpath p (mem_processed.mpr ⟨by simp, bytes, executable, hbackup⟩)
    rw [hkeeps path hlast]
    exact h.rest path (away_front hpath)

end RestoredEach

theorem restore_concat (w : World) : (restore suffix (front ++ [p])).runIn w =
    match (restore suffix front).runIn w with
    | (.ok summary, w') => (restoreOne suffix summary p).runIn w'
    | (.error failure, w') => (.error failure, w') := by
  rw [restore, List.foldlM_append, ← restore, Action.runIn_bind]
  rcases (restore suffix front).runIn w with ⟨failure | summary, w'⟩
  · rfl
  · simp only [List.foldlM_cons, List.foldlM_nil, bind_pure]

/-- If every backup can be looked up, every path is tried. The induction is from the end of the list: what the paths in
front have left decides nothing about the last one. -/
theorem restore_returns {w : World} (hslash : '/' ∉ text.toList) (hne : text ≠ "") (hplain : ∀ p ∈ paths, p.Plain)
    (hind : Independent (.text text) w.files paths)
    (hanswered : ∀ p ∈ paths, ∃ found, backupOf (.text text) w.files p = .ok found) :
    ∃ w', (restore (.text text) paths).runIn w = (.ok (summaryOf (.text text) w.files paths), w') ∧
      RestoredEach (.text text) paths w.files w'.files := by
  induction paths using List.reverseRecOn with
  | nil => exact ⟨w, rfl, .refl _, by simp, fun _ _ => rfl⟩
  | append_singleton front p ih =>
    obtain ⟨w₁, hrun, heach⟩ := ih (fun q hq => hplain q (List.mem_append_left _ hq))
      (hind.mono (List.sublist_append_left _ _)) fun q hq => hanswered q (List.mem_append_left _ hq)
    have hp := hplain p (by simp)
    have hbackup := heach.asks hslash hne hplain hind
    simp only [restore_concat, hrun]
    obtain ⟨found, hfound⟩ := hanswered p (by simp)
    rw [hfound] at hbackup
    rcases found with _ | ⟨bytes, executable⟩ | _
    · obtain ⟨w', hstep, hfiles⟩ := restoreOne_none (summaryOf (.text text) w.files front) hbackup
      refine ⟨w', ?_, hfiles ▸ heach.snoc_kept (by simp [hfound])⟩
      rw [hstep]
      simp [summaryOf, hfound]
    · have hdir : w₁.files.isDirectory p.text = false := by
        rw [heach.same.isDirectory_eq]
        exact hind.not_directory p (by simp)
      obtain ⟨w', hstep, hput⟩ := restoreOne_backedUp (summaryOf (.text text) w.files front) hslash hne hp hdir hbackup
      refine ⟨w', ?_, heach.snoc_putBack hslash hne hplain hind hfound hput⟩
      rw [hstep]
      simp [summaryOf, hfound]
    · obtain ⟨w', hstep, hfiles⟩ := restoreOne_directory (summaryOf (.text text) w.files front) hp hbackup
      refine ⟨w', ?_, hfiles ▸ heach.snoc_kept (by simp [hfound])⟩
      rw [hstep]
      simp [summaryOf, hfound]

/-- The first backup that cannot be looked up ends the restore. -/
theorem restore_raises {w : World} (hslash : '/' ∉ text.toList) (hne : text ≠ "") (hplain : ∀ p ∈ paths, p.Plain)
    (hind : Independent (.text text) w.files paths) (hpaths : paths = front ++ p :: back)
    (hanswered : ∀ q ∈ front, ∃ found, backupOf (.text text) w.files q = .ok found)
    (hfailure : backupOf (.text text) w.files p = .error failure) :
    ∃ w', (restore (.text text) paths).runIn w = (.error failure, w') ∧
      RestoredEach (.text text) front w.files w'.files := by
  subst hpaths
  have hsub : (front ++ [p]).Sublist (front ++ p :: back) := (List.singleton_sublist.mpr (by simp)).append_left front
  obtain ⟨w', hrun, heach⟩ := restore_returns hslash hne (fun q hq => hplain q (by simp [hq]))
    (hind.mono (List.sublist_append_left _ _)) hanswered
  have hbackup := heach.asks hslash hne (fun q hq => hplain q (hsub.subset hq)) (hind.mono hsub)
  refine ⟨w', ?_, heach⟩
  rw [hfailure] at hbackup
  rw [restore, List.foldlM_append, ← restore, Action.runIn_bind_ok hrun, List.foldlM_cons, Action.runIn_bind,
    restoreOne_unanswered _ hbackup]

theorem exists_first_unanswered (h : ¬ ∀ p ∈ paths, ∃ found, backupOf suffix fs p = .ok found) :
    ∃ front p back failure, paths = front ++ p :: back ∧ (∀ q ∈ front, ∃ found, backupOf suffix fs q = .ok found) ∧
      backupOf suffix fs p = .error failure := by
  induction paths with
  | nil => simp at h
  | cons p rest ih =>
    cases hp : backupOf suffix fs p with
    | error failure => exact ⟨[], p, rest, failure, rfl, by simp, hp⟩
    | ok found =>
      have hrest : ¬ ∀ q ∈ rest, ∃ found, backupOf suffix fs q = .ok found := by
        intro hall
        exact h (by simpa [hp] using hall)
      obtain ⟨front, q, back, failure, rfl, hfront, hq⟩ := ih hrest
      exact ⟨p :: front, q, back, failure, rfl, by simpa [hp] using hfront, hq⟩

/-- Whether a path is restored with others or alone makes no difference to it. -/
theorem RestoredEach.alone {fs'' : FileSystem} (h : RestoredEach (.text text) paths fs fs')
    (h' : RestoredEach (.text text) [p] fs fs'') (hslash : '/' ∉ text.toList) (hne : text ≠ "")
    (hplain : ∀ q ∈ paths, q.Plain) (hind : Independent (.text text) fs paths) (hp : p ∈ paths) :
    fs'.probe p.text = fs''.probe p.text ∧ backupOf (.text text) fs' p = backupOf (.text text) fs'' p := by
  by_cases hprocessed : p ∈ (summaryOf (.text text) fs paths).processed
  · obtain ⟨_, bytes, executable, hbackup⟩ := mem_processed.mp hprocessed
    obtain ⟨hfile, hgone⟩ := h.back p hp bytes executable hbackup
    obtain ⟨hfile', hgone'⟩ := h'.back p (by simp) bytes executable hbackup
    exact ⟨hfile.trans hfile'.symm, hgone.trans hgone'.symm⟩
  · have hprocessed' : p ∉ (summaryOf (.text text) fs [p]).processed := fun hin =>
      hprocessed (mem_processed.mpr ⟨hp, (mem_processed.mp hin).2⟩)
    obtain ⟨hfile, hbackup⟩ := h.kept hslash hne hplain hind hp hprocessed
    obtain ⟨hfile', hbackup'⟩ := h'.kept hslash hne (by simpa using hplain p hp)
      (hind.mono (List.singleton_sublist.mpr hp)) (by simp) hprocessed'
    exact ⟨hfile.trans hfile'.symm, hbackup.trans hbackup'.symm⟩

/-- A restore of independent paths returns exactly if all their backups can be looked up. Then it sorts the paths by
what their backups were before it, and does with each what it would do with the path alone. If not, the first backup
that cannot be looked up ends it: the paths in front are restored, the others stay. -/
theorem restore_independent {names : List String} {w : World} (hslash : '/' ∉ text.toList) (hne : text ≠ "")
    (hind : Independent (.text text) w.files (names.map Path.ofText)) :
    ((∃ summary w', (restore (.text text) (names.map Path.ofText)).runIn w = (.ok summary, w')) ↔
      ∀ p ∈ names.map Path.ofText, ∃ found, backupOf (.text text) w.files p = .ok found) ∧
    (∀ summary w', (restore (.text text) (names.map Path.ofText)).runIn w = (.ok summary, w') →
      summary = summaryOf (.text text) w.files (names.map Path.ofText) ∧
      (summary.processed ++ summary.missing ++ summary.failed).Perm (names.map Path.ofText) ∧
      RestoredEach (.text text) (names.map Path.ofText) w.files w'.files ∧
      (∀ p ∈ names.map Path.ofText, p ∉ summary.processed →
        w'.files.probe p.text = w.files.probe p.text ∧
          backupOf (.text text) w'.files p = backupOf (.text text) w.files p) ∧
      ∀ p ∈ names.map Path.ofText, ∃ alone w₁, (restore (.text text) [p]).runIn w = (.ok alone, w₁) ∧
        (p ∈ summary.processed ↔ p ∈ alone.processed) ∧ (p ∈ summary.missing ↔ p ∈ alone.missing) ∧
        (p ∈ summary.failed ↔ p ∈ alone.failed) ∧ w'.files.probe p.text = w₁.files.probe p.text ∧
        backupOf (.text text) w'.files p = backupOf (.text text) w₁.files p) ∧
    ∀ failure w', (restore (.text text) (names.map Path.ofText)).runIn w = (.error failure, w') →
      ∃ front p back, names.map Path.ofText = front ++ p :: back ∧
        (∀ q ∈ front, ∃ found, backupOf (.text text) w.files q = .ok found) ∧
        backupOf (.text text) w.files p = .error failure ∧ RestoredEach (.text text) front w.files w'.files := by
  have hplain : ∀ p ∈ names.map Path.ofText, p.Plain := fun p hp => plain_of_mem_ofText hp
  generalize names.map Path.ofText = paths at *
  by_cases hanswered : ∀ p ∈ paths, ∃ found, backupOf (.text text) w.files p = .ok found
  · obtain ⟨w₀, hrun, heach⟩ := restore_returns hslash hne hplain hind hanswered
    refine ⟨iff_of_true ⟨_, _, hrun⟩ hanswered, ?_, ?_⟩
    · intro summary w' hrun'
      cases hrun.symm.trans hrun'
      refine ⟨rfl, summaryOf_perm hanswered, heach, fun p hp => heach.kept hslash hne hplain hind hp, fun p hp => ?_⟩
      obtain ⟨w₁, hrun₁, heach₁⟩ := restore_returns hslash hne (by simpa using hplain p hp)
        (hind.mono (List.singleton_sublist.mpr hp)) (by simpa using hanswered p hp)
      refine ⟨_, w₁, hrun₁, ?_, ?_, ?_, heach.alone heach₁ hslash hne hplain hind hp⟩ <;>
        simp [summaryOf, List.mem_filter, hp]
    · intro failure w' hrun'
      cases hrun.symm.trans hrun'
  · obtain ⟨front, p, back, failure, hpaths, hfront, hfailure⟩ := exists_first_unanswered hanswered
    obtain ⟨w₀, hrun, heach⟩ := restore_raises hslash hne hplain hind hpaths hfront hfailure
    refine ⟨iff_of_false ?_ hanswered, ?_, ?_⟩
    · rintro ⟨summary, w', hrun'⟩
      cases hrun.symm.trans hrun'
    · intro summary w' hrun'
      cases hrun.symm.trans hrun'
    · intro failure' w' hrun'
      cases hrun.symm.trans hrun'
      exact ⟨front, p, back, hpaths, hfront, hfailure, heach⟩

/-- One path has its backup, one has none and the backup of one is a directory. -/
theorem restore_independent_three_paths :
    let w := Bundler.smallWorld [(["a.c"], Bundler.textFile "f"), (["a.c.bak"], Bundler.textFile "g"),
      (["b.c"], Bundler.textFile "h"), (["c.c.bak"], .directory)]
    let paths := ["c.c", "b.c", "a.c"].map Path.ofText
    Independent (.text ".bak") w.files paths ∧
      ∃ summary w', (restore (.text ".bak") paths).runIn w = (.ok summary, w') ∧
        (summary.processed, summary.missing, summary.failed) =
          ([Path.ofText "a.c"], [Path.ofText "b.c"], [Path.ofText "c.c"]) ∧
        RestoredEach (.text ".bak") paths w.files w'.files := by
  intro w paths
  have hind : Independent (.text ".bak") w.files (["c.c", "b.c", "a.c"].map Path.ofText) :=
    ⟨by decide +kernel, by decide +kernel, by decide +kernel⟩
  have hanswered : ∀ p ∈ paths, ∃ found, backupOf (.text ".bak") w.files p = .ok found := by decide +kernel
  have hsummary : summaryOf (.text ".bak") w.files paths =
      ⟨[Path.ofText "a.c"], [Path.ofText "b.c"], [Path.ofText "c.c"]⟩ := by decide +kernel
  clear_value w
  have hall := restore_independent (by decide) (by decide) hind
  obtain ⟨summary, w', hrun⟩ := hall.1.mpr hanswered
  obtain ⟨hsummary', _, heach, _⟩ := hall.2.1 summary w' hrun
  exact ⟨hind, summary, w', hrun, by rw [hsummary', hsummary], heach⟩

end

/-! ### A name that is too long -/

theorem locate_name {fs : FileSystem} {name : String} (h : IsName name) (hnul : '\x00' ∉ name.toList)
    (hshort : name.utf8ByteSize < 4096) (hhere : fs.node? fs.here = some .directory) :
    fs.locate name = if 255 < name.utf8ByteSize then .error (.nameTooLong name) else .ok (entry fs.here name) := by
  have hstart : fs.startOf name.toList = fs.here := by
    rw [startOf, if_neg]
    exact fun hhead => h.no_slash (List.mem_of_mem_head? hhead)
  rw [locate_eq, if_neg hnul, if_neg h.ne_empty, if_neg (by omega), hstart, namesIn_name h]
  simp only [follow, hhere, entry]
  split_ifs <;> rfl

/-- A name is short enough for its file and too long for the backup of it. -/
structure Overlong (name suffix : String) : Prop where
  isName : IsName name
  no_nul : '\x00' ∉ (name ++ suffix).toList
  name_short : name.utf8ByteSize ≤ 255
  backup_long : 255 < (name ++ suffix).utf8ByteSize
  text_short : (name ++ suffix).utf8ByteSize < 4096

section

variable {fs : FileSystem} {w : World} {name suffix : String}

theorem Overlong.siblingPath_eq (h : Overlong name suffix) (hslash : '/' ∉ suffix.toList) :
    siblingPath (.text suffix) ⟨"", [name]⟩ = .ok ⟨"", [name ++ suffix]⟩ :=
  siblingPath_text ⟨by simp, by simpa using h.isName⟩ (by simp) hslash

theorem text_single (name : String) : (⟨"", [name]⟩ : Path).text = name := by
  simp [Path.text, Text.joined]

theorem Overlong.locate (h : Overlong name suffix) (hup : name ≠ "..") (hhere : fs.node? fs.here = some .directory) :
    fs.locate name = .ok (fs.here ++ [name]) := by
  have hshort := h.name_short
  have hnul : '\x00' ∉ name.toList := fun hc => h.no_nul (by simp [hc])
  rw [locate_name h.isName hnul (by omega) hhere, if_neg (by omega), entry_of_ne h.isName.ne_point hup]

theorem Overlong.locate_backup (h : Overlong name suffix) (hslash : '/' ∉ suffix.toList)
    (hhere : fs.node? fs.here = some .directory) :
    fs.locate (name ++ suffix) = .error (.nameTooLong (name ++ suffix)) := by
  rw [locate_name (h.isName.append hslash) h.no_nul h.text_short hhere, if_pos h.backup_long]

/-- A restore that comes to such a file ends there. -/
theorem Overlong.restore_ends (h : Overlong name suffix) (hslash : '/' ∉ suffix.toList)
    (hhere : w.files.node? w.files.here = some .directory) (paths : List Path) :
    (restore (.text suffix) (⟨"", [name]⟩ :: paths)).runIn w = (.error (.file (.nameTooLong (name ++ suffix))), w) := by
  have hprobe : w.files.probe (name ++ suffix) = .error (.nameTooLong (name ++ suffix)) := by
    simp [probe, stat, h.locate_backup hslash hhere, bind, Except.bind]
  have hbackup : backupOf (.text suffix) w.files ⟨"", [name]⟩ = .error (.file (.nameTooLong (name ++ suffix))) := by
    rw [backupOf_of_siblingPath (h.siblingPath_eq hslash), text_single, hprobe]
    rfl
  rw [restore, List.foldlM_cons, Action.runIn_bind, restoreOne_unanswered _ hbackup]

end

theorem overlong_replicate : Overlong (String.ofList (List.replicate 252 'x')) ".bak" := by
  have hlength : (String.ofList (List.replicate 252 'x')).utf8ByteSize = 252 := by decide +kernel
  have hletter : ∀ c ∈ (String.ofList (List.replicate 252 'x')).toList, c = 'x' := by
    rw [String.toList_ofList]
    exact fun c hc => (List.mem_replicate.mp hc).2
  generalize String.ofList (List.replicate 252 'x') = name at hlength hletter
  have hbackup : (name ++ ".bak").utf8ByteSize = 256 := by
    rw [String.utf8ByteSize_append, hlength]
    decide +kernel
  have hother : ∀ other : String, other.utf8ByteSize < 252 → name ≠ other := by
    rintro _ hshort rfl
    omega
  refine ⟨⟨hother "" (by decide), hother "." (by decide), fun hc => absurd (hletter _ hc) (by decide)⟩, ?_, by omega,
    by omega, by omega⟩
  rw [String.toList_append, List.mem_append]
  rintro (hc | hc)
  · exact absurd (hletter _ hc) (by decide)
  · exact absurd hc (by decide)

/-- The backup of the first file has a name that is too long: the file behind it is not restored, and would be alone. -/
theorem restore_abandons :
    let w := Bundler.smallWorld [(["b.c"], Bundler.textFile "f"), (["b.c.bak"], Bundler.textFile "g")]
    let long : Path := ⟨"", [String.ofList (List.replicate 252 'x')]⟩
    let other := Path.ofText "b.c"
    Independent (.text ".bak") w.files [long, other] ∧
      (restore (.text ".bak") [long, other]).runIn w = (.error (.file (.nameTooLong (long.text ++ ".bak"))), w) ∧
      ((restore (.text ".bak") [other]).runIn w).1 = .ok { processed := [other] } := by
  intro w long other
  have hover := overlong_replicate
  have hlength : (String.ofList (List.replicate 252 'x')).utf8ByteSize = 252 := by decide +kernel
  obtain ⟨name, hname⟩ : ∃ name, name = String.ofList (List.replicate 252 'x') := ⟨_, rfl⟩
  have hlong : long = ⟨"", [name]⟩ := by rw [hname]
  rw [← hname] at hover hlength
  clear_value long
  subst hlong
  have hother : ∀ other : String, other.utf8ByteSize < 252 → other ≠ name := by
    rintro _ hshort rfl
    omega
  have hhere : w.files.node? w.files.here = some .directory := rfl
  have hloc : w.files.locate name = .ok [name] := hover.locate (hother ".." (by decide)).symm hhere
  have hlocBackup := hover.locate_backup (by decide) hhere
  have hsibling := hover.siblingPath_eq (by decide)
  have hends := hover.restore_ends (by decide) hhere [other]
  have hnode : w.files.node? [name] = none := by
    simp [node?, w, Bundler.smallWorld, hother "b.c" (by decide), hother "b.c.bak" (by decide)]
  have hplace : w.files.locate other.text = .ok ["b.c"] := by decide +kernel
  have hsiblingOther : siblingPath (.text ".bak") other = .ok (Path.ofText "b.c.bak") := by decide +kernel
  have hplaceOther : w.files.locate (Path.ofText "b.c.bak").text = .ok ["b.c.bak"] := by decide +kernel
  have hdir : w.files.isDirectory other.text = false := by decide +kernel
  have halone : ((restore (.text ".bak") [other]).runIn w).1 = .ok { processed := [other] } := by decide +kernel
  clear_value other w
  refine ⟨⟨?_, ?_, ?_⟩, by rwa [text_single], halone⟩
  · have hfree : w.files.isDirectory name = false := by simp [isDirectory, stat_of_locate hloc, hnode]
    simpa [text_single] using ⟨hfree, hdir⟩
  · have happart : ¬ w.files.SamePlace name (Path.ofText "b.c.bak").text := by
      simpa [SamePlace, hloc, hplaceOther] using hother "b.c.bak" (by decide)
    have happart' : ¬ w.files.SamePlace other.text (name ++ ".bak") := by simp [SamePlace, hlocBackup]
    simp [hsibling, hsiblingOther, text_single, happart, happart']
  · have hdifferent : ¬ w.files.SamePlace name other.text := by
      simpa [SamePlace, hloc, hplace] using hother "b.c" (by decide)
    simpa [text_single] using hdifferent

end Backup

end Amalgam
