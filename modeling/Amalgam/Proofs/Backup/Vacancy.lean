import Amalgam.Proofs.Backup.Frame
/-!
# Places that only backups fill

Where nothing stands and only backups of a session can go, nothing stands when the session has restored its files. No
relation between the paths is needed for that, so a file may be the backup of another one or be named twice. What
carries the passes is that the place is empty, or that a backup still to be taken away fills it.
-/

namespace Amalgam

namespace Backup

open FileSystem Amalgam.Path

/-- Nothing stands at a place, and a backup that goes there is made at a backup path that leads nowhere. -/
structure Vacant (text : String) (fs : FileSystem) (paths : List Path) (r : Route) : Prop where
  usable : Usable text
  plain : ∀ p ∈ paths, p.Plain
  file : ∀ p ∈ paths, fs.FileAt p.text
  empty : fs.node? r = none
  backup : ∀ p ∈ paths, fs.locate (fs.copyTarget p (p.beside text)).path = .ok r →
    fs.leadsSomewhere (p.beside text).text = false

/-- The place is empty, or a backup of one of the paths fills it. -/
structure Owed (text : String) (fs : FileSystem) (r : Route) (ps : List Path) (fs' : FileSystem) : Prop where
  same : SameFolders fs fs'
  owed : fs'.node? r ≠ none → ∃ p ∈ ps, fs.locate (p.beside text).text = .ok r

variable {text : String} {fs : FileSystem} {paths ps : List Path} {r : Route} {p : Path}

theorem Owed.node_eq_none {fs' : FileSystem} (h : Owed text fs r [] fs') : fs'.node? r = none := by
  by_contra hsome
  obtain ⟨q, hq, _⟩ := h.owed hsome
  cases hq

theorem Owed.of_changesOnly {fs' fs'' : FileSystem} {named : String → Prop} (h : Owed text fs r ps fs')
    (hchange : ChangesOnly named fs' fs'') (hnamed : ∀ path, named path → fs.locate path ≠ .ok r) :
    Owed text fs r ps fs'' := by
  refine ⟨h.same.trans hchange.sameFolders, fun hsome => h.owed ?_⟩
  rwa [← hchange.node_eq fun path hpath hloc => hnamed path hpath (h.same.locate_ok.mp hloc)]

namespace Vacant

theorem siblingPath_eq (h : Vacant text fs paths r) (hp : p ∈ paths) :
    siblingPath (.text text) p = .ok (p.beside text) :=
  siblingPath_text (h.plain p hp) (named_of_fileAt (h.plain p hp) (h.file p hp)) h.usable.no_slash

theorem no_nul_sibling (h : Vacant text fs paths r) (hp : p ∈ paths) : '\x00' ∉ (p.beside text).text.toList := by
  rw [text_beside (named_of_fileAt (h.plain p hp) (h.file p hp))]
  simp [no_nul_of_fileAt (h.file p hp), h.usable.no_nul]

theorem locate_path_ne (h : Vacant text fs paths r) (hp : p ∈ paths) : fs.locate p.text ≠ .ok r := by
  intro hloc
  obtain ⟨bytes, executable, hstat⟩ := h.file p hp
  obtain ⟨⟨r', hloc', hnode⟩, _⟩ := stat_ok_iff.mp hstat
  rw [hloc, Except.ok.injEq] at hloc'
  rw [← hloc', h.empty] at hnode
  cases hnode

theorem not_directory (h : Vacant text fs paths r) {fs' : FileSystem} (hsame : SameFolders fs fs') :
    fs'.node? r ≠ some .directory := by
  rw [ne_eq, hsame.folder, h.empty]
  simp

theorem site (h : Vacant text fs paths r) (hp : p ∈ paths) (hloc : fs.locate (p.beside text).text = .ok r) :
    ∃ x : Site, x.path = p ∧ x.sibling = p.beside text ∧ x.In (.text text) fs ∧ x.spot = r := by
  obtain ⟨bytes, executable, hstat⟩ := h.file p hp
  obtain ⟨⟨r', hloc', _⟩, _⟩ := stat_ok_iff.mp hstat
  exact exists_site (h.plain p hp) (named_of_fileAt (h.plain p hp) (h.file p hp)) h.usable.no_slash h.usable.ne_empty
    hloc' hloc

theorem locate_sibling (h : Vacant text fs paths r) (hp : p ∈ paths)
    (hloc : fs.locate (fs.copyTarget p (p.beside text)).path = .ok r) : fs.locate (p.beside text).text = .ok r := by
  rwa [copyTarget_of_nowhere (h.backup p hp hloc)] at hloc

end Vacant

/-! ### Steps that do not fail -/

theorem tryCopy_returns {source target : Path} (hsource : '\x00' ∉ source.text.toList)
    (htarget : '\x00' ∉ target.text.toList) (w : World) : (tryCopy source target).Returns w := by
  cases hcopy : w.files.copy source target with
  | error fault =>
    have hrun := tryCopy_error hcopy
    rw [if_pos (isSystem_of_copy_error hsource htarget hcopy)] at hrun
    exact ⟨_, _, hrun⟩
  | ok fs' => exact ⟨_, _, tryCopy_ok hcopy⟩

theorem tryRemove_returns {path : Path} (hpath : '\x00' ∉ path.text.toList) (w : World) :
    (tryRemove path).Returns w := by
  cases hremove : w.files.remove path.text with
  | error fault =>
    have hrun := tryRemove_error hremove
    rw [if_pos (isSystem_of_remove_error hpath hremove)] at hrun
    exact ⟨_, _, hrun⟩
  | ok fs' => exact ⟨_, _, tryRemove_ok hremove⟩

theorem leadsSomewhere_returns {path : Path} {w : World} {r : Route} (hloc : w.files.locate path.text = .ok r) :
    (Action.leadsSomewhere path).Returns w := by
  have hprobe : ∃ node, w.files.probe path.text = .ok node := by
    rw [probe, stat_of_locate hloc]
    cases w.files.node? r with
    | none => exact ⟨_, rfl⟩
    | some node =>
      cases node with
      | directory => exact ⟨_, rfl⟩
      | file bytes executable =>
        dsimp only
        split_ifs
        · exact ⟨_, rfl⟩
        · exact ⟨_, rfl⟩
  obtain ⟨node, hnode⟩ := hprobe
  refine ⟨node.isSome, w, ?_⟩
  simp [Action.leadsSomewhere, Action.probe, hnode, Action.runIn_bind, Except.mapError, Except.map]

theorem restoreOne_returns {suffix : Value} {s : Path} {w : World} {r' : Route} (summary : Summary)
    (hs : siblingPath suffix p = .ok s) (hpath : '\x00' ∉ p.text.toList) (hsibling : '\x00' ∉ s.text.toList)
    (hloc : w.files.locate s.text = .ok r') : (restoreOne suffix summary p).Returns w := by
  have htail : ∀ fault w, (noteOne summary p fault).Returns w := by
    intro fault w
    cases fault with
    | some fault => exact (Action.Returns.log _ _ _ w).bind fun _ w' _ => .pure _ w'
    | none => exact (Action.Returns.log _ _ _ w).bind fun _ w' _ => .pure _ w'
  rw [restoreOne, hs]
  refine (leadsSomewhere_returns hloc).bind fun found w₁ _ => ?_
  split
  · exact (Action.Returns.log _ _ _ w₁).bind fun _ w' _ => .pure _ w'
  · refine (tryCopy_returns hsibling hpath w₁).bind fun fault w₂ _ => ?_
    split
    · exact (Action.Returns.pure _ w₂).bind fun fault w' _ => htail fault w'
    · exact (tryRemove_returns hsibling w₂).bind fun fault w' _ => htail fault w'

/-! ### Discard -/

/-- Removing the backup of a path empties the place if the backup is there. -/
theorem Owed.tryRemove {w : World} (h : Vacant text fs paths r) (hp : p ∈ paths)
    (howed : Owed text fs r (p :: ps) w.files) :
    ∃ answer w', (tryRemove (p.beside text)).runIn w = (.ok answer, w') ∧ Owed text fs r ps w'.files := by
  obtain ⟨answer, w', hrun⟩ := tryRemove_returns (h.no_nul_sibling hp) w
  refine ⟨answer, w', hrun, ?_⟩
  by_cases hloc : fs.locate (p.beside text).text = .ok r
  · obtain ⟨x, rfl, hsibling, hin, rfl⟩ := h.site hp hloc
    have hin' := hin.of_sameFolders howed.same
    rw [← hsibling] at hrun
    rcases remove_sibling hin' (h.not_directory howed.same) with ⟨hnone, hremove⟩ | hremove
    · rw [tryRemove_error hremove] at hrun
      obtain rfl := (Prod.mk.inj hrun).2
      exact ⟨howed.same, fun hsome => absurd hnone hsome⟩
    · rw [tryRemove_ok hremove] at hrun
      obtain rfl := (Prod.mk.inj hrun).2
      refine ⟨howed.same.trans (changesOnly_remove hremove).sameFolders, fun hsome => ?_⟩
      exact absurd (node?_erase_self _ hin.spot_ne_nil) hsome
  · have hchange := @tryRemove_keeps (· = (p.beside text).text) w.files (p.beside text) (fun _ => rfl) w (.refl _ _)
    rw [hrun] at hchange
    have hnode : w'.files.node? r = w.files.node? r := by
      refine hchange.node_eq ?_
      rintro _ rfl
      rwa [ne_eq, howed.same.locate_ok]
    refine ⟨howed.same.trans hchange.sameFolders, fun hsome => ?_⟩
    obtain ⟨q, hq, hq'⟩ := howed.owed (hnode ▸ hsome)
    rcases List.mem_cons.mp hq with rfl | hq
    · exact absurd hq' hloc
    · exact ⟨q, hq, hq'⟩

theorem discard_owed (ps : List Path) (w : World) (h : Vacant text fs paths r) (hps : ∀ p ∈ ps, p ∈ paths)
    (howed : Owed text fs r ps w.files) :
    ∃ w', (discard (.text text) ps).runIn w = (.ok (), w') ∧ Owed text fs r [] w'.files := by
  induction ps generalizing w with
  | nil => exact ⟨w, rfl, howed⟩
  | cons p rest ih =>
    have hp := hps p List.mem_cons_self
    obtain ⟨answer, w₁, hremove, howed₁⟩ := howed.tryRemove h hp
    have hrest : ∀ w₂ : World, w₂.files = w₁.files → ∃ w', (discard (.text text) rest).runIn w₂ = (.ok (), w') ∧
        Owed text fs r [] w'.files :=
      fun w₂ hfiles => ih w₂ (fun q hq => hps q (List.mem_cons_of_mem _ hq)) (hfiles ▸ howed₁)
    rw [discard, List.forM_eq_forM] at hrest ⊢
    rw [List.forM_cons, h.siblingPath_eq hp, bind_assoc]
    change ∃ w', Action.runIn ((tryRemove (p.beside text) >>= _) >>= _) w = _ ∧ _
    rw [bind_assoc, Action.runIn_bind_ok hremove]
    split
    · exact hrest w₁ rfl
    · exact hrest w₁ rfl
    · obtain ⟨w₂, hfiles, hlog⟩ := Action.exists_runIn_log .error logger _ w₁
      rw [Action.runIn_bind_ok hlog]
      exact hrest w₂ hfiles

/-! ### Backup -/

/-- The backup path of every path can be looked up. -/
def Located (text : String) (fs : FileSystem) (ps : List Path) : Prop :=
  ∀ p ∈ ps, ∃ r', fs.locate (p.beside text).text = .ok r'

theorem Located.snoc (h : Located text fs ps) {r' : Route} (hp : fs.locate (p.beside text).text = .ok r') :
    Located text fs (ps ++ [p]) := by
  intro q hq
  rcases List.mem_append.mp hq with hq | hq
  · exact h q hq
  · exact ⟨r', List.mem_singleton.mp hq ▸ hp⟩

/-- A backup path to which, or into which, a file was copied. -/
theorem locate_of_copy {source target : Path} {fs' : FileSystem} (h : fs.copy source target = .ok fs') :
    ∃ r', fs.locate target.text = .ok r' := by
  by_cases hdir : fs.isDirectory target.text = true
  · obtain ⟨⟨r', hloc, _⟩, _⟩ := stat_ok_iff.mp (isDirectory_iff.mp hdir)
    exact ⟨r', hloc⟩
  · obtain ⟨_, _, r', _, _, hw, _⟩ := copy_ok h
    rw [copyTarget, if_neg hdir] at hw
    exact ⟨r', (writable_ok_iff.mp hw).1⟩

/-- Copying one more path to its backup may fill the place, but then this path owes it. -/
theorem Owed.copy {w : World} (h : Vacant text fs paths r) (hp : p ∈ paths) (howed : Owed text fs r ps w.files)
    {fs' : FileSystem} (hcopy : w.files.copy p (p.beside text) = .ok fs') : Owed text fs r (ps ++ [p]) fs' := by
  have hchange := changesOnly_copy hcopy
  refine ⟨howed.same.trans hchange.sameFolders, fun hsome => ?_⟩
  by_cases hloc : fs.locate (p.beside text).text = .ok r
  · exact ⟨p, by simp, hloc⟩
  · have hnode : fs'.node? r = w.files.node? r := by
      refine hchange.node_eq ?_
      rintro _ rfl hplace
      rw [howed.same.copyTarget_eq, howed.same.locate_ok] at hplace
      exact hloc (h.locate_sibling hp hplace)
    obtain ⟨q, hq, hq'⟩ := howed.owed (hnode ▸ hsome)
    exact ⟨q, List.mem_append_left _ hq, hq'⟩

/-- A backup that fails leaves the place empty. -/
theorem backUpFrom_owed (done rest : List Path) (w : World) (h : Vacant text fs paths r)
    (hdone : ∀ p ∈ done, p ∈ paths) (hrest : ∀ p ∈ rest, p ∈ paths) (hlocated : Located text fs done)
    (howed : Owed text fs r done w.files) :
    match (backUpFrom (.text text) done rest).runIn w with
    | (.ok _, w') => Located text fs (done ++ rest) ∧ Owed text fs r (done ++ rest) w'.files
    | (.error _, w') => Owed text fs r [] w'.files := by
  induction rest generalizing done w with
  | nil =>
    rw [List.append_nil]
    exact ⟨hlocated, howed⟩
  | cons p rest ih =>
    have hp := hrest p List.mem_cons_self
    have hs := h.siblingPath_eq hp
    cases hcopy : w.files.copy p (p.beside text) with
    | error fault =>
      have hsystem := isSystem_of_copy_error (no_nul_of_fileAt (h.file p hp)) (h.no_nul_sibling hp) hcopy
      obtain ⟨w', hdiscard, howed'⟩ := discard_owed done w h hdone howed
      rw [backUpFrom_runIn_fault hs hcopy hsystem hdiscard]
      exact howed'
    | ok fs' =>
      obtain ⟨w', hfiles, hrun⟩ := backUpFrom_runIn_copied hs hcopy rest
      obtain ⟨r', hloc⟩ := locate_of_copy hcopy
      have hdone' : ∀ q ∈ done ++ [p], q ∈ paths := by
        simpa [or_imp, forall_and] using ⟨hdone, hp⟩
      have hnext := ih (done ++ [p]) w' hdone' (fun q hq => hrest q (List.mem_cons_of_mem _ hq))
        (hlocated.snoc (howed.same.locate_ok.mp hloc)) (hfiles ▸ howed.copy h hp hcopy)
      rw [List.append_assoc, List.singleton_append] at hnext
      rw [hrun]
      exact hnext

/-! ### Restore -/

/-- Restoring a path empties the place if its backup is there. -/
theorem restoreOne_owed {w : World} (summary : Summary) (h : Vacant text fs paths r) (hp : p ∈ paths) {r' : Route}
    (hlocated : fs.locate (p.beside text).text = .ok r') (howed : Owed text fs r (p :: ps) w.files) :
    ∃ summary' w', (restoreOne (.text text) summary p).runIn w = (.ok summary', w') ∧ Owed text fs r ps w'.files := by
  have hs := h.siblingPath_eq hp
  obtain ⟨summary', w', hrun⟩ := restoreOne_returns summary hs (no_nul_of_fileAt (h.file p hp)) (h.no_nul_sibling hp)
    (howed.same.locate_ok.mpr hlocated)
  refine ⟨summary', w', hrun, ?_⟩
  by_cases hloc : fs.locate (p.beside text).text = .ok r
  · obtain ⟨x, rfl, -, hin, rfl⟩ := h.site hp hloc
    have hin' := hin.of_sameFolders howed.same
    cases hnode : w.files.node? x.spot with
    | none =>
      rw [restoreOne_empty summary hin' hnode] at hrun
      obtain rfl := (Prod.mk.inj hrun).2
      exact ⟨howed.same, fun hsome => absurd hnode hsome⟩
    | some node =>
      cases node with
      | directory => exact absurd hnode (h.not_directory howed.same)
      | file bytes executable =>
        have hroute : w.files.node? x.route ≠ some .directory := by
          obtain ⟨bytes', executable', hstat⟩ := h.file x.path hp
          simp [howed.same.folder, hin.stat_eq_ok_iff.mp hstat]
        rw [restoreOne_file summary hin' hnode hroute] at hrun
        obtain rfl := (Prod.mk.inj hrun).2
        refine ⟨howed.same.trans (sameFolders_putBack hin' hroute (by simp [hnode]) bytes executable), fun hsome => ?_⟩
        exact absurd (node?_putBack_spot hin') hsome
  · have hcovers : Covers (fun q => q = p.text ∨ q = (w.files.copyTarget p (p.beside text)).path) (.text text) w.files
        [p] := by
      refine ⟨fun q hq => ?_, fun q hq => ?_, fun q hq s hs' => ?_⟩
      · rw [List.mem_singleton.mp hq, howed.same.isDirectory_eq]
        exact not_isDirectory_of_fileAt (h.file p hp)
      · exact Or.inl (congrArg Path.text (List.mem_singleton.mp hq))
      · rw [List.mem_singleton.mp hq, hs, Except.ok.injEq] at hs'
        rw [← hs', List.mem_singleton.mp hq]
        exact Or.inr rfl
    have hchange := restoreOne_keeps hcovers.restore summary (List.mem_singleton.mpr rfl) w (.refl _ _)
    rw [hrun] at hchange
    have hnode : w'.files.node? r = w.files.node? r := by
      refine hchange.node_eq ?_
      rintro _ (rfl | rfl) hplace
      · exact h.locate_path_ne hp (howed.same.locate_ok.mp hplace)
      · rw [howed.same.copyTarget_eq, howed.same.locate_ok] at hplace
        exact hloc (h.locate_sibling hp hplace)
    refine ⟨howed.same.trans hchange.sameFolders, fun hsome => ?_⟩
    obtain ⟨q, hq, hq'⟩ := howed.owed (hnode ▸ hsome)
    rcases List.mem_cons.mp hq with rfl | hq
    · exact absurd hq' hloc
    · exact ⟨q, hq, hq'⟩

theorem foldlM_restoreOne_owed (ps : List Path) (w : World) (summary : Summary) (h : Vacant text fs paths r)
    (hps : ∀ p ∈ ps, p ∈ paths) (hlocated : Located text fs ps) (howed : Owed text fs r ps w.files) :
    ∃ summary' w', (ps.foldlM (restoreOne (.text text)) summary).runIn w = (.ok summary', w') ∧
      Owed text fs r [] w'.files := by
  induction ps generalizing w summary with
  | nil => exact ⟨summary, w, rfl, howed⟩
  | cons p rest ih =>
    obtain ⟨r', hloc⟩ := hlocated p List.mem_cons_self
    obtain ⟨summary₁, w₁, hrun, howed₁⟩ := restoreOne_owed summary h (hps p List.mem_cons_self) hloc howed
    rw [List.foldlM_cons, Action.runIn_bind_ok hrun]
    exact ih w₁ summary₁ (fun q hq => hps q (List.mem_cons_of_mem _ hq))
      (fun q hq => hlocated q (List.mem_cons_of_mem _ hq)) howed₁

theorem restoreAll_owed (w : World) (h : Vacant text fs paths r) (hlocated : Located text fs paths)
    (howed : Owed text fs r paths w.files) : Owed text fs r [] ((restoreAll (.text text) paths).runIn w).2.files := by
  obtain ⟨w₁, hfiles, hlog⟩ := Action.exists_runIn_log .info logger
    ("Restoring " ++ Text.numeral paths.length ++ " original files ...") w
  obtain ⟨summary, w₂, hrestore, howed₂⟩ :=
    foldlM_restoreOne_owed paths w₁ {} h (fun _ hp => hp) hlocated (hfiles ▸ howed)
  rw [restoreAll, Action.runIn_bind_ok hlog, restore, Action.runIn_bind_ok hrestore]
  split
  · exact howed₂
  · exact howed₂

/-- A session that restores its files leaves the place empty, however it ends. -/
theorem session_vacates {α : Type} {body : Summary → Work α} (result : BundleResult) (w : World)
    (h : Vacant text w.files paths r) (hbody : ∀ summary, (body summary).Keeps (Owed text w.files r paths)) :
    ((session (.text text) paths true body : Work α).runIn result w).2.files.node? r = none := by
  have hstart : Owed text w.files r [] w.files := ⟨.refl _, fun hsome => absurd h.empty hsome⟩
  have hbackUp := backUpFrom_owed [] paths w h (by simp) (fun _ hp => hp) (by simp [Located]) hstart
  rw [session_runIn, backUp]
  rcases hrun : (backUpFrom (.text text) [] paths).runIn w with ⟨failure | summary, w₁⟩
  · rw [hrun] at hbackUp
    exact hbackUp.node_eq_none
  · rw [hrun] at hbackUp
    obtain ⟨hlocated, howed⟩ := hbackUp
    have hdone := hbody summary result w₁ howed
    have hrestore := restoreAll_owed _ h hlocated hdone
    rw [← endSession_restores fun _ => rfl] at hrestore
    exact hrestore.node_eq_none

end Backup

end Amalgam
