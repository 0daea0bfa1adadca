import Amalgam.Proofs.Bundle.Frame
/-!
# Originals over many runs

A run that fails may leave a file renamed, with the only copy of its original in its backup. The next run that names the
file takes the renamed text for the original and writes it over the backup. So originals are safe over many runs under a
condition on each run, and the condition is exact: every file that the table names is as it was at the start when the
run begins or when it ends, or the run leaves its backup alone. For a run that succeeds this comes down to how it begins.
-/

namespace Amalgam

open FileSystem Backup

/-- Whatever stands somewhere stands in a directory. -/
def FileSystem.IsTree (fs : FileSystem) : Prop :=
  ∀ folder name, fs.node? (folder ++ [name]) ≠ none → fs.node? folder = some .directory

/-- A file is under a name of its own in its folder. -/
theorem Backup.Site.In.route_eq {suffix : Value} {fs : FileSystem} {x : Site} (h : x.In suffix fs) (htree : fs.IsTree)
    {bytes : List UInt8} {executable : Bool} (hfile : fs.node? x.route = some (.file bytes executable)) :
    x.route = x.folder ++ [x.path.name] := by
  refine entry_of_ne (h.plain.isName_name h.named).ne_point fun hpoints => ?_
  have hroute : x.route = x.folder.dropLast := by rw [Site.route, hpoints]; rfl
  have hfolder := h.enters.isFolder
  rcases List.eq_nil_or_concat x.folder with hnil | ⟨init, last, hcat⟩
  · rw [hroute, hnil, List.dropLast_nil] at hfile
    simp [node?] at hfile
  · rw [hcat, List.concat_eq_append] at hfolder
    have hparent := htree init last (by simp [hfolder])
    rw [hroute, hcat, List.concat_eq_append, List.dropLast_concat, hparent] at hfile
    cases hfile

theorem FileSystem.mem_of_node? {fs : FileSystem} {r : Route} {node : Node} (h : fs.node? r = some node) (hr : r ≠ []) :
    (r, node) ∈ fs.nodes := by
  rw [node?, if_neg hr, Option.map_eq_some_iff] at h
  obtain ⟨⟨r', node'⟩, hfind, rfl⟩ := h
  have hkey : r' = r := by simpa using List.find?_some hfind
  exact hkey ▸ List.mem_of_find?_eq_some hfind

theorem FileSystem.eq_of_nodes {fs fs' : FileSystem} (hnodes : fs.nodes = fs'.nodes) (hhere : fs.here = fs'.here) :
    fs = fs' := by
  cases fs
  cases fs'
  exact congrArg₂ FileSystem.mk hnodes hhere

namespace Bundler

/-- Nothing stands where the backup of a file would go. -/
structure Pristine (suffix : Value) (fs : FileSystem) : Prop where
  tree : fs.IsTree
  vacant : ∀ folder name bytes executable text, suffix = .text text →
    fs.node? (folder ++ [name]) = some (.file bytes executable) → fs.node? (folder ++ [name ++ text]) = none
  nowhere : ∀ path : Path, path.Plain → fs.FileAt path.text → ∀ s, siblingPath suffix path = .ok s →
    fs.leadsSomewhere s.text = false

/-- With a suffix that can be used, a backup path leads to where the backup would go. -/
theorem Pristine.of_vacant {text : String} {fs : FileSystem} (husable : Usable text) (htree : fs.IsTree)
    (hvacant : ∀ folder name bytes executable, fs.node? (folder ++ [name]) = some (.file bytes executable) →
      fs.node? (folder ++ [name ++ text]) = none) : Pristine (.text text) fs where
  tree := htree
  vacant := by
    rintro folder name bytes executable _ htext hfile
    cases htext
    exact hvacant folder name bytes executable hfile
  nowhere := by
    intro path hplain hfile s hs
    rw [Bool.eq_false_iff, ne_eq, leadsSomewhere_iff]
    rintro ⟨node, hnode⟩
    have hnamed := named_of_fileAt hplain hfile
    obtain ⟨bytes, executable, hstat⟩ := hfile
    obtain ⟨⟨r, hloc, _⟩, _⟩ := stat_ok_iff.mp hstat
    obtain ⟨⟨r', hloc', _⟩, _⟩ := stat_ok_iff.mp hnode
    rw [siblingPath_text hplain hnamed husable.no_slash, Except.ok.injEq] at hs
    subst hs
    obtain ⟨x, rfl, hsibling, hin, _⟩ := exists_site hplain hnamed husable.no_slash husable.ne_empty hloc hloc'
    have hroute := hin.stat_eq_ok_iff.mp hstat
    rw [← hsibling, hin.stat_sibling_eq_ok_iff] at hnode
    rw [hin.route_eq htree hroute] at hroute
    obtain ⟨_, htext, hmade⟩ := hin.made
    cases htext
    rw [hmade.spot_eq hplain hnamed, hvacant _ _ _ _ hroute] at hnode
    cases hnode

/-- A working directory without backups in it. -/
theorem Pristine.of_flat {text : String} {fs : FileSystem} (husable : Usable text)
    (hflat : ∀ n ∈ fs.nodes, n.1.length = 1)
    (hvacant : ∀ n ∈ fs.nodes, fs.node? (n.1.map (· ++ text)) = none) : Pristine (.text text) fs := by
  have hroot : ∀ folder name node, fs.node? (folder ++ [name]) = some node → folder = [] := by
    intro folder name node hnode
    have hlength := hflat _ (mem_of_node? hnode (by simp))
    simpa using hlength
  refine .of_vacant husable (fun folder name hnode => ?_) fun folder name bytes executable hfile => ?_
  · obtain ⟨node, hnode⟩ := Option.ne_none_iff_exists'.mp hnode
    rw [hroot folder name node hnode]
    rfl
  · have hempty := hvacant _ (mem_of_node? hfile (by simp))
    rw [hroot folder name _ hfile] at hempty ⊢
    exact hempty

/-- Each file of the start is at its place or at the place of its backup. -/
def Safe (suffix : Value) (start fs : FileSystem) : Prop :=
  ∀ folder name bytes executable, start.node? (folder ++ [name]) = some (.file bytes executable) →
    fs.node? (folder ++ [name]) = some (.file bytes executable) ∨
      ∃ text, suffix = .text text ∧ fs.node? (folder ++ [name ++ text]) = some (.file bytes executable)

/-- The paths lead to what they led to at the start. -/
def Clean (start : FileSystem) (paths : List Path) (fs : FileSystem) : Prop :=
  ∀ path ∈ paths, fs.stat path.text = start.stat path.text

/-- Each file of the start that a path leads to is as it was at the start, before or after a run, or its backup is left
alone by the run. -/
def Kept (suffix : Value) (start : FileSystem) (paths : List Path) (fs fs' : FileSystem) : Prop :=
  ∀ folder name bytes executable, start.node? (folder ++ [name]) = some (.file bytes executable) →
    (∃ q ∈ paths, start.locate q.text = .ok (folder ++ [name])) →
      fs.node? (folder ++ [name]) = some (.file bytes executable) ∨
      fs'.node? (folder ++ [name]) = some (.file bytes executable) ∨
      ∀ text, suffix = .text text → fs'.node? (folder ++ [name ++ text]) = fs.node? (folder ++ [name ++ text])

/-- A run whose table names files of the start only and whose merger writes a bundle that is neither a file of the start
nor the backup of one. -/
structure Admitted (suffix : Value) (start : FileSystem) (b : Bundler) (source table output : Option String)
    (args : List String) (w : World) : Prop where
  quiet : b.Quiet
  suffix_eq : b.settings.rename.backupSuffix = suffix
  names : ∀ path ∈ planPaths (b.renamePlan source table w), start.FileAt path.text
  writes : b.WritesBundleOnly source output args
  bundle : ∀ src out, Hands source output src out → ∀ folder name bytes executable,
    start.node? (folder ++ [name]) = some (.file bytes executable) → start.locate out.text ≠ .ok (folder ++ [name]) ∧
      ∀ text, suffix = .text text → start.locate out.text ≠ .ok (folder ++ [name ++ text])

section Step

variable {suffix : Value} {start : FileSystem} {b : Bundler} {source table output : Option String} {args : List String}
  {w : World}

/-- Files of the start are apart from the places of their backups. -/
theorem Admitted.separate (h : Admitted suffix start b source table output args w) (hpristine : Pristine suffix start)
    (hsame : SameFolders start w.files) :
    Separate suffix w.files (planPaths (b.renamePlan source table w)) where
  free := by
    intro p hp s hs
    rw [hsame.isDirectory_eq]
    exact not_isDirectory_of_nowhere (hpristine.nowhere p (plain_of_mem_planPaths hp) (h.names p hp) s hs)
  apart := by
    rintro p hp q hq - s hs ⟨r, hpr, hsr⟩
    have hnowhere := hpristine.nowhere q (plain_of_mem_planPaths hq) (h.names q hq) s hs
    obtain ⟨bytes, executable, hstat⟩ := h.names p hp
    obtain ⟨⟨r', hloc, hnode⟩, _⟩ := stat_ok_iff.mp hstat
    rw [hsame.locate_ok.mp hpr, Except.ok.injEq] at hloc
    rw [leadsSomewhere_of_siblingPath hs (hsame.locate_ok.mp hsr) (hloc ▸ hnode)] at hnowhere
    cases hnowhere

/-- A site of the plan as it was at the start. -/
theorem Admitted.site (h : Admitted suffix start b source table output args w) (hpristine : Pristine suffix start)
    (hsame : SameFolders start w.files) {x : Site} (hin : x.In suffix w.files)
    (hx : x.path ∈ planPaths (b.renamePlan source table w)) :
    ∃ bytes executable text, start.node? (x.folder ++ [x.path.name]) = some (.file bytes executable) ∧
      x.route = x.folder ++ [x.path.name] ∧ suffix = .text text ∧ x.spot = x.folder ++ [x.path.name ++ text] := by
  have hin' := hin.of_sameFolders hsame.symm
  obtain ⟨bytes, executable, hstat⟩ := h.names x.path hx
  have hnode := hin'.stat_eq_ok_iff.mp hstat
  have hroute := hin'.route_eq hpristine.tree hnode
  obtain ⟨text, hsuffix, hmade⟩ := hin.made
  exact ⟨bytes, executable, text, hroute ▸ hnode, hroute, hsuffix, hmade.spot_eq hin.plain hin.named⟩

/-- A run leaves a file of the start and the place of its backup alone, unless its table names the file. -/
theorem Admitted.untouched (h : Admitted suffix start b source table output args w) (hpristine : Pristine suffix start)
    (hsame : SameFolders start w.files) {folder : Route} {name : String} {bytes : List UInt8} {executable : Bool}
    (hfile : start.node? (folder ++ [name]) = some (.file bytes executable))
    (hnot : ∀ q ∈ planPaths (b.renamePlan source table w), start.locate q.text ≠ .ok (folder ++ [name])) {path : String}
    (hpath : b.Touched source table output w path) : w.files.locate path ≠ .ok (folder ++ [name]) ∧
      ∀ text, suffix = .text text → w.files.locate path ≠ .ok (folder ++ [name ++ text]) := by
  simp only [ne_eq, hsame.locate_ok]
  cases hpath with
  | file hq =>
    refine ⟨hnot _ hq, fun text hsuffix hloc => ?_⟩
    obtain ⟨bytes', executable', hstat⟩ := h.names _ hq
    obtain ⟨⟨r, hr, hnode⟩, _⟩ := stat_ok_iff.mp hstat
    rw [hloc, Except.ok.injEq] at hr
    rw [← hr, hpristine.vacant folder name bytes executable text hsuffix hfile] at hnode
    cases hnode
  | @backup q s hq hs =>
    rw [h.suffix_eq] at hs
    have hplain := plain_of_mem_planPaths hq
    have hnowhere := hpristine.nowhere q hplain (h.names q hq) s hs
    rw [hsame.copyTarget_eq, copyTarget_of_nowhere hnowhere]
    refine ⟨fun hloc => ?_, fun text hsuffix hloc => ?_⟩
    · rw [leadsSomewhere_of_siblingPath hs hloc hfile] at hnowhere
      cases hnowhere
    · -- The places of two backups agree, so the files do.
      obtain ⟨x, rfl, rfl, hin, hspot⟩ := exists_site_of_locate hplain (h.names q hq) hs hnowhere hloc
      obtain ⟨_, _, text', _, hroute, hsuffix', hspot'⟩ := h.site hpristine hsame (hin.of_sameFolders hsame) hq
      obtain rfl : text' = text := by rw [hsuffix] at hsuffix'; cases hsuffix'; rfl
      obtain ⟨hfolder, hname⟩ := Site.append_suffix_inj (hspot'.symm.trans hspot)
      exact hnot x.path hq (by rw [hin.locate, hroute, hfolder, hname])
  | bundle hhands =>
    obtain ⟨hbundle, hbackup⟩ := h.bundle _ _ hhands folder name bytes executable hfile
    exact ⟨hbundle, hbackup⟩

/-- The session of an admitted run ends in one of the three ways, because its bundle is no backup of the session. -/
theorem Admitted.ends (h : Admitted suffix start b source table output args w) (hpristine : Pristine suffix start)
    (hsame : SameFolders start w.files) {src out : Path} (hhands : Hands source output src out)
    (hfile : ∀ path ∈ planPaths (b.renamePlan source table w), w.files.FileAt path.text) (result : BundleResult)
    {w₁ : World} (hfiles : w₁.files = w.files) :
    SessionEnds suffix w.files (planPaths (b.renamePlan source table w)) b.restoresOnFailure
      ((b.planSession (b.renamePlan source table w) src out args).runIn result w₁).1.1
      ((b.planSession (b.renamePlan source table w) src out args).runIn result w₁).2.files := by
  have hsep := h.separate hpristine hsame
  rw [← h.suffix_eq, ← hfiles] at hsep ⊢
  rw [← hfiles] at hfile
  refine planSession_ends result w₁ hfile hsep fun xs hpaths hready w₂ hsame₂ hguarded => ?_
  refine hguarded.of_changesOnly (h.writes src out hhands w₂) ?_
  rintro _ rfl x hx ⟨r, hout, hspot⟩
  rw [(hguarded.isIn x hx).locate_sibling, Except.ok.injEq] at hspot
  have hx' : x.path ∈ planPaths (b.renamePlan source table w) := hpaths ▸ List.mem_map_of_mem hx
  have hin : x.In suffix w.files := by
    rw [← h.suffix_eq, ← hfiles]
    exact hready.isIn x hx
  obtain ⟨bytes, executable, text, hstart, _, hsuffix, heq⟩ := h.site hpristine hsame hin hx'
  have hplace := (h.bundle src out hhands _ _ _ _ hstart).2 text hsuffix
  rw [hfiles] at hsame₂
  exact hplace ((hsame.trans hsame₂).locate_ok.mp (by rw [hout, ← hspot, heq]))

/-- A file of the start that a path of the table leads to. -/
theorem Admitted.stat_start (h : Admitted suffix start b source table output args w) {folder : Route} {name : String}
    {bytes : List UInt8} {executable : Bool} {q : Path}
    (hfile : start.node? (folder ++ [name]) = some (.file bytes executable))
    (hq : q ∈ planPaths (b.renamePlan source table w)) (hloc : start.locate q.text = .ok (folder ++ [name])) :
    start.stat q.text = .ok (.file bytes executable) := by
  obtain ⟨bytes', executable', hstat⟩ := h.names q hq
  obtain ⟨⟨r, hr, hnode⟩, _⟩ := stat_ok_iff.mp hstat
  rw [hloc, Except.ok.injEq] at hr
  rw [← hr, hfile, Option.some.injEq] at hnode
  rw [hstat, hnode]

/-- What becomes of a file that the table names and of its backup: the file is as before and its backup is as before or
gone, or the backup holds what the file was before. -/
def NamedAfter (suffix : Value) (folder : Route) (name : String) (fs fs' : FileSystem) : Prop :=
  (fs'.node? (folder ++ [name]) = fs.node? (folder ++ [name]) ∧
    ∀ text, suffix = .text text → fs'.node? (folder ++ [name ++ text]) = fs.node? (folder ++ [name ++ text]) ∨
      fs'.node? (folder ++ [name ++ text]) = none) ∨
  ∃ text, suffix = .text text ∧ fs'.node? (folder ++ [name ++ text]) = fs.node? (folder ++ [name])

/-- A file that was as it should be is so still, or its backup is. -/
theorem NamedAfter.kept {folder : Route} {name : String} {fs fs' : FileSystem} {node : Node}
    (h : NamedAfter suffix folder name fs fs') (hnode : fs.node? (folder ++ [name]) = some node) :
    fs'.node? (folder ++ [name]) = some node ∨
      ∃ text, suffix = .text text ∧ fs'.node? (folder ++ [name ++ text]) = some node := by
  rcases h with ⟨hroute, _⟩ | ⟨text, hsuffix, hspot⟩
  · exact Or.inl (hroute.trans hnode)
  · exact Or.inr ⟨text, hsuffix, hspot.trans hnode⟩

theorem Admitted.namedAfter_of_ends (h : Admitted suffix start b source table output args w)
    (hpristine : Pristine suffix start) (hsame : SameFolders start w.files) {restoreOnFailure : Bool}
    {ended : Except Failure Unit} {fs' : FileSystem}
    (hends : SessionEnds suffix w.files (planPaths (b.renamePlan source table w)) restoreOnFailure ended fs')
    {folder : Route} {name : String} {bytes : List UInt8} {executable : Bool} {q : Path}
    (hfile : start.node? (folder ++ [name]) = some (.file bytes executable))
    (hq : q ∈ planPaths (b.renamePlan source table w)) (hloc : w.files.locate q.text = .ok (folder ++ [name])) :
    NamedAfter suffix folder name w.files fs' := by
  -- The place of the file and that of its backup, seen from the site of the path.
  have hplaces : ∀ x : Site, x.path = q → x.In suffix w.files → ∃ text, suffix = .text text ∧
      folder ++ [name] = x.route ∧ folder ++ [name ++ text] = x.spot := by
    rintro x rfl hin
    obtain ⟨_, _, text, _, hroute, hsuffix, hspot⟩ := h.site hpristine hsame hin hq
    rw [hin.locate, Except.ok.injEq, hroute] at hloc
    obtain ⟨hfolder, hname⟩ := List.append_inj' hloc rfl
    simp only [List.cons.injEq, and_true] at hname
    exact ⟨text, hsuffix, by rw [hroute, hfolder, hname], by rw [hspot, hfolder, hname]⟩
  cases hends with
  | @undone xs _ hpaths hready hcleared =>
    refine Or.inl ⟨hcleared.rest _ fun x hx heq => ?_, fun text _ => ?_⟩
    · obtain ⟨_, _, text, hfile', _, hsuffix, hspot⟩ := h.site hpristine hsame (hready.isIn x hx) (hpaths x hx)
      have hvacant := hpristine.vacant _ _ _ _ text hsuffix hfile'
      rw [← hspot, ← heq, hfile] at hvacant
      cases hvacant
    · by_cases hspot : ∃ x ∈ xs, folder ++ [name ++ text] = x.spot
      · obtain ⟨x, hx, heq⟩ := hspot
        exact Or.inr (heq ▸ hcleared.spot x hx)
      · push Not at hspot
        exact Or.inl (hcleared.rest _ hspot)
  | restored hpaths hready hrestored =>
    obtain ⟨x, hx, hxq⟩ := List.mem_map.mp (hpaths ▸ hq)
    obtain ⟨text, hsuffix, hroute, hspot⟩ := hplaces x hxq (hready.isIn x hx)
    refine Or.inl ⟨?_, fun text' hsuffix' => Or.inr ?_⟩
    · rw [hroute]
      exact hrestored.route hready hx hx
    · rw [hsuffix, Value.text.injEq] at hsuffix'
      rw [← hsuffix', hspot]
      exact hrestored.spot x hx
  | left _ _ hpaths hready hguarded =>
    obtain ⟨x, hx, hxq⟩ := List.mem_map.mp (hpaths ▸ hq)
    obtain ⟨text, hsuffix, hroute, hspot⟩ := hplaces x hxq (hready.isIn x hx)
    refine Or.inr ⟨text, hsuffix, ?_⟩
    rw [hspot, hroute]
    exact hguarded.spot x hx

theorem Admitted.namedAfter (h : Admitted suffix start b source table output args w) (hpristine : Pristine suffix start)
    (hsame : SameFolders start w.files) {folder : Route} {name : String} {bytes : List UInt8} {executable : Bool}
    {q : Path} (hfile : start.node? (folder ++ [name]) = some (.file bytes executable))
    (hq : q ∈ planPaths (b.renamePlan source table w)) (hloc : start.locate q.text = .ok (folder ++ [name]))
    (dryRun : Bool) :
    NamedAfter suffix folder name w.files ((b.bundle source table output args dryRun).runIn w).2.files := by
  change NamedAfter _ _ _ _ (((b.withMerge b.merger.merge).bundle source table output args dryRun).runIn w).2.files
  cases bundle_runsAs h.quiet source table output args dryRun w with
  | idle _ hfiles hrun =>
    rw [hrun, hfiles]
    exact Or.inl ⟨rfl, fun _ _ => Or.inl rfl⟩
  | merged _ hempty =>
    rw [renamePlan_eq hempty] at hq
    cases hq
  | @session src out p result w₁ hhands hplan hfiles hresult hw₁ hrun =>
    obtain rfl := renamePlan_eq hplan
    rw [hrun, files_closed]
    exact h.namedAfter_of_ends hpristine hsame (h.ends hpristine hsame hhands hfiles result hw₁) hfile hq
      (hsame.locate_ok.mpr hloc)

/-- From a state in which every original is safe, a run keeps them so exactly if it keeps those of its table. -/
theorem Admitted.safe_iff (h : Admitted suffix start b source table output args w) (hpristine : Pristine suffix start)
    (hsame : SameFolders start w.files) (hsafe : Safe suffix start w.files) (dryRun : Bool) :
    Safe suffix start ((b.bundle source table output args dryRun).runIn w).2.files ↔
      Kept suffix start (planPaths (b.renamePlan source table w)) w.files
        ((b.bundle source table output args dryRun).runIn w).2.files := by
  constructor
  · rintro hafter folder name bytes executable hfile ⟨q, hq, hloc⟩
    rcases hafter folder name bytes executable hfile with hclean | ⟨text, hsuffix, hbackup⟩
    · exact Or.inr (Or.inl hclean)
    · rcases h.namedAfter hpristine hsame hfile hq hloc dryRun with ⟨_, hspot⟩ | ⟨text', hsuffix', hspot⟩
      · rcases hspot text hsuffix with hsame | hnone
        · refine Or.inr (Or.inr fun text' hsuffix' => ?_)
          rw [hsuffix, Value.text.injEq] at hsuffix'
          rw [← hsuffix', hsame]
        · rw [hnone] at hbackup
          cases hbackup
      · rw [hsuffix, Value.text.injEq] at hsuffix'
        rw [← hsuffix', hbackup] at hspot
        exact Or.inl hspot.symm
  · intro hkept folder name bytes executable hfile
    by_cases hplan : ∃ q ∈ planPaths (b.renamePlan source table w), start.locate q.text = .ok (folder ++ [name])
    · obtain ⟨q, hq, hloc⟩ := hplan
      have hnamed := h.namedAfter hpristine hsame hfile hq hloc dryRun
      rcases hkept folder name bytes executable hfile ⟨q, hq, hloc⟩ with hclean | hclean | hbackup
      · exact hnamed.kept hclean
      · exact Or.inl hclean
      · rcases hsafe folder name bytes executable hfile with hclean | ⟨text, hsuffix, hspot⟩
        · exact hnamed.kept hclean
        · exact Or.inr ⟨text, hsuffix, (hbackup text hsuffix).trans hspot⟩
    · have hchange : ChangesOnly (b.Touched source table output w) w.files _ :=
        bundle_changesOnly h.quiet h.writes dryRun w
      push Not at hplan
      rw [hchange.node_eq fun path hpath => (h.untouched hpristine hsame hfile hplan hpath).1]
      refine (hsafe folder name bytes executable hfile).imp id ?_
      rintro ⟨text, hsuffix, hnode⟩
      refine ⟨text, hsuffix, ?_⟩
      rwa [hchange.node_eq fun path hpath => (h.untouched hpristine hsame hfile hplan hpath).2 text hsuffix]

/-- A run keeps the originals of files that are as they were at the start when it begins. -/
theorem Admitted.kept_of_clean (h : Admitted suffix start b source table output args w)
    (hsame : SameFolders start w.files) (hclean : Clean start (planPaths (b.renamePlan source table w)) w.files)
    (fs' : FileSystem) : Kept suffix start (planPaths (b.renamePlan source table w)) w.files fs' := by
  rintro folder name bytes executable hfile ⟨q, hq, hloc⟩
  have hstat := (hclean q hq).trans (h.stat_start hfile hq hloc)
  obtain ⟨⟨r, hr, hnode⟩, _⟩ := stat_ok_iff.mp hstat
  rw [hsame.locate_ok.mpr hloc, Except.ok.injEq] at hr
  exact Or.inl (hr ▸ hnode)

/-- A run that succeeds puts every file of its table back to what it was before the run, and leaves no backup of it. -/
theorem Admitted.restored (h : Admitted suffix start b source table output args w) (hpristine : Pristine suffix start)
    (hsame : SameFolders start w.files)
    (hsucceeds : Succeeds ((b.bundle source table output args false).runIn w)) {q : Path}
    (hq : q ∈ planPaths (b.renamePlan source table w)) : ∃ x : Site, x.path = q ∧ x.In suffix w.files ∧
      ((b.bundle source table output args false).runIn w).2.files.node? x.route = w.files.node? x.route ∧
      ((b.bundle source table output args false).runIn w).2.files.node? x.spot = none := by
  change Succeeds (((b.withMerge b.merger.merge).bundle source table output args false).runIn w) at hsucceeds
  change ∃ x : Site, x.path = q ∧ x.In suffix w.files ∧
    (((b.withMerge b.merger.merge).bundle source table output args false).runIn w).2.files.node? x.route = _ ∧
    (((b.withMerge b.merger.merge).bundle source table output args false).runIn w).2.files.node? x.spot = _
  cases bundle_runsAs h.quiet source table output args false w with
  | idle hended _ hrun =>
    rw [hrun] at hsucceeds
    cases hended hsucceeds
  | merged _ hempty =>
    rw [renamePlan_eq hempty] at hq
    cases hq
  | @session src out p result w₁ hhands hplan hfile hresult hw₁ hrun =>
    obtain rfl := renamePlan_eq hplan
    rw [hrun, withMerge_self] at hsucceeds
    have hok := succeeds_closed (planSession_success b _ src out args result w₁ hresult) hsucceeds
    have hends := h.ends hpristine hsame hhands hfile result hw₁
    rw [hok] at hends
    rw [hrun, files_closed, withMerge_self]
    cases hends with
    | undone hfailed => cases hfailed
    | restored hpaths hready hrestored =>
      obtain ⟨x, hx, rfl⟩ := List.mem_map.mp (hpaths ▸ hq)
      exact ⟨x, rfl, hready.isIn x hx, hrestored.route hready hx hx, hrestored.spot x hx⟩
    | left hfailed => cases hfailed

/-- A run that succeeds from another start than that of its files has lost an original. -/
theorem Admitted.clean_of_safe (h : Admitted suffix start b source table output args w)
    (hpristine : Pristine suffix start) (hsame : SameFolders start w.files)
    (hsucceeds : Succeeds ((b.bundle source table output args false).runIn w))
    (hsafe : Safe suffix start ((b.bundle source table output args false).runIn w).2.files) :
    Clean start (planPaths (b.renamePlan source table w)) w.files := by
  intro q hq
  obtain ⟨x, rfl, hin, hroute, hspot⟩ := h.restored hpristine hsame hsucceeds hq
  obtain ⟨bytes, executable, text, hfile, heq, hsuffix, hspotEq⟩ := h.site hpristine hsame hin hq
  have hstart := (hin.of_sameFolders hsame.symm).stat_eq_ok_iff.mpr (heq ▸ hfile)
  rw [hstart, hin.stat_eq_ok_iff, ← hroute, heq]
  rcases hsafe x.folder x.path.name bytes executable hfile with hkept | ⟨text', hsuffix', hbackup⟩
  · exact hkept
  · rw [hsuffix, Value.text.injEq] at hsuffix'
    rw [← hsuffix', ← hspotEq, hspot] at hbackup
    cases hbackup

end Step

/-! ### Runs after runs -/

/-- The file systems that admitted runs lead to, when each of them does with the files of its table what is allowed. -/
inductive Reached (suffix : Value) (start : FileSystem) (allowed : List Path → FileSystem → FileSystem → Prop) :
    FileSystem → Prop
  | start : Reached suffix start allowed start
  | run {b : Bundler} {source table output : Option String} {args : List String} {w : World} (dryRun : Bool)
      (hbefore : Reached suffix start allowed w.files) (hadmitted : Admitted suffix start b source table output args w)
      (hallowed : allowed (planPaths (b.renamePlan source table w)) w.files
        ((b.bundle source table output args dryRun).runIn w).2.files) :
      Reached suffix start allowed ((b.bundle source table output args dryRun).runIn w).2.files

theorem Reached.sameFolders {suffix : Value} {start fs : FileSystem}
    {allowed : List Path → FileSystem → FileSystem → Prop} (h : Reached suffix start allowed fs) :
    SameFolders start fs := by
  induction h with
  | start => exact .refl start
  | run dryRun _ hadmitted _ ih =>
    exact ih.trans (bundle_changesOnly hadmitted.quiet hadmitted.writes dryRun _).sameFolders

theorem safe_start (suffix : Value) (start : FileSystem) : Safe suffix start start :=
  fun _ _ _ _ hfile => Or.inl hfile

theorem Reached.safe {suffix : Value} {start fs : FileSystem} (hpristine : Pristine suffix start)
    (h : Reached suffix start (Kept suffix start) fs) : Safe suffix start fs := by
  induction h with
  | start => exact safe_start suffix start
  | run dryRun hbefore hadmitted hkept ih =>
    exact (hadmitted.safe_iff hpristine hbefore.sameFolders ih dryRun).mpr hkept

/-- Runs of any number that each keep the originals of their tables keep every original. No other run does, and one
that succeeds does so exactly if it begins with the files of its table as they were at the start. -/
theorem originals_safe {suffix : Value} {start : FileSystem} (hpristine : Pristine suffix start) :
    (∀ fs, Reached suffix start (Kept suffix start) fs → Safe suffix start fs) ∧
      ∀ (b : Bundler) (source table output : Option String) (args : List String) (dryRun : Bool) (w : World),
        Reached suffix start (fun _ _ _ => True) w.files → Safe suffix start w.files →
        Admitted suffix start b source table output args w →
        (Safe suffix start ((b.bundle source table output args dryRun).runIn w).2.files ↔
          Kept suffix start (planPaths (b.renamePlan source table w)) w.files
            ((b.bundle source table output args dryRun).runIn w).2.files) ∧
        (dryRun = false → Succeeds ((b.bundle source table output args dryRun).runIn w) →
          (Safe suffix start ((b.bundle source table output args dryRun).runIn w).2.files ↔
            Clean start (planPaths (b.renamePlan source table w)) w.files)) := by
  refine ⟨fun fs h => h.safe hpristine, fun b source table output args dryRun w hreached hsafe hadmitted => ?_⟩
  have hsame := hreached.sameFolders
  have hiff := hadmitted.safe_iff hpristine hsame hsafe
  refine ⟨hiff dryRun, ?_⟩
  rintro rfl hsucceeds
  refine ⟨hadmitted.clean_of_safe hpristine hsame hsucceeds, fun hclean => ?_⟩
  exact (hiff false).mpr (hadmitted.kept_of_clean hsame hclean _)

/-! ### A run after a run that failed -/

def smallStart : World :=
  smallWorld [(["a.c"], textFile "f"), (["t.csv"], tableFile "a.c:1,f,g\n")]

/-- What a run that fails may leave. -/
def smallLeft : World :=
  smallWorld [(["out.c"], textFile "f"), (["a.c"], textFile "g"), (["a.c.bak"], textFile "f"),
    (["t.csv"], tableFile "a.c:1,f,g\n")]

theorem smallStart_pristine : Pristine (.text ".bak") smallStart.files :=
  .of_flat ⟨by decide, by decide, by decide⟩ (by decide +kernel) (by decide +kernel)

theorem smallBundler_admitted {ended : Except Failure Unit} {w : World}
    (hplan : planPaths ((smallBundler .onSuccess (bundlesThen ended)).renamePlan (some "a.c") (some "t.csv") w) =
      [Path.ofText "a.c"]) :
    Admitted (.text ".bak") smallStart.files (smallBundler .onSuccess (bundlesThen ended)) (some "a.c") (some "t.csv")
      (some "out.c") [] w where
  quiet := smallBundler_quiet _ _
  suffix_eq := rfl
  names := by
    rw [hplan]
    decide +kernel
  writes := bundlesThen_writes _ _ _ _ _
  bundle := by
    intro src out hhands folder name bytes executable hfile
    have hout : smallStart.files.locate (Path.ofText "out.c").text = .ok ["out.c"] := by decide +kernel
    rw [hhands.out_eq (by decide), hout]
    refine ⟨fun heq => ?_, fun text htext heq => ?_⟩
    · have hempty : smallStart.files.node? ["out.c"] = none := by decide +kernel
      rw [Except.ok.injEq] at heq
      rw [← heq, hempty] at hfile
      cases hfile
    · cases htext
      rw [Except.ok.injEq] at heq
      have hlast := congrArg (fun r : Route => (r.getLastD "").toList.getLast?) heq
      simp at hlast

theorem failedRun_leaves :
    let b := smallBundler .onSuccess (bundlesThen (.error (.raised .merge "")))
    planPaths (b.renamePlan (some "a.c") (some "t.csv") smallStart) = [Path.ofText "a.c"] ∧
      ((b.bundle (some "a.c") (some "t.csv") (some "out.c") [] false).runIn smallStart).2.files = smallLeft.files := by
  intro b
  obtain ⟨hplan, hnodes, hhere⟩ :
      planPaths (b.renamePlan (some "a.c") (some "t.csv") smallStart) = [Path.ofText "a.c"] ∧
      ((b.bundle (some "a.c") (some "t.csv") (some "out.c") [] false).runIn smallStart).2.files.nodes =
        smallLeft.files.nodes ∧
      ((b.bundle (some "a.c") (some "t.csv") (some "out.c") [] false).runIn smallStart).2.files.here =
        smallLeft.files.here := by
    decide +kernel
  exact ⟨hplan, FileSystem.eq_of_nodes hnodes hhere⟩

theorem smallLeft_reached {allowed : List Path → FileSystem → FileSystem → Prop}
    (hallowed : ∀ fs, allowed [Path.ofText "a.c"] smallStart.files fs) :
    Reached (.text ".bak") smallStart.files allowed smallLeft.files := by
  obtain ⟨hplan, hleaves⟩ := failedRun_leaves
  rw [← hplan] at hallowed
  have hreached := Reached.run false .start (smallBundler_admitted hplan) (hallowed _)
  exact cast (congrArg (Reached (.text ".bak") smallStart.files allowed) hleaves) hreached

theorem secondRun_leaves :
    let b := smallBundler .onSuccess (bundlesThen (.ok ()))
    let ran := (b.bundle (some "a.c") (some "t.csv") (some "out.c") [] false).runIn smallLeft
    planPaths (b.renamePlan (some "a.c") (some "t.csv") smallLeft) = [Path.ofText "a.c"] ∧ Succeeds ran ∧
      ran.2.files.node? ["a.c"] = some (textFile "g") ∧ ran.2.files.node? ["a.c.bak"] = none := by
  decide +kernel

/-- The run that fails keeps the original in the backup; whether the next one keeps it hangs on the file. -/
theorem originals_safe_second_run : Safe (.text ".bak") smallStart.files smallLeft.files ∧
    (Safe (.text ".bak") smallStart.files (((smallBundler .onSuccess (bundlesThen (.ok ()))).bundle (some "a.c")
      (some "t.csv") (some "out.c") [] false).runIn smallLeft).2.files ↔
        Clean smallStart.files [Path.ofText "a.c"] smallLeft.files) := by
  have hsafe := (originals_safe smallStart_pristine).1 smallLeft.files (smallLeft_reached fun _ _ _ _ _ hfile _ =>
    Or.inl hfile)
  obtain ⟨hplan, hsucceeds, _⟩ := secondRun_leaves
  have hexact := ((originals_safe smallStart_pristine).2 _ _ _ _ _ _ _ (smallLeft_reached fun _ => trivial) hsafe
    (smallBundler_admitted hplan)).2 rfl hsucceeds
  rw [hplan] at hexact
  exact ⟨hsafe, hexact⟩

/-- The run after one that has failed writes the renamed text over the only copy of the original. -/
theorem originals_lost :
    let after := (((smallBundler .onSuccess (bundlesThen (.ok ()))).bundle (some "a.c") (some "t.csv") (some "out.c") []
      false).runIn smallLeft).2.files
    Pristine (.text ".bak") smallStart.files ∧ Reached (.text ".bak") smallStart.files (fun _ _ _ => True) after ∧
      ¬ Safe (.text ".bak") smallStart.files after := by
  intro after
  obtain ⟨hplan, -, hafter⟩ := secondRun_leaves
  refine ⟨smallStart_pristine, ?_, ?_⟩
  · exact .run false (smallLeft_reached fun _ => trivial) (smallBundler_admitted hplan) trivial
  · intro hsafe
    rcases hsafe [] "a.c" (Text.utf8Encoded (Text.glyphs "f")) false (by decide +kernel) with hkept | ⟨_, htext, hbackup⟩
    · exact absurd (hafter.1.symm.trans hkept) (by decide +kernel)
    · cases htext
      cases hafter.2.symm.trans hbackup

end Bundler

end Amalgam
