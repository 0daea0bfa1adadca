import Amalgam.Proofs.Bundle.Frame
import Amalgam.Proofs.Bundle.Listing
import Amalgam.Proofs.Bundle.Stages
import Amalgam.Proofs.CommandLine.MachineReadable
import Amalgam.Proofs.Console.Output
/-!
# The exit status of a command that has succeeded

When a workflow has succeeded its command still has to tell people about it. Messages can always be told, so whether the
command exits with status zero is decided by its tables alone: their titles and cells are markup, and names of files and
symbols go into them as they are.
-/

namespace Amalgam

open Amalgam.Text Amalgam.Symbols

namespace Bundler

variable {b : Bundler} {source table output : Option String} {args : List String} {dryRun : Bool} {w w' : World}

theorem listSymbols_success {r : ListingResult} (h : (b.listSymbols source table args).runIn w = (.ok r, w'))
    (hsuccess : r.success = true) :
    (∃ s, source = some s ∧ s ≠ "") ∧ ∃ groups, groupByFile r.symbols = .ok groups := by
  rw [listSymbols_runIn] at h
  rcases hlist : (b.listInto source table args).runIn w with ⟨failure | result, w₁⟩
  · rw [hlist] at h
    dsimp only at h
    split_ifs at h
    · cases h
      cases hsuccess
    · cases h
  · rw [hlist] at h
    cases h
    rw [listInto_eq] at hlist
    obtain ⟨path, _, hpath, hlist⟩ := Action.runIn_bind_eq_ok hlist
    obtain ⟨_, _, _, hlist⟩ := Action.runIn_bind_eq_ok hlist
    obtain ⟨csv, _, _, hlist⟩ := Action.runIn_bind_eq_ok hlist
    obtain ⟨_, _, _, hlist⟩ := Action.runIn_bind_eq_ok hlist
    obtain ⟨symbols, _, _, hlist⟩ := Action.runIn_bind_eq_ok hlist
    obtain ⟨newline, _, _, hlist⟩ := Action.runIn_bind_eq_ok hlist
    obtain ⟨_, _, _, hlist⟩ := Action.runIn_bind_eq_ok hlist
    obtain ⟨_, _, _, hlist⟩ := Action.runIn_bind_eq_ok hlist
    obtain ⟨groups, _, hgroups, hlist⟩ := Action.runIn_bind_eq_ok hlist
    cases hlist
    obtain ⟨s, hs, hne, _⟩ := requireSource_ok hpath
    exact ⟨⟨s, hs, hne⟩, groups, (Action.runIn_ofExcept_eq_ok hgroups).1⟩

theorem bundle_success {r : BundleResult} (h : (b.bundle source table output args dryRun).runIn w = (.ok r, w'))
    (hsuccess : r.success = true) : ∃ s, source = some s ∧ s ≠ "" := by
  rw [bundle_runIn] at h
  rcases bundleWork_runIn b source table output args dryRun (freshResult dryRun) w with
    ⟨failure, w₁, _, hrun⟩ | ⟨src, out, w₁, hhands, _⟩
  · have hfailed := hrun b.merger.merge
    rw [withMerge_self] at hfailed
    rw [hfailed] at h
    unfold concluded at h
    dsimp only at h
    split_ifs at h
    · cases h
      cases hsuccess
    · cases h
  · obtain ⟨s, hs, hne, _⟩ := hhands.source_eq
    exact ⟨s, hs, hne⟩

end Bundler

end Amalgam

namespace Amalgam.CommandLine

open Amalgam.Text Amalgam.Symbols Amalgam.Console

/-! ### Tables -/

/-- The table that a listing shows. -/
def listingTable (source : String) (r : ListingResult) : Table where
  title := "Symbols in " ++ source
  header := ["filename_line", "kind_display_name"]
  rows := (r.symbols.take previewRows).map fun e => [e.filenameLine, e.kindDisplayName]

/-- The table that a bundle shows if it has renamed anything. -/
def renamesTable (r : BundleResult) : Table where
  title := "Renamed symbols"
  header := ["File", "Symbol", "Replacements"]
  rows := r.renames.flatMap fun (file, counts) => counts.map fun (name, n) => [file, name, numeral n]

/-- The workflow that an invocation asks for succeeds, and these are the tables to be shown then. -/
inductive Accomplished (setup : Setup) (i : Invocation) (w : World) : List Table → Prop
  | listed {o : ToolOptions} {b : Bundler} {r : ListingResult} {w₁ w₂ : World} (htask : i.task = .listSymbols o)
      (hload : (loadBundler setup i).runIn w = (.ok b, w₁))
      (hrun : (b.listSymbols o.source o.table o.toolArguments).runIn w₁ = (.ok r, w₂)) (hsuccess : r.success = true) :
      Accomplished setup i w [listingTable (o.source.getD "") r]
  | bundled {o : ToolOptions} {b : Bundler} {r : BundleResult} {w₁ w₂ : World} (htask : i.task = .bundle o)
      (hload : (loadBundler setup i).runIn w = (.ok b, w₁))
      (hrun : (b.bundle o.source o.table o.output o.toolArguments o.dryRun).runIn w₁ = (.ok r, w₂))
      (hsuccess : r.success = true) :
      Accomplished setup i w (if r.renames.isEmpty then [] else [renamesTable r])

/-! ### Telling -/

variable {setup : Setup} {i : Invocation} {w : World}

theorem tellMessage_returns (i : Invocation) (kind : Kind) (message : String) (w : World) :
    (tellMessage i kind message).Returns w := by
  obtain ⟨text, htext⟩ := printMessage_returns i.styled kind message
  exact ⟨(), _, by rw [tellMessage, tellConsole, htext]; rfl⟩

theorem tellMessages_returns (i : Invocation) (kind : Kind) (messages : List String) (w : World) :
    (messages.forM (tellMessage i kind)).Returns w := by
  induction messages generalizing w with
  | nil => exact .pure () w
  | cons message messages ih => exact (tellMessage_returns i kind message w).bind fun _ w' _ => ih w'

/-- The action ends with status zero in every world. -/
def EndsWell (a : Action Nat) : Prop :=
  ∀ w, ∃ w', a.runIn w = (.ok 0, w')

theorem EndsWell.pure : EndsWell (Pure.pure 0) :=
  fun w => ⟨w, rfl⟩

theorem EndsWell.bind {α : Type} {a : Action α} {f : α → Action Nat} (ha : ∀ w, a.Returns w)
    (hf : ∀ x, EndsWell (f x)) : EndsWell (a >>= f) := by
  intro w
  obtain ⟨x, w₁, hrun⟩ := ha w
  rw [Action.runIn_bind_ok hrun]
  exact hf x w₁

/-- A command that shows a table and ends well after it ends well exactly if the table can be printed. -/
theorem tellTable_bind_iff {t : Table} {next : Unit → Action Nat} (hnext : EndsWell (next ())) (w : World) :
    ((tellTable i t >>= next).runIn w).1 = .ok 0 ↔ ∃ text, printTable i.styled t = .ok text := by
  cases hprint : printTable i.styled t with
  | error fault =>
    have hrun : (tellTable i t).runIn w = (.error (.markup fault), w) := by
      rw [tellTable, tellConsole, hprint]
      rfl
    simp [Action.runIn_bind, hrun]
  | ok text =>
    obtain ⟨w₁, hrun⟩ : ∃ w₁, (tellTable i t).runIn w = (.ok (), w₁) :=
      ⟨_, by rw [tellTable, tellConsole, hprint]; rfl⟩
    obtain ⟨w₂, hrest⟩ := hnext w₁
    simp [Action.runIn_bind_ok hrun, hrest]

/-! ### Commands -/

section Commands

variable {b : Bundler} {o : ToolOptions} {w₁ : World}

theorem runListSymbols_iff (hplain : i.machineReadable = false) {r : ListingResult}
    (hrun : (b.listSymbols o.source o.table o.toolArguments).runIn w = (.ok r, w₁)) (hsuccess : r.success = true) :
    ((runListSymbols i b o).runIn w).1 = .ok 0 ↔
      ∃ text, printTable i.styled (listingTable (o.source.getD "") r) = .ok text := by
  obtain ⟨_, groups, hgroups⟩ := Bundler.listSymbols_success hrun hsuccess
  have htext : ∀ w, (Action.ofExcept .number (Report.listingText r)).Returns w := by
    intro w
    rw [Report.listingText, hsuccess, if_pos rfl, hgroups]
    exact .pure _ w
  rw [runListSymbols, Action.runIn_bind_ok hrun, hplain, hsuccess]
  refine tellTable_bind_iff ?_ w₁
  extract_lets told
  have htold : ∀ u, EndsWell (told u) := fun _ =>
    .bind htext fun _ => .bind (tellMessage_returns i _ _) fun _ => .bind (tellMessage_returns i _ _) fun _ => .pure
  split
  · exact .bind (tellMessage_returns i _ _) htold
  · exact htold ()

theorem runBundle_iff (hplain : i.machineReadable = false) {r : BundleResult}
    (hrun : (b.bundle o.source o.table o.output o.toolArguments o.dryRun).runIn w = (.ok r, w₁))
    (hsuccess : r.success = true) :
    ((runBundle i b o).runIn w).1 = .ok 0 ↔
      ∀ t ∈ (if r.renames.isEmpty then [] else [renamesTable r]), ∃ text, printTable i.styled t = .ok text := by
  rw [runBundle, Action.runIn_bind_ok hrun, hplain, hsuccess, if_neg Bool.false_ne_true, if_neg (by decide)]
  extract_lets told
  have htold : ∀ u, EndsWell (told u) := fun _ =>
    .bind (tellMessages_returns i _ _) fun _ => .bind (tellMessage_returns i _ _) fun _ => .pure
  cases r.renames.isEmpty with
  | true =>
    obtain ⟨w₂, hrest⟩ := htold () w₁
    simp [hrest]
  | false =>
    simp only [Bool.not_false, if_true, Bool.false_eq_true, if_false, List.mem_singleton, forall_eq]
    exact tellTable_bind_iff (htold ()) w₁

theorem runTask_iff {tables : List Table} (hplain : i.machineReadable = false) (h : Accomplished setup i w tables) :
    ((runTask setup i).runIn w).1 = .ok 0 ↔ ∀ t ∈ tables, ∃ text, printTable i.styled t = .ok text := by
  cases h with
  | listed htask hload hrun hsuccess =>
    have hsource : Task.OnSource i.task := htask ▸ (Bundler.listSymbols_success hrun hsuccess).1
    rw [runTask, hsource.not_lacksSource, if_neg Bool.false_ne_true, htask, List.forall_mem_singleton]
    simp only [Action.runIn_bind_ok hload]
    exact runListSymbols_iff hplain hrun hsuccess
  | bundled htask hload hrun hsuccess =>
    have hsource : Task.OnSource i.task := htask ▸ Bundler.bundle_success hrun hsuccess
    rw [runTask, hsource.not_lacksSource, if_neg Bool.false_ne_true, htask]
    simp only [Action.runIn_bind_ok hload]
    exact runBundle_iff hplain hrun hsuccess

end Commands

/-! ### Runs -/

/-- The status of a run is zero exactly if its task ends with that. -/
theorem run_status_iff {arguments : List String} (hi : Invocation.ofArguments arguments = .ok i) :
    (run setup arguments w).1.status = 0 ↔ ((runTask setup i).runIn w).1 = .ok 0 := by
  simp only [run, hi, runInvocation, perform, Action.runIn_bind_ok (Action.runIn_attempt _ _)]
  rcases (runTask setup i).runIn w with ⟨failure | status, w₁⟩
  · simp only [reduceCtorEq, iff_false]
    rw [Action.runIn_bind]
    rcases (tellFailure i failure).runIn w₁ with ⟨_ | ⟨⟩, w₂⟩
    · exact Nat.one_ne_zero
    · exact Nat.one_ne_zero
  · simp

theorem run_world {arguments : List String} {status : Nat} {left : World}
    (hi : Invocation.ofArguments arguments = .ok i) (hrun : (runTask setup i).runIn w = (.ok status, left)) :
    (run setup arguments w).2 = left := by
  simp only [run, hi, runInvocation, perform, Action.runIn_bind_ok (Action.runIn_attempt _ _), hrun]
  rfl

/-- The tables of a workflow have columns. -/
theorem accomplished_header {tables : List Table} (h : Accomplished setup i w tables) : ∀ t ∈ tables, t.header ≠ [] := by
  cases h with
  | listed => simp [listingTable]
  | bundled =>
    split
    · simp
    · simp [renamesTable]

/-- When the workflow has succeeded, a command that is not machine-readable exits with status zero exactly if its tables
can be printed. They can be if all their texts are markup that can be shown and whose styles can be read, and if they are
printed, all their texts can be shown. -/
theorem success_exit {arguments : List String} {tables : List Table} (hi : Invocation.ofArguments arguments = .ok i)
    (hplain : i.machineReadable = false) (h : Accomplished setup i w tables) :
    ((run setup arguments w).1.status = 0 ↔ ∀ t ∈ tables, ∃ text, printTable i.styled t = .ok text) ∧
    ((∀ t ∈ tables, ∀ s ∈ t.texts, Markup.Sound s) → (run setup arguments w).1.status = 0) ∧
    ((run setup arguments w).1.status = 0 → ∀ t ∈ tables, ∀ s ∈ t.texts, ∃ shown, Markup.shown s = .ok shown) := by
  have hstatus : (run setup arguments w).1.status = 0 ↔ ∀ t ∈ tables, ∃ text, printTable i.styled t = .ok text :=
    (run_status_iff hi).trans (runTask_iff hplain h)
  refine ⟨hstatus, fun hsound => hstatus.mpr fun t ht => printTable_returns (hsound t ht) i.styled, fun hzero t ht => ?_⟩
  obtain ⟨text, htext⟩ := hstatus.mp hzero t ht
  exact shown_of_printTable (accomplished_header h t ht) htext

/-! ### Small runs -/

/-- A file in a folder, and a table that gives a name in it a new one. -/
def renamingWorld (folder file : String) : World :=
  Bundler.smallWorld
    [(["a.c"], Bundler.textFile "f"), ([folder], .directory), ([folder, file], Bundler.textFile "int h;"),
      (["t.csv"], Bundler.tableFile (folder ++ "/" ++ file ++ ":1,h,k\n"))]

/-- Collaborators whose merger writes a bundle. -/
def renamingSetup : Setup where
  bundler _ := Bundler.smallBundler .always (Bundler.bundlesThen (.ok ()))

def renamingArguments : List String := ["bundle", "a.c", "-c", "t.csv", "-o", "out.c"]

def renamingInvocation : Invocation :=
  ⟨none, false, false, false, .bundle { source := some "a.c", table := some "t.csv", output := some "out.c" }⟩

theorem renamingArguments_read : Invocation.ofArguments renamingArguments = .ok renamingInvocation := by
  decide +kernel

/-- How the workflow of the small run ends. -/
def renamingRun (folder file : String) : Except Failure BundleResult × World :=
  ((renamingSetup.bundler {}).bundle (some "a.c") (some "t.csv") (some "out.c") [] false).runIn
    ((Config.load none true true).runIn (renamingWorld folder file)).2

theorem accomplished_of_renamingRun {folder file : String} {r : BundleResult}
    (hload : ∃ s, ((Config.load none true true).runIn (renamingWorld folder file)).1 = .ok s)
    (hrun : (renamingRun folder file).1 = .ok r) (hsuccess : r.success = true) :
    Accomplished renamingSetup renamingInvocation (renamingWorld folder file)
      (if r.renames.isEmpty then [] else [renamesTable r]) := by
  refine .bundled rfl ?_ (Prod.ext hrun rfl) hsuccess
  rw [loadBundler]
  obtain ⟨s, hs⟩ := hload
  have hloaded : (Config.load renamingInvocation.config true true).runIn (renamingWorld folder file) =
      (.ok s, ((Config.load none true true).runIn (renamingWorld folder file)).2) := Prod.ext hs rfl
  rw [Action.runIn_bind_ok hloaded]
  rfl

/-- A folder whose name has brackets that begin no tag. -/
theorem success_exit_brackets :
    ∃ tables, Invocation.ofArguments renamingArguments = .ok renamingInvocation ∧
      renamingInvocation.machineReadable = false ∧
      Accomplished renamingSetup renamingInvocation (renamingWorld "v[T]" "b.h") tables ∧
      (run renamingSetup renamingArguments (renamingWorld "v[T]" "b.h")).1.status = 0 := by
  obtain ⟨hload, hrun⟩ : (∃ s, ((Config.load none true true).runIn (renamingWorld "v[T]" "b.h")).1 = .ok s) ∧
      ((renamingRun "v[T]" "b.h").1.toOption.any fun r => r.success &&
        decide (∀ t ∈ (if r.renames.isEmpty then [] else [renamesTable r]), ∀ s ∈ t.texts, Markup.Plain s)) = true := by
    decide +kernel
  simp only [Option.any_eq_true, Bool.and_eq_true, decide_eq_true_eq, Except.toOption_eq_some] at hrun
  obtain ⟨r, hr, hsuccess, hplain⟩ := hrun
  have haccomplished := accomplished_of_renamingRun hload hr hsuccess
  refine ⟨_, renamingArguments_read, rfl, haccomplished, ?_⟩
  exact (success_exit renamingArguments_read rfl haccomplished).2.1 fun t ht s hs => (hplain t ht s hs).sound

/-- A file whose path holds a closing tag: it is renamed in and restored and the bundle is written, but the table that
tells so cannot be printed. -/
theorem success_told_as_failure :
    (∃ tables, Invocation.ofArguments renamingArguments = .ok renamingInvocation ∧
      renamingInvocation.machineReadable = false ∧
      Accomplished renamingSetup renamingInvocation (renamingWorld "d[" "].h") tables) ∧
    (run renamingSetup renamingArguments (renamingWorld "d[" "].h")).1.status = 1 := by
  obtain ⟨hload, ⟨r, hr, hsuccess⟩, hstatus⟩ :
      (∃ s, ((Config.load none true true).runIn (renamingWorld "d[" "].h")).1 = .ok s) ∧
      Bundler.Succeeds (renamingRun "d[" "].h") ∧
      (run renamingSetup renamingArguments (renamingWorld "d[" "].h")).1.status = 1 := by
    decide +kernel
  exact ⟨⟨_, renamingArguments_read, rfl, accomplished_of_renamingRun hload hr hsuccess⟩, hstatus⟩

end Amalgam.CommandLine
