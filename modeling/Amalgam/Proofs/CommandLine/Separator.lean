import Amalgam.CommandLine.Run
import Amalgam.Proofs.Bundle.Runs
import Amalgam.Proofs.Value.Result
import Mathlib.Tactic.Common

/-!
# Behind the separator

The typed arguments are cut at the first `--` before anything else looks at them, so the grammars see what stands in
front of it and nothing more. What stands behind it is added to the arguments of the tool at the very end. The workflows
hand those arguments on as one list and never look into it: a run with more of them is the run without, done with
collaborators that are given more.
-/

namespace Amalgam

/-! ### Collaborators that are given more -/

/-- The same collaborators, who find some texts behind the arguments that they are handed. -/
def Bundler.withMore (b : Bundler) (more : List String) : Bundler where
  settings := b.settings
  source := { b.source with list := fun path args => b.source.list path (args ++ more) }
  merger := { b.merger with merge := fun source output args => b.merger.merge source output (args ++ more) }

namespace CommandLine

/-- The same setup, with collaborators that are given more. -/
def Setup.withMore (setup : Setup) (more : List String) : Setup :=
  { setup with bundler := fun settings => (setup.bundler settings).withMore more }

/-! ### Tasks with more arguments -/

def ToolOptions.withMore (o : ToolOptions) (more : List String) : ToolOptions :=
  { o with toolArguments := o.toolArguments ++ more }

/-- The task with more arguments for its tool, if it runs one. -/
def Task.withMore (more : List String) : Task → Task
  | .listSymbols o => .listSymbols (o.withMore more)
  | .bundle o => .bundle (o.withMore more)
  | task => task

def Invocation.withMore (i : Invocation) (more : List String) : Invocation :=
  { i with task := i.task.withMore more }

def Task.RunsTool : Task → Prop
  | .listSymbols _ | .bundle _ => True
  | _ => False

/-! ### Reading -/

section Reading

variable {p s : List String}

theorem ne_separator_of_mem (h : "--" ∉ p) : ∀ t ∈ p, (t != "--") = true := by
  intro t found
  rw [bne_iff_ne]
  rintro rfl
  exact h found

theorem splitForwarded_separator (h : "--" ∉ p) : splitForwarded (p ++ "--" :: s) = (p, s) := by
  rw [splitForwarded, List.takeWhile_append_of_pos (ne_separator_of_mem h),
    List.dropWhile_append_of_pos (ne_separator_of_mem h)]
  simp

theorem splitForwarded_plain (h : "--" ∉ p) : splitForwarded p = (p, []) := by
  rw [splitForwarded, List.takeWhile_eq_self_iff.mpr (ne_separator_of_mem h),
    List.dropWhile_eq_nil_iff.mpr (ne_separator_of_mem h)]
  rfl

theorem forward_withMore (o : ToolOptions) (typed extras more : List String) :
    o.forward typed extras more = (o.forward typed extras []).withMore more := by
  simp [ToolOptions.forward, ToolOptions.withMore]

theorem closed_eq_ok {task task' : Task} {extras : List String} (h : closed task extras = .ok task') : task' = task := by
  unfold closed at h
  split at h
  · exact (Except.ok.inj h).symm
  · cases h

/-- No configuration task runs a tool. -/
theorem configTask_runs_no_tool {arguments extras more : List String} {task : Task}
    (h : configTask arguments extras more = .ok task) : ¬ task.RunsTool := by
  obtain ⟨⟨action, rest⟩, _, hrest⟩ := Except.bind_eq_ok.mp h
  dsimp only at hrest
  split at hrest
  case h_4 =>
    obtain ⟨_, _, hthrow⟩ := Except.bind_eq_ok.mp hrest
    exact absurd hthrow Except.throw_ne_ok
  all_goals
    obtain ⟨⟨_, _⟩, _, hclosed⟩ := Except.bind_eq_ok.mp hrest
    rw [closed_eq_ok hclosed]
    exact id

theorem taskOf_withMore {typed command extras : List String} {task : Task}
    (h : taskOf typed command extras [] = .ok task) (tool : task.RunsTool) (more : List String) :
    taskOf typed command extras more = .ok (task.withMore more) := by
  unfold taskOf at h ⊢
  split at h
  · obtain ⟨⟨options, rest⟩, hread, htask⟩ := Except.bind_eq_ok.mp h
    obtain rfl := Except.pure_eq_ok.mp htask
    simp only [hread]
    rw [Except.ok_bind, forward_withMore]
    rfl
  · obtain ⟨⟨options, rest⟩, hread, htask⟩ := Except.bind_eq_ok.mp h
    obtain rfl := Except.pure_eq_ok.mp htask
    simp only [hread]
    rw [Except.ok_bind, forward_withMore]
    rfl
  · obtain ⟨⟨_, _⟩, _, hclosed⟩ := Except.bind_eq_ok.mp h
    rw [closed_eq_ok hclosed] at tool
    cases tool
  · exact absurd tool (configTask_runs_no_tool h)
  · exact absurd h Except.throw_ne_ok

theorem ofArguments_separator {i : Invocation} (hp : "--" ∉ p) (hi : Invocation.ofArguments p = .ok i)
    (tool : i.task.RunsTool) (s : List String) : Invocation.ofArguments (p ++ "--" :: s) = .ok (i.withMore s) := by
  unfold Invocation.ofArguments at hi ⊢
  rw [splitForwarded_plain hp] at hi
  rw [splitForwarded_separator hp]
  obtain ⟨⟨options, extras⟩, hread, hrest⟩ := Except.bind_eq_ok.mp hi
  obtain ⟨task, htask, hinvocation⟩ := Except.bind_eq_ok.mp hrest
  obtain rfl := Except.pure_eq_ok.mp hinvocation
  dsimp only at htask ⊢
  rw [hread, Except.ok_bind]
  dsimp only
  rw [taskOf_withMore htask tool, Except.ok_bind]
  rfl

end Reading

/-! ### Running -/

section Running

variable (setup : Setup) (i : Invocation) (b : Bundler) (o : ToolOptions) (more : List String)

/-- A workflow does nothing with the arguments but to hand them to its collaborator. -/
theorem runListSymbols_withMore :
    runListSymbols (i.withMore more) b (o.withMore more) = runListSymbols i (b.withMore more) o := rfl

theorem runBundle_withMore : runBundle (i.withMore more) b (o.withMore more) = runBundle i (b.withMore more) o := rfl

theorem loadBundler_withMore {α : Type} (next : Bundler → Action α) :
    (loadBundler setup (i.withMore more) >>= fun b => next (b.withMore more)) =
      loadBundler (setup.withMore more) i >>= next := by
  unfold loadBundler
  simp only [bind_assoc, pure_bind]
  rfl

theorem Task.command_withMore (task : Task) : (task.withMore more).command = task.command := by
  cases task <;> rfl

theorem Task.lacksSource_withMore (task : Task) : (task.withMore more).lacksSource = task.lacksSource := by
  cases task <;> rfl

variable {i} in
theorem runTask_withMore (tool : i.task.RunsTool) :
    runTask setup (i.withMore more) = runTask (setup.withMore more) i := by
  have lacks : (i.withMore more).task.lacksSource = i.task.lacksSource := Task.lacksSource_withMore more i.task
  unfold runTask
  rw [lacks]
  cases task : i.task with
  | listSymbols o =>
    have more_task : (i.withMore more).task = .listSymbols (o.withMore more) := by rw [Invocation.withMore, task]; rfl
    rw [more_task]
    simp only [runListSymbols_withMore]
    rw [loadBundler_withMore setup i more fun b => runListSymbols i b o]
  | bundle o =>
    have more_task : (i.withMore more).task = .bundle (o.withMore more) := by rw [Invocation.withMore, task]; rfl
    rw [more_task]
    simp only [runBundle_withMore]
    rw [loadBundler_withMore setup i more fun b => runBundle i b o]
  | _ =>
    rw [task] at tool
    cases tool

theorem tellFailure_withMore (failure : Failure) : tellFailure (i.withMore more) failure = tellFailure i failure := by
  have command : (i.withMore more).task.command = i.task.command := Task.command_withMore more i.task
  unfold tellFailure
  rw [command]
  rfl

variable {i} in
theorem perform_withMore (tool : i.task.RunsTool) :
    perform setup (i.withMore more) = perform (setup.withMore more) i := by
  unfold perform
  rw [runTask_withMore setup more tool]
  simp only [tellFailure_withMore]

/-- What stands behind the first `--` reaches the arguments of the tool and nothing else. The invocation is the one of
the arguments in front of it but for those, and so is the run: whatever the collaborators do, it is the run of the
arguments in front, with the same collaborators given the others as well. -/
theorem separator_opaque (p s : List String) (w : World) (hp : "--" ∉ p) {i : Invocation}
    (hi : Invocation.ofArguments p = .ok i) (tool : i.task.RunsTool) :
    Invocation.ofArguments (p ++ "--" :: s) = .ok (i.withMore s) ∧
      run setup (p ++ "--" :: s) w = run (setup.withMore s) p w := by
  have read := ofArguments_separator hp hi tool s
  refine ⟨read, ?_⟩
  unfold run
  rw [read, hi]
  dsimp only
  unfold runInvocation
  rw [perform_withMore setup s tool]
  rfl

/-- Behind the separator stand an option with its name only, another separator, and a switch. -/
theorem separator_opaque_options :
    let w := Bundler.smallWorld [(["a.c"], Bundler.textFile "int f;\n")]
    let typed := ["bundle", "a.c", "-DX", "--", "-c", "--", "--dry-run"]
    Invocation.ofArguments typed = .ok ⟨none, false, false, false,
        .bundle { source := some "a.c", toolArguments := ["-DX", "-c", "--", "--dry-run"] }⟩ ∧
      run {} typed w = run (({} : Setup).withMore ["-c", "--", "--dry-run"]) ["bundle", "a.c", "-DX"] w := by
  intro w typed
  have hi : Invocation.ofArguments ["bundle", "a.c", "-DX"] =
      .ok ⟨none, false, false, false, .bundle { source := some "a.c", toolArguments := ["-DX"] }⟩ := by decide +kernel
  exact separator_opaque {} ["bundle", "a.c", "-DX"] ["-c", "--", "--dry-run"] w (by decide) hi trivial

end Running

end CommandLine

end Amalgam
