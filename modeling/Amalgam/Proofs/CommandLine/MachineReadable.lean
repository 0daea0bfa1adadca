import Amalgam.Proofs.CommandLine.Documents
/-!
# Machine-readable runs

With machine-readable output a run of the two workflows prints one JSON document, which says whether the run succeeded,
and its exit status says the same. A task either prints its document last and ends with the status for it, or it fails
without having printed anything, and then the failure is told in a document of its own. Which of the two happens does
not matter: a configuration that does not load, a collaborator that is interrupted, or a report that cannot be made.
-/

namespace Amalgam.CommandLine

open Amalgam.Json

/-- A text is one document that says whether a run succeeded, and nothing else. -/
def Answers (ok : Bool) (text : String) : Prop :=
  ∃ fields : Fields, IsDocument .standard text (.map fields) ∧ fields.Named ∧
    fields.get? "success" = some (.bool ok)

/-- How a machine-readable task ends: it has printed an answer and its status agrees, or it has failed and printed
nothing. -/
inductive Concludes (w : World) : Except Failure Nat × World → Prop
  | answered {ok : Bool} {text : String} {w' : World} (h : Answers ok text) (hprinted : Printed text w w') :
      Concludes w (.ok (if ok then 0 else 1), w')
  | failed {failure : Failure} {w' : World} (hprinted : Printed "" w w') : Concludes w (.error failure, w')

/-- A machine-readable task, which ends in one of the two ways. -/
def Answering (a : Action Nat) : Prop :=
  ∀ w, Concludes w (a.runIn w)

theorem answers_written (style : Style) {ok : Bool} {v : Value} (h : Report.Answer ok v) :
    ∃ s, Json.write style v = .ok s ∧ Answers ok (s ++ "\n") := by
  obtain ⟨hsayable, fields, rfl, hnamed, hsuccess⟩ := h
  obtain ⟨s, hs, _, hdocument⟩ := write_document hsayable style
  refine ⟨s, hs, fields, hdocument "\n" ?_, hnamed, hsuccess⟩
  intro c hc
  obtain rfl : c = '\n' := by simpa using hc
  rfl

namespace Answering

variable {α : Type} {a : Action α} {f : α → Action Nat}

theorem bind {prop : α → Prop} (ha : a.Silent) (hprop : a.Yields prop) (hf : ∀ x, prop x → Answering (f x)) :
    Answering (a >>= f) := by
  intro w
  have hrun := ha w
  rw [Action.runIn_bind]
  rcases h : a.runIn w with ⟨failure | x, w'⟩
  all_goals rw [h] at hrun
  · exact .failed hrun
  · have hrest := hf x (hprop w x w' h) w'
    dsimp only
    generalize (f x).runIn w' = run at hrest
    cases hrest with
    | answered hanswers hprinted => exact .answered hanswers (hrun.silent_trans hprinted)
    | failed hprinted => exact .failed (hrun.silent_trans hprinted)

theorem printed {ok : Bool} {v : Value} (h : Report.Answer ok v) :
    Answering (do
      Action.record (.printed (Report.json .standard v ++ "\n"))
      return if ok then 0 else 1) := by
  intro w
  obtain ⟨s, hs, hanswers⟩ := answers_written .standard h
  have hjson : Report.json .standard v = s := by rw [Report.json, hs]
  have hprinted : Printed (s ++ "\n") w { w with journal := w.journal ++ [.printed (s ++ "\n")] } :=
    .of_event (.printed (s ++ "\n")) rfl
  rw [hjson]
  exact .answered hanswers hprinted

end Answering

/-! ### Tasks -/

section Tasks

variable {setup : Setup} {i : Invocation} {b : Bundler}

theorem runBundle_answering (hmachine : i.machineReadable = true) (hsilent : b.Silent) (o : ToolOptions) :
    Answering (runBundle i b o) := by
  refine .bind (hsilent.bundle _ _ _ _ _) (b.bundle_yields _ _ _ _ _) fun result h => ?_
  rw [if_pos hmachine]
  exact .printed (Report.answer_bundleValue h)

theorem runListSymbols_answering (hmachine : i.machineReadable = true) (hsilent : b.Silent) (o : ToolOptions) :
    Answering (runListSymbols i b o) := by
  refine .bind (hsilent.listSymbols _ _ _) (b.listSymbols_yields _ _ _) fun result h => ?_
  rw [if_pos hmachine]
  exact .bind (.ofExcept _ _) (.ofExcept _ fun v hv => Report.answer_listingValue h hv) fun v hanswer =>
    .printed hanswer

/-- The tasks that run a workflow on a source. -/
def Task.OnSource : Task → Prop
  | .listSymbols o | .bundle o => ∃ s, o.source = some s ∧ s ≠ ""
  | _ => False

/-- The collaborators that a setup puts together print nothing. -/
def Setup.Silent (setup : Setup) : Prop :=
  ∀ s, (setup.bundler s).Silent

theorem Task.OnSource.not_lacksSource {task : Task} (h : task.OnSource) : task.lacksSource = false := by
  cases task with
  | listSymbols o | bundle o =>
    obtain ⟨s, hs, hne⟩ := h
    simp [lacksSource, hs, hne]
  | _ => cases h

theorem runTask_answering (hsilent : setup.Silent) (hmachine : i.machineReadable = true) (htask : i.task.OnSource) :
    Answering (runTask setup i) := by
  have hload : (loadBundler setup i).Silent := (Config.load_silent _ _ _).bind fun _ => .pure _
  have hbundler : (loadBundler setup i).Yields Bundler.Silent := .bind fun s => .pure (hsilent s)
  unfold runTask
  rw [htask.not_lacksSource, if_neg Bool.false_ne_true]
  cases h : i.task with
  | listSymbols o => exact .bind hload hbundler fun b hb => runListSymbols_answering hmachine hb o
  | bundle o => exact .bind hload hbundler fun b hb => runBundle_answering hmachine hb o
  | _ =>
    rw [h] at htask
    cases htask

end Tasks

/-! ### Failures -/

/-- An action that ends well and prints nothing. -/
def Finishes (a : Action Unit) : Prop :=
  ∀ w, ∃ w', a.runIn w = (.ok (), w') ∧ Printed "" w w'

theorem complain_finishes (text : String) : Finishes (complain text) :=
  fun _ => ⟨_, rfl, .of_event (.complained text) rfl⟩

theorem Finishes.bind {a : Action Unit} {f : Unit → Action Unit} (ha : Finishes a) (hf : Finishes (f ())) :
    Finishes (a >>= f) := by
  intro w
  obtain ⟨w₁, hrun, hprinted⟩ := ha w
  obtain ⟨w₂, hrest, hprinted'⟩ := hf w₁
  exact ⟨w₂, by rw [Action.runIn_bind_ok hrun, hrest], hprinted.silent_trans hprinted'⟩

theorem tellJson_prints {ok : Bool} {v : Value} {f : Unit → Action Unit} (h : Report.Answer ok v) (hf : Finishes (f ()))
    (w : World) : ∃ text w', (tellJson v >>= f).runIn w = (.ok (), w') ∧ Answers ok text ∧ Printed text w w' := by
  obtain ⟨s, hs, hanswers⟩ := answers_written .readable h
  have htell : (tellJson v).runIn w = (.ok (), { w with journal := w.journal ++ [.printed (s ++ "\n")] }) := by
    rw [tellJson, hs]
    rfl
  obtain ⟨w', hrest, hprinted⟩ := hf { w with journal := w.journal ++ [.printed (s ++ "\n")] }
  have htold : Printed (s ++ "\n") w { w with journal := w.journal ++ [.printed (s ++ "\n")] } :=
    .of_event (.printed (s ++ "\n")) rfl
  exact ⟨s ++ "\n", w', by rw [Action.runIn_bind_ok htell, hrest], hanswers, by simpa using htold.trans hprinted⟩

theorem tellFailure_prints {i : Invocation} (hmachine : i.machineReadable = true) (failure : Failure) (w : World) :
    ∃ text w', (tellFailure i failure).runIn w = (.ok (), w') ∧ Answers false text ∧ Printed text w w' := by
  unfold tellFailure
  simp only [hmachine, if_true]
  split
  · exact tellJson_prints Report.answer_cancelled (complain_finishes _) w
  · refine tellJson_prints (Report.answer_failed _ _) ?_ w
    refine (complain_finishes _).bind ?_
    split
    · exact complain_finishes _
    · exact fun w => ⟨w, rfl, .of_journal_eq rfl⟩

/-! ### Runs -/

section Runs

variable {setup : Setup} {i : Invocation}

theorem perform_prints (hsilent : setup.Silent) (hmachine : i.machineReadable = true) (htask : i.task.OnSource)
    (w : World) : ∃ ok text w', (perform setup i).runIn w = (.ok (if ok then 0 else 1), w') ∧ Answers ok text ∧
      Printed text w w' := by
  have hconcludes := runTask_answering hsilent hmachine htask w
  have hattempt : (Action.attempt (runTask setup i)).runIn w =
      (.ok ((runTask setup i).runIn w).1, ((runTask setup i).runIn w).2) := rfl
  rw [perform, Action.runIn_bind_ok hattempt]
  generalize (runTask setup i).runIn w = run at hconcludes
  cases hconcludes with
  | @answered ok text w' hanswers hprinted => exact ⟨ok, text, w', rfl, hanswers, hprinted⟩
  | @failed failure w' hprinted =>
    obtain ⟨text, w'', htell, hanswers, htold⟩ := tellFailure_prints hmachine failure w'
    refine ⟨false, text, w'', ?_, hanswers, hprinted.silent_trans htold⟩
    exact Action.runIn_bind_ok htell

/-- The collaborators of the program itself print nothing. With any such collaborators, arguments that are read to the
end, and ask for machine-readable output and for a workflow on a source, lead to one document on the standard output and
nothing else. The document says whether the run succeeded, and so does the exit status. -/
theorem machine_readable_contract :
    (∀ stamp, ({ stamp := stamp } : Setup).Silent) ∧
      ∀ (setup : Setup) (arguments : List String) (w : World), setup.Silent →
        ∀ i, Invocation.ofArguments arguments = .ok i → i.machineReadable = true → i.task.OnSource →
          ∃ ok, Answers ok (run setup arguments w).1.stdout ∧ (run setup arguments w).1.status = if ok then 0 else 1 := by
  refine ⟨fun stamp s => silent_of_settings s, fun setup arguments w hsilent i hi hmachine htask => ?_⟩
  obtain ⟨ok, text, w', hrun, hanswers, hprinted⟩ := perform_prints hsilent hmachine htask w
  have hstdout := hprinted.join_drop
  refine ⟨ok, ?_, ?_⟩
  · rw [run, hi]
    simp only [runInvocation, hrun, hstdout]
    exact hanswers
  · rw [run, hi]
    simp only [runInvocation, hrun]

/-- The merger is interrupted, which no result reports. -/
theorem machine_readable_interrupted :
    let w := { Bundler.smallWorld [(["a.c"], Bundler.textFile "int f;\n"), (["tool"], .file [] true)] with
      environment := [("BUNDLECXX_AMALGAMATE_COMMAND", "./tool")]
      host := ⟨fun _ _ _ fs => (fs, .failed (.raised .interrupt "")), ⟨false, none, none, []⟩⟩ }
    let ending := (run {} ["--machine-readable", "bundle", "a.c"] w).1
    Answers false ending.stdout ∧ ending.status = 1 := by
  intro w
  have hi : Invocation.ofArguments ["--machine-readable", "bundle", "a.c"] =
      .ok ⟨none, false, false, true, .bundle { source := some "a.c" }⟩ := by decide +kernel
  have hstatus : (run {} ["--machine-readable", "bundle", "a.c"] w).1.status = 1 := by decide +kernel
  obtain ⟨ok, hanswers, hok⟩ := machine_readable_contract.2 {} _ w (machine_readable_contract.1 _) _ hi rfl
    ⟨"a.c", rfl, by decide⟩
  cases ok with
  | false => exact ⟨hanswers, hstatus⟩
  | true => cases hstatus.symm.trans hok

end Runs

end Amalgam.CommandLine
