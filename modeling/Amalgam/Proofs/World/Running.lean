import Amalgam.Bundle.Bundler
import Mathlib.Tactic.Common
/-!
# Running actions

What `runIn` makes of each way of building an action, and the same for work on a result. A world is passed along the
successes of a sequence and stays where the first failure left it. An action that only reads depends on the world
through its files alone and leaves them as they are; sequences of such actions only read, too.
-/

namespace Amalgam

open Amalgam.Text Amalgam.Symbols

/-- A relation of worlds that a sequence of steps has if each of its steps has it. -/
structure World.Stepwise (related : World → World → Prop) : Prop where
  refl : ∀ w, related w w
  trans : ∀ {w w' w''}, related w w' → related w' w'' → related w w''

namespace Action

variable {α β : Type}

@[simp] theorem runIn_pure (a : α) (w : World) : (pure a : Action α).runIn w = (.ok a, w) := rfl

@[simp] theorem runIn_throw (failure : Failure) (w : World) :
    (throw failure : Action α).runIn w = (.error failure, w) := rfl

theorem runIn_bind (a : Action α) (f : α → Action β) (w : World) : (a >>= f).runIn w =
    match a.runIn w with
    | (.ok x, w') => (f x).runIn w'
    | (.error failure, w') => (.error failure, w') := by
  unfold runIn
  rw [ExceptT.run_bind, StateT.run_bind]
  rcases StateT.run (ExceptT.run a) w with ⟨x | x, w'⟩ <;> rfl

theorem runIn_bind_ok {a : Action α} {f : α → Action β} {w w' : World} {x : α} (h : a.runIn w = (.ok x, w')) :
    (a >>= f).runIn w = (f x).runIn w' := by
  rw [runIn_bind, h]

theorem runIn_bind_eq_ok {a : Action α} {f : α → Action β} {w w' : World} {y : β}
    (h : (a >>= f).runIn w = (.ok y, w')) : ∃ x w₁, a.runIn w = (.ok x, w₁) ∧ (f x).runIn w₁ = (.ok y, w') := by
  rw [runIn_bind] at h
  rcases hrun : a.runIn w with ⟨failure | x, w₁⟩
  · simp [hrun] at h
  · rw [hrun] at h
    exact ⟨x, w₁, rfl, h⟩

@[simp] theorem runIn_map (f : α → β) (a : Action α) (w : World) :
    (f <$> a).runIn w = ((a.runIn w).1.map f, (a.runIn w).2) := by
  rw [← bind_pure_comp, runIn_bind]
  rcases a.runIn w with ⟨x | x, w'⟩ <;> rfl

@[simp] theorem runIn_files (w : World) : files.runIn w = (.ok w.files, w) := rfl

@[simp] theorem runIn_setFiles (fs : FileSystem) (w : World) :
    (setFiles fs).runIn w = (.ok (), { w with files := fs }) := rfl

@[simp] theorem runIn_log (level : Level) (logger message : String) (w : World) :
    (log level logger message).runIn w =
      (.ok (), { w with journal := w.journal ++ [.logged ⟨level, logger, message⟩] }) := rfl

theorem exists_runIn_log (level : Level) (logger message : String) (w : World) :
    ∃ w' : World, w'.files = w.files ∧ (log level logger message).runIn w = (.ok (), w') :=
  ⟨{ w with journal := w.journal ++ [.logged ⟨level, logger, message⟩] }, rfl, rfl⟩

@[simp] theorem runIn_ofExcept {ε : Type} (failure : ε → Failure) (x : Except ε α) (w : World) :
    (ofExcept failure x).runIn w = (x.mapError failure, w) := by
  cases x <;> rfl

theorem runIn_ofExcept_eq_ok {ε : Type} {failure : ε → Failure} {x : Except ε α} {a : α} {w w' : World}
    (h : (ofExcept failure x).runIn w = (.ok a, w')) : x = .ok a ∧ w' = w := by
  cases x with
  | error e => simp [Except.mapError] at h
  | ok b =>
    simp only [runIn_ofExcept, Except.mapError, Prod.mk.injEq, Except.ok.injEq] at h
    exact ⟨congrArg Except.ok h.1, h.2.symm⟩

theorem runIn_attempt (a : Action α) (w : World) :
    (attempt a).runIn w = (.ok (a.runIn w).1, (a.runIn w).2) := rfl

theorem runIn_tryCatch (a : Action α) (handle : Failure → Action α) (w : World) :
    (tryCatch a handle : Action α).runIn w =
      match a.runIn w with
      | (.ok x, w') => (.ok x, w')
      | (.error failure, w') => (handle failure).runIn w' := by
  unfold runIn tryCatch instMonadExceptOfMonadExceptOf
  simp only [tryCatchThe, MonadExceptOf.tryCatch, ExceptT.tryCatch, ExceptT.run_mk]
  change StateT.run (ExceptT.run a >>= _) w = _
  rw [StateT.run_bind]
  rcases StateT.run (ExceptT.run a) w with ⟨x | x, w'⟩ <;> rfl

/-! ### Reading -/

/-- The action depends on the world through its files and does not change them. -/
def OnlyReads (a : Action α) : Prop :=
  ∀ w, (a.runIn w).2.files = w.files ∧ ∀ w' : World, w'.files = w.files → (a.runIn w').1 = (a.runIn w).1

namespace OnlyReads

theorem files_eq {a : Action α} (h : a.OnlyReads) (w : World) : (a.runIn w).2.files = w.files :=
  (h w).1

theorem result_eq {a : Action α} (h : a.OnlyReads) {w w' : World} (hfiles : w'.files = w.files) :
    (a.runIn w').1 = (a.runIn w).1 :=
  (h w).2 w' hfiles

theorem runIn_eq {a : Action α} (h : a.OnlyReads) {w w' w₁ : World} {ended : Except Failure α}
    (hrun : a.runIn w = (ended, w₁)) (hfiles : w'.files = w.files) :
    ∃ w₂, a.runIn w' = (ended, w₂) ∧ w₂.files = w₁.files := by
  have hended := h.result_eq hfiles
  have hw₁ := h.files_eq w
  rw [hrun] at hended hw₁
  exact ⟨(a.runIn w').2, Prod.ext hended rfl, (h.files_eq w').trans (hfiles.trans hw₁.symm)⟩

theorem pure (x : α) : (Pure.pure x : Action α).OnlyReads :=
  fun _ => ⟨rfl, fun _ _ => rfl⟩

theorem throw (failure : Failure) : (MonadExcept.throw failure : Action α).OnlyReads :=
  fun _ => ⟨rfl, fun _ _ => rfl⟩

theorem ofExcept {ε : Type} (failure : ε → Failure) (x : Except ε α) : (Action.ofExcept failure x).OnlyReads := by
  intro w
  simp

theorem files : Action.files.OnlyReads :=
  fun _ => ⟨rfl, fun _ h => congrArg Except.ok h⟩

theorem record (event : Event) : (Action.record event).OnlyReads :=
  fun _ => ⟨rfl, fun _ _ => rfl⟩

theorem log (level : Level) (logger message : String) : (Action.log level logger message).OnlyReads :=
  record _

theorem bind {a : Action α} {f : α → Action β} (ha : a.OnlyReads) (hf : ∀ x, (f x).OnlyReads) :
    (a >>= f).OnlyReads := by
  intro w
  rcases hrun : a.runIn w with ⟨failure | x, w₁⟩
  all_goals
    have hfiles : w₁.files = w.files := by rw [← ha.files_eq w, hrun]
    rw [runIn_bind, hrun]
  · refine ⟨hfiles, fun w' hw' => ?_⟩
    obtain ⟨w₂, hrun', _⟩ := ha.runIn_eq hrun hw'
    rw [runIn_bind, hrun']
  · refine ⟨((hf x).files_eq w₁).trans hfiles, fun w' hw' => ?_⟩
    obtain ⟨w₂, hrun', hw₂⟩ := ha.runIn_eq hrun hw'
    rw [runIn_bind, hrun']
    exact (hf x).result_eq hw₂

theorem attempt {a : Action α} (h : a.OnlyReads) : a.attempt.OnlyReads :=
  fun w => ⟨h.files_eq w, fun _ hw' => congrArg Except.ok (h.result_eq hw')⟩

theorem probe (path : Path) : (Action.probe path).OnlyReads :=
  files.bind fun _ => ofExcept _ _

theorem isFile (path : Path) : (Action.isFile path).OnlyReads := by
  refine (probe path).bind fun node => ?_
  split <;> exact pure _

theorem leadsSomewhere (path : Path) : (Action.leadsSomewhere path).OnlyReads :=
  (probe path).bind fun _ => pure _

theorem encodingName (setting : Value) : (Action.encodingName setting).OnlyReads := by
  unfold Action.encodingName
  split
  · exact pure _
  · split_ifs
    · exact throw _
    · exact pure _
  · exact throw _

theorem codec (name : Option String) : (Action.codec name).OnlyReads := by
  unfold Action.codec
  split
  · exact pure _
  · split
    · exact pure _
    · exact throw _

theorem readText (path : String) (encoding : Value) (keepRaw : Bool) :
    (Action.readText path encoding keepRaw).OnlyReads :=
  (encodingName encoding).bind fun _ => files.bind fun _ => (ofExcept _ _).bind fun _ => (codec _).bind fun _ =>
    ofExcept _ _

end OnlyReads

/-! ### What a run makes of the world -/

/-- The action leads from every world to one that is related to it, also when it fails. -/
def Leads (related : World → World → Prop) (a : Action α) : Prop :=
  ∀ w, related w (a.runIn w).2

namespace Leads

variable {related : World → World → Prop}

theorem bind (h : World.Stepwise related) {a : Action α} {f : α → Action β} (ha : a.Leads related)
    (hf : ∀ x, (f x).Leads related) : (a >>= f).Leads related := by
  intro w
  have hrun := ha w
  rw [runIn_bind]
  rcases hr : a.runIn w with ⟨failure | x, w'⟩
  · rwa [hr] at hrun
  · rw [hr] at hrun
    exact h.trans hrun (hf x w')

theorem forM (h : World.Stepwise related) {ι : Type} {f : ι → Action Unit} {items : List ι}
    (hf : ∀ x ∈ items, (f x).Leads related) : (items.forM f).Leads related := by
  induction items with
  | nil => exact h.refl
  | cons x rest ih =>
    exact bind h (hf x List.mem_cons_self) fun _ => ih fun y hy => hf y (List.mem_cons_of_mem _ hy)

theorem foldlM (h : World.Stepwise related) {ι : Type} {f : β → ι → Action β} {items : List ι}
    (hf : ∀ s, ∀ x ∈ items, (f s x).Leads related) (s : β) : (items.foldlM f s).Leads related := by
  induction items generalizing s with
  | nil => exact h.refl
  | cons x rest ih =>
    rw [List.foldlM_cons]
    exact bind h (hf s x List.mem_cons_self) fun s' => ih (fun t y hy => hf t y (List.mem_cons_of_mem _ hy)) s'

end Leads

/-- The action keeps an invariant of the files, also when it fails. -/
def Keeps (inv : FileSystem → Prop) (a : Action α) : Prop :=
  ∀ w : World, inv w.files → inv (a.runIn w).2.files

variable {inv : FileSystem → Prop}

theorem OnlyReads.keeps {a : Action α} (h : a.OnlyReads) : a.Keeps inv := by
  intro w hw
  rwa [h.files_eq w]

theorem stepwise_keeps (inv : FileSystem → Prop) : World.Stepwise (fun w w' => inv w.files → inv w'.files) :=
  ⟨fun _ hw => hw, fun h h' hw => h' (h hw)⟩

namespace Keeps

/-- An action that keeps whatever holds of the files leaves them alone. -/
theorem files_eq {a : Action α} (h : ∀ fs, a.Keeps (· = fs)) (w : World) : (a.runIn w).2.files = w.files :=
  h w.files w rfl

theorem bind {a : Action α} {f : α → Action β} (ha : a.Keeps inv) (hf : ∀ x, (f x).Keeps inv) :
    (a >>= f).Keeps inv :=
  Leads.bind (stepwise_keeps inv) ha hf

theorem get : (MonadState.get : Action World).Keeps inv :=
  fun _ hw => hw

theorem attempt {a : Action α} (h : a.Keeps inv) : a.attempt.Keeps inv :=
  h

theorem forM {ι : Type} {f : ι → Action Unit} {items : List ι} (hf : ∀ x ∈ items, (f x).Keeps inv) :
    (items.forM f).Keeps inv :=
  Leads.forM (stepwise_keeps inv) hf

theorem foldlM {ι : Type} {f : β → ι → Action β} {items : List ι} (hf : ∀ s, ∀ x ∈ items, (f s x).Keeps inv) (s : β) :
    (items.foldlM f s).Keeps inv :=
  Leads.foldlM (stepwise_keeps inv) hf s

end Keeps

/-! ### Ending without a failure -/

/-- The action ends without a failure in a world. -/
def Returns (a : Action α) (w : World) : Prop :=
  ∃ x w', a.runIn w = (.ok x, w')

namespace Returns

theorem pure (x : α) (w : World) : (Pure.pure x : Action α).Returns w :=
  ⟨x, w, rfl⟩

theorem log (level : Level) (logger message : String) (w : World) : (Action.log level logger message).Returns w :=
  ⟨(), _, rfl⟩

theorem bind {a : Action α} {f : α → Action β} {w : World} (ha : a.Returns w)
    (hf : ∀ x w', a.runIn w = (.ok x, w') → (f x).Returns w') : (a >>= f).Returns w := by
  obtain ⟨x, w', hrun⟩ := ha
  rw [Returns, runIn_bind_ok hrun]
  exact hf x w' hrun

end Returns

end Action

/-! ### Work on a result -/

namespace Work

variable {α β : Type}

def runIn (work : Work α) (result : BundleResult) (w : World) : (Except Failure α × BundleResult) × World :=
  StateT.run (StateT.run (ExceptT.run work) result) w

@[simp] theorem runIn_pure (a : α) (result : BundleResult) (w : World) :
    (pure a : Work α).runIn result w = ((.ok a, result), w) := rfl

@[simp] theorem runIn_throw (failure : Failure) (result : BundleResult) (w : World) :
    (throw failure : Work α).runIn result w = ((.error failure, result), w) := rfl

@[simp] theorem runIn_note (change : BundleResult → BundleResult) (result : BundleResult) (w : World) :
    (note change).runIn result w = ((.ok (), change result), w) := rfl

@[simp] theorem runIn_lift (a : Action α) (result : BundleResult) (w : World) :
    (liftM a : Work α).runIn result w = (((a.runIn w).1, result), (a.runIn w).2) := rfl

theorem runIn_bind (a : Work α) (f : α → Work β) (result : BundleResult) (w : World) : (a >>= f).runIn result w =
    match a.runIn result w with
    | ((.ok x, result'), w') => (f x).runIn result' w'
    | ((.error failure, result'), w') => ((.error failure, result'), w') := by
  unfold runIn
  rw [ExceptT.run_bind, StateT.run_bind, StateT.run_bind]
  rcases StateT.run (StateT.run (ExceptT.run a) result) w with ⟨⟨x | x, result'⟩, w'⟩ <;> rfl

theorem runIn_bind_ok {a : Work α} {f : α → Work β} {result result' : BundleResult} {w w' : World} {x : α}
    (h : a.runIn result w = ((.ok x, result'), w')) : (a >>= f).runIn result w = (f x).runIn result' w' := by
  rw [runIn_bind, h]

theorem runIn_bind_eq_ok {a : Work α} {f : α → Work β} {result result' : BundleResult} {w w' : World} {y : β}
    (h : (a >>= f).runIn result w = ((.ok y, result'), w')) : ∃ x result₁ w₁,
      a.runIn result w = ((.ok x, result₁), w₁) ∧ (f x).runIn result₁ w₁ = ((.ok y, result'), w') := by
  rw [runIn_bind] at h
  rcases hrun : a.runIn result w with ⟨⟨failure | x, result₁⟩, w₁⟩
  · simp [hrun] at h
  · rw [hrun] at h
    exact ⟨x, result₁, w₁, rfl, h⟩

theorem runIn_map (f : α → β) (a : Work α) (result : BundleResult) (w : World) : (f <$> a).runIn result w =
    (((a.runIn result w).1.1.map f, (a.runIn result w).1.2), (a.runIn result w).2) := by
  rw [← bind_pure_comp, runIn_bind]
  rcases a.runIn result w with ⟨⟨x | x, result'⟩, w'⟩ <;> rfl

theorem runIn_lift_bind (a : Action α) (f : α → Work β) (result : BundleResult) (w : World) :
    ((liftM a : Work α) >>= f).runIn result w =
      match a.runIn w with
      | (.ok x, w') => (f x).runIn result w'
      | (.error failure, w') => ((.error failure, result), w') := by
  rw [runIn_bind, runIn_lift]
  rcases a.runIn w with ⟨x | x, w'⟩ <;> rfl

theorem runIn_note_bind (change : BundleResult → BundleResult) (f : Unit → Work β) (result : BundleResult) (w : World) :
    (note change >>= f).runIn result w = (f ()).runIn (change result) w :=
  runIn_bind_ok (runIn_note change result w)

theorem runIn_tryCatch (a : Work α) (handle : Failure → Work α) (result : BundleResult) (w : World) :
    (tryCatch a handle : Work α).runIn result w =
      match a.runIn result w with
      | ((.ok x, result'), w') => ((.ok x, result'), w')
      | ((.error failure, result'), w') => (handle failure).runIn result' w' := by
  unfold runIn tryCatch instMonadExceptOfMonadExceptOf
  simp only [tryCatchThe, MonadExceptOf.tryCatch, ExceptT.tryCatch, ExceptT.run_mk]
  change StateT.run (StateT.run (ExceptT.run a >>= _) result) w = _
  rw [StateT.run_bind, StateT.run_bind]
  rcases StateT.run (StateT.run (ExceptT.run a) result) w with ⟨⟨x | x, result'⟩, w'⟩ <;> rfl

theorem runIn_runFrom (work : Work α) (result : BundleResult) (w : World) :
    (work.runFrom result).runIn w = (.ok (work.runIn result w).1, (work.runIn result w).2) := rfl

/-- The work leads from every world to one that is related to it, also when it fails. -/
def Leads (related : World → World → Prop) (work : Work α) : Prop :=
  ∀ result w, related w (work.runIn result w).2

namespace Leads

variable {related : World → World → Prop}

theorem bind (h : World.Stepwise related) {a : Work α} {f : α → Work β} (ha : a.Leads related)
    (hf : ∀ x, (f x).Leads related) : (a >>= f).Leads related := by
  intro result w
  have hrun := ha result w
  rw [runIn_bind]
  rcases hr : a.runIn result w with ⟨⟨failure | x, result'⟩, w'⟩
  · rwa [hr] at hrun
  · rw [hr] at hrun
    exact h.trans hrun (hf x result' w')

theorem forM (h : World.Stepwise related) {ι : Type} {f : ι → Work Unit} {items : List ι}
    (hf : ∀ x ∈ items, (f x).Leads related) : (items.forM f).Leads related := by
  induction items with
  | nil => exact fun _ => h.refl
  | cons x rest ih =>
    exact bind h (hf x List.mem_cons_self) fun _ => ih fun y hy => hf y (List.mem_cons_of_mem _ hy)

end Leads

/-- The work keeps an invariant of the files, also when it fails. -/
def Keeps (inv : FileSystem → Prop) (work : Work α) : Prop :=
  ∀ result (w : World), inv w.files → inv (work.runIn result w).2.files

namespace Keeps

variable {inv : FileSystem → Prop}

theorem lift {a : Action α} (h : a.Keeps inv) : (liftM a : Work α).Keeps inv :=
  fun _ w hw => h w hw

theorem note (change : BundleResult → BundleResult) : (Work.note change).Keeps inv :=
  fun _ _ hw => hw

theorem bind {a : Work α} {f : α → Work β} (ha : a.Keeps inv) (hf : ∀ x, (f x).Keeps inv) : (a >>= f).Keeps inv :=
  Leads.bind (Action.stepwise_keeps inv) ha hf

theorem forM {ι : Type} {f : ι → Work Unit} {items : List ι} (hf : ∀ x ∈ items, (f x).Keeps inv) :
    (items.forM f).Keeps inv :=
  Leads.forM (Action.stepwise_keeps inv) hf

end Keeps

/-- The work keeps a property of the result, also when it fails. -/
def KeepsResult (prop : BundleResult → Prop) (work : Work α) : Prop :=
  ∀ result w, prop result → prop (work.runIn result w).1.2

namespace KeepsResult

variable {prop : BundleResult → Prop}

theorem lift (a : Action α) : (liftM a : Work α).KeepsResult prop :=
  fun _ _ h => h

theorem note {change : BundleResult → BundleResult} (hchange : ∀ result, prop result → prop (change result)) :
    (Work.note change).KeepsResult prop :=
  fun result _ h => hchange result h

theorem throw (failure : Failure) : (MonadExcept.throw failure : Work α).KeepsResult prop :=
  fun _ _ h => h

theorem bind {a : Work α} {f : α → Work β} (ha : a.KeepsResult prop) (hf : ∀ x, (f x).KeepsResult prop) :
    (a >>= f).KeepsResult prop := by
  intro result w h
  have hrun := ha result w h
  rw [runIn_bind]
  rcases hr : a.runIn result w with ⟨⟨failure | x, result'⟩, w'⟩
  · rwa [hr] at hrun
  · rw [hr] at hrun
    exact hf x result' w' hrun

theorem forM {ι : Type} {f : ι → Work Unit} {items : List ι} (hf : ∀ x, (f x).KeepsResult prop) :
    (items.forM f).KeepsResult prop := by
  induction items with
  | nil => exact fun _ _ h => h
  | cons x rest ih => exact (hf x).bind fun _ => ih

theorem tryCatch {a : Work α} {handle : Failure → Work α} (ha : a.KeepsResult prop)
    (hhandle : ∀ failure, (handle failure).KeepsResult prop) :
    (MonadExcept.tryCatch a handle : Work α).KeepsResult prop := by
  intro result w h
  have hrun := ha result w h
  rw [runIn_tryCatch]
  rcases hr : a.runIn result w with ⟨⟨failure | x, result'⟩, w'⟩
  · rw [hr] at hrun
    exact hhandle failure result' w' hrun
  · rwa [hr] at hrun

end KeepsResult

end Work

/-! ### Small worlds -/

namespace Bundler

def textFile (text : String) : Node :=
  .file (utf8Encoded (glyphs text)) false

def tableFile (rows : String) : Node :=
  textFile ("filename_line,kind_display_name,new_display_name\n" ++ rows)

/-- A world with some files in its working directory and no tools. -/
def smallWorld (nodes : List (Route × Node)) : World where
  files := { nodes := nodes, here := [] }
  environment := []
  home := "/"
  host := ⟨fun _ _ _ fs => (fs, .timedOut), ⟨false, none, none, []⟩⟩
  journal := []
  runs := 0
  indexOpen := false

end Bundler

end Amalgam
