import Amalgam.CommandLine.Run
import Amalgam.Proofs.World.Running
/-!
# What a run prints

The journal only grows, and the standard output of a run is read off what has been added to it. An action that is silent
adds nothing that is printed, whether it succeeds or fails; sequences of silent actions are silent.
-/

namespace Amalgam

open CommandLine (printedPart)

/-- On the way from one world to another exactly this text was written to the standard output. -/
def Printed (text : String) (w w' : World) : Prop :=
  ∃ events, w'.journal = w.journal ++ events ∧ String.join (events.map printedPart) = text

namespace Printed

variable {s t : String} {w w' w'' : World}

theorem of_journal_eq (h : w'.journal = w.journal) : Printed "" w w' :=
  ⟨[], by rw [h, List.append_nil], rfl⟩

theorem of_event (event : Event) (h : w'.journal = w.journal ++ [event]) : Printed (printedPart event) w w' :=
  ⟨[event], h, by simp [String.join]⟩

theorem trans (h : Printed s w w') (h' : Printed t w' w'') : Printed (s ++ t) w w'' := by
  obtain ⟨events, hevents, rfl⟩ := h
  obtain ⟨more, hmore, rfl⟩ := h'
  exact ⟨events ++ more, by rw [hmore, hevents, List.append_assoc], by rw [List.map_append, String.join_append]⟩

theorem silent_trans (h : Printed "" w w') (h' : Printed t w' w'') : Printed t w w'' := by
  simpa using h.trans h'

theorem stepwise : World.Stepwise (Printed "") :=
  ⟨fun _ => .of_journal_eq rfl, fun h h' => h.silent_trans h'⟩

/-- What is printed is what the events that a run adds print. -/
theorem join_drop (h : Printed s w w') :
    String.join ((w'.journal.drop w.journal.length).map printedPart) = s := by
  obtain ⟨events, hevents, rfl⟩ := h
  rw [hevents, List.drop_left]

end Printed

namespace Action

variable {α β : Type}

/-- The action prints nothing, also when it fails. -/
def Silent (a : Action α) : Prop :=
  ∀ w, Printed "" w (a.runIn w).2

namespace Silent

theorem of_journal_eq {a : Action α} (h : ∀ w, (a.runIn w).2.journal = w.journal) : a.Silent :=
  fun w => .of_journal_eq (h w)

theorem pure (x : α) : (Pure.pure x : Action α).Silent :=
  of_journal_eq fun _ => rfl

theorem throw (failure : Failure) : (MonadExcept.throw failure : Action α).Silent :=
  of_journal_eq fun _ => rfl

theorem ofExcept {ε : Type} (failure : ε → Failure) (x : Except ε α) : (Action.ofExcept failure x).Silent :=
  of_journal_eq fun w => by rw [runIn_ofExcept]

theorem get : (MonadState.get : Action World).Silent :=
  of_journal_eq fun _ => rfl

theorem files : Action.files.Silent :=
  of_journal_eq fun _ => rfl

theorem setFiles (fs : FileSystem) : (Action.setFiles fs).Silent :=
  of_journal_eq fun _ => rfl

theorem record {event : Event} (h : printedPart event = "") : (Action.record event).Silent := by
  intro w
  have hevent : Printed (printedPart event) w ((Action.record event).runIn w).2 := .of_event event rfl
  rwa [h] at hevent

theorem log (level : Level) (logger message : String) : (Action.log level logger message).Silent :=
  record rfl

theorem bind {a : Action α} {f : α → Action β} (ha : a.Silent) (hf : ∀ x, (f x).Silent) : (a >>= f).Silent :=
  Leads.bind Printed.stepwise ha hf

theorem attempt {a : Action α} (h : a.Silent) : a.attempt.Silent :=
  h

theorem forM {ι : Type} {f : ι → Action Unit} (hf : ∀ x, (f x).Silent) (items : List ι) : (items.forM f).Silent :=
  Leads.forM Printed.stepwise fun x _ => hf x

theorem foldlM {ι : Type} {f : β → ι → Action β} (hf : ∀ s x, (f s x).Silent) (items : List ι) (s : β) :
    (items.foldlM f s).Silent :=
  Leads.foldlM Printed.stepwise (fun s x _ => hf s x) s

theorem probe (path : Path) : (Action.probe path).Silent :=
  files.bind fun _ => ofExcept _ _

theorem isFile (path : Path) : (Action.isFile path).Silent := by
  refine (probe path).bind fun node => ?_
  split <;> exact pure _

theorem leadsSomewhere (path : Path) : (Action.leadsSomewhere path).Silent :=
  (probe path).bind fun _ => pure _

theorem encodingName (setting : Value) : (Action.encodingName setting).Silent := by
  unfold Action.encodingName
  split
  · exact pure _
  · split_ifs
    · exact throw _
    · exact pure _
  · exact throw _

theorem codec (name : Option String) : (Action.codec name).Silent := by
  unfold Action.codec
  split
  · exact pure _
  · split
    · exact pure _
    · exact throw _

theorem readText (path : String) (encoding : Value) (keepRaw : Bool) :
    (Action.readText path encoding keepRaw).Silent :=
  (encodingName encoding).bind fun _ => files.bind fun _ => (ofExcept _ _).bind fun _ => (codec _).bind fun _ =>
    ofExcept _ _

theorem writeText (path : String) (encoding : Value) (text : List Text.Glyph) :
    (Action.writeText path encoding text).Silent :=
  (encodingName encoding).bind fun _ => files.bind fun _ => (ofExcept _ _).bind fun _ => (setFiles _).bind fun _ =>
    (codec _).bind fun _ => (ofExcept _ _).bind fun _ => setFiles _

end Silent

end Action

namespace Work

variable {α β : Type}

/-- The work prints nothing, also when it fails. -/
def Silent (work : Work α) : Prop :=
  ∀ result w, Printed "" w (work.runIn result w).2

namespace Silent

theorem lift {a : Action α} (h : a.Silent) : (liftM a : Work α).Silent :=
  fun _ w => h w

theorem throw (failure : Failure) : (MonadExcept.throw failure : Work α).Silent :=
  fun _ _ => .of_journal_eq rfl

theorem note (change : BundleResult → BundleResult) : (Work.note change).Silent :=
  fun _ _ => .of_journal_eq rfl

theorem bind {a : Work α} {f : α → Work β} (ha : a.Silent) (hf : ∀ x, (f x).Silent) : (a >>= f).Silent :=
  Leads.bind Printed.stepwise ha hf

theorem forM {ι : Type} {f : ι → Work Unit} (hf : ∀ x, (f x).Silent) (items : List ι) : (items.forM f).Silent :=
  Leads.forM Printed.stepwise fun x _ => hf x

theorem tryCatch {a : Work α} {handle : Failure → Work α} (ha : a.Silent)
    (hhandle : ∀ failure, (handle failure).Silent) : (MonadExcept.tryCatch a handle : Work α).Silent := by
  intro result w
  have hrun := ha result w
  rw [runIn_tryCatch]
  rcases h : a.runIn result w with ⟨⟨failure | x, result'⟩, w'⟩
  · rw [h] at hrun
    exact hrun.trans (hhandle failure result' w')
  · rwa [h] at hrun

end Silent

end Work

end Amalgam
