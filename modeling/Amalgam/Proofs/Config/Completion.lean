import Amalgam.Proofs.Config.Checks
import Amalgam.Proofs.Config.Filling
/-!
# Filling after validation

What validation accepts is filled in unless a section cannot be filled at all: it is no mapping, it has a key that is no
text, it binds a name that every section knows and that cannot be bound so, or it asks for the line end at a point where
the line ending in force is not a known one. Each of these is found as a misuse, so whether filling comes to a verdict
can be read off the bindings in their order.
-/

namespace Amalgam.Config

open Amalgam.Text

/-! ### Going through bindings -/

/-- A pass over bindings in which some view of the state tells whether the next step succeeds. -/
structure Guarded {σ τ : Type} (step : σ → Value × Value → Except Failure σ) (view : σ → τ)
    (next : τ → Value × Value → τ) (ready : τ → Value × Value → Prop) (b : Value × Value) : Prop where
  succeeds (s : σ) : ready (view s) b → ∃ s', step s b = .ok s' ∧ view s' = next (view s) b
  misused (s : σ) : ¬ ready (view s) b → ¬ Settled (step s b)

section Passes

variable {σ τ : Type} {step : σ → Value × Value → Except Failure σ} {view : σ → τ} {next : τ → Value × Value → τ}
  {ready : τ → Value × Value → Prop} {bindings : List (Value × Value)}

/-- Every binding is ready when its turn comes. -/
def ReadyInTurn (next : τ → Value × Value → τ) (ready : τ → Value × Value → Prop) (start : τ)
    (bindings : List (Value × Value)) : Prop :=
  ∀ before b after, bindings = before ++ b :: after → ready (before.foldl next start) b

theorem readyInTurn_cons {start : τ} {b : Value × Value} :
    ReadyInTurn next ready start (b :: bindings) ↔ ready start b ∧ ReadyInTurn next ready (next start b) bindings := by
  refine ⟨fun h => ⟨h [] b bindings rfl, ?_⟩, fun ⟨hb, hrest⟩ => ?_⟩
  · rintro before c after rfl
    exact h (b :: before) c after rfl
  · intro before c after heq
    cases before with
    | nil =>
      obtain ⟨rfl, _⟩ := List.cons.inj heq
      exact hb
    | cons d before =>
      obtain ⟨rfl, hrest'⟩ := List.cons.inj heq
      exact hrest before c after hrest'

theorem foldlM_succeeds (hstep : ∀ b ∈ bindings, Guarded step view next ready b) {s : σ}
    (h : ReadyInTurn next ready (view s) bindings) : ∃ s', bindings.foldlM step s = .ok s' := by
  induction bindings generalizing s with
  | nil => exact ⟨s, rfl⟩
  | cons b rest ih =>
    obtain ⟨hb, hrest⟩ := readyInTurn_cons.mp h
    obtain ⟨s₁, hs₁, hview⟩ := (hstep b List.mem_cons_self).succeeds s hb
    rw [List.foldlM_cons, hs₁]
    exact ih (fun c hc => hstep c (List.mem_cons_of_mem _ hc)) (hview ▸ hrest)

theorem readyInTurn_of_settled (hstep : ∀ b ∈ bindings, Guarded step view next ready b) {s : σ}
    (h : Settled (bindings.foldlM step s)) : ReadyInTurn next ready (view s) bindings := by
  induction bindings generalizing s with
  | nil =>
    intro before b after heq
    cases before <;> cases heq
  | cons b rest ih =>
    have hb := hstep b List.mem_cons_self
    rw [List.foldlM_cons, settled_bind] at h
    have hready : ready (view s) b := by
      by_contra hnot
      exact hb.misused s hnot h.1
    obtain ⟨s₁, hs₁, hview⟩ := hb.succeeds s hready
    exact readyInTurn_cons.mpr
      ⟨hready, hview ▸ ih (fun c hc => hstep c (List.mem_cons_of_mem _ hc)) (h.2 s₁ hs₁)⟩

end Passes

/-! ### One binding -/

/-- A binding that can be filled in: its key is a name, and not one that no section lets be bound like this. -/
def Bindable (b : Value × Value) : Prop :=
  ∃ name, b.1 = .text name ∧ name ≠ "__class__" ∧ name ≠ "__weakref__" ∧
    (name = "__dict__" → ∃ contents, b.2 = .map contents)

theorem reserved?_cases {name : String} {v : Value} (h : Bindable (.text name, v)) (kind : String) :
    (∃ contents, name = "__dict__" ∧ v = .map contents ∧ reserved? kind name v = .ok (some (.contents contents))) ∨
      (name = "__dataclass_fields__" ∧ reserved? kind name v = .ok (some (.roster v))) ∨
      (name ≠ "__dict__" ∧ reserved? kind name v = .ok none) := by
  obtain ⟨_, heq, hclass, hweakref, hdict⟩ := h
  obtain rfl := Value.text.inj heq
  unfold reserved?
  split
  · obtain ⟨contents, rfl⟩ := hdict rfl
    exact Or.inl ⟨contents, rfl, rfl, rfl⟩
  · exact Or.inr (Or.inl ⟨rfl, rfl⟩)
  · exact absurd rfl hclass
  · exact absurd rfl hweakref
  · next hother _ _ _ => exact Or.inr (Or.inr ⟨hother, rfl⟩)

theorem reserved?_misused {name : String} {v : Value} (h : ¬ Bindable (.text name, v)) (kind : String) :
    ∃ what, reserved? kind name v = .error what := by
  unfold reserved?
  split
  · split
    · exact absurd ⟨"__dict__", rfl, by decide, by decide, fun _ => ⟨_, rfl⟩⟩ h
    · exact ⟨_, rfl⟩
  · exact absurd ⟨"__dataclass_fields__", rfl, by decide, by decide, fun h => absurd h (by decide)⟩ h
  · exact ⟨_, rfl⟩
  · exact ⟨_, rfl⟩
  · next hdict _ hclass hweakref => exact absurd ⟨name, rfl, hclass, hweakref, fun h => absurd h hdict⟩ h

/-- Filling starts in each section with the key: a binding that cannot be filled in is misused there. -/
theorem not_settled_of_not_bindable {σ : Type} {b : Value × Value} (h : ¬ Bindable b) (kind : String)
    (rest : String → Option Reserved → Except Failure σ) :
    ¬ Settled (do
      let name ← settingName b.1
      let effect ← (reserved? kind name b.2).mapError .misuse
      rest name effect) := by
  obtain ⟨key, v⟩ := b
  cases key with
  | text name =>
    obtain ⟨what, hwhat⟩ := reserved?_misused h kind
    dsimp only [settingName, Except.ok_bind]
    rw [hwhat]
    exact not_settled_misuse what
  | _ => exact not_settled_misuse _

theorem choice_succeeds {α : Type} {ofName? : String → Option α} {names : List String} {v : Value}
    (hnames : ∀ name ∈ names, (ofName? name).isSome = true) (h : isOneOf names v = true) (enumeration : String) :
    ∃ c, choice ofName? enumeration v = .ok c := by
  obtain ⟨name, hname, rfl⟩ := isOneOf_iff.mp h
  obtain ⟨a, ha⟩ := Option.isSome_iff_exists.mp (hnames name hname)
  exact ⟨.known a, by rw [choice, ha]⟩

/-! ### The three sections -/

/-- Sections in which a step depends on the binding only are looked at without seeing anything. -/
def unseen {σ : Type} : σ → Unit := fun _ => ()

/-- A section in which only the value of one setting can be refused is filled in with any bindings that can be, as long
as that value is not refused. -/
theorem guarded_unseen {σ : Type} {step : σ → Value × Value → Except Failure σ} {b : Value × Value} {kind : String}
    {rest : σ → String → Option Reserved → Except Failure σ}
    (hstep : ∀ s, step s b = do
      let name ← settingName b.1
      let effect ← (reserved? kind name b.2).mapError .misuse
      rest s name effect)
    (hreserved : ∀ s name effect, ∃ s', rest s name (some effect) = .ok s')
    (hsetting : ∀ s name, b.1 = .text name → ∃ s', rest s name none = .ok s') :
    Guarded step unseen (fun _ _ => ()) (fun _ b => Bindable b) b where
  succeeds := by
    intro s hb
    have hfilled : ∃ s', step s b = .ok s' := by
      obtain ⟨key, v⟩ := b
      obtain ⟨name, rfl, _⟩ := id hb
      rw [hstep]
      rcases reserved?_cases hb kind with ⟨contents, _, _, heffect⟩ | ⟨_, heffect⟩ | ⟨_, heffect⟩
      all_goals simp only [settingName, heffect, Except.mapError, Except.ok_bind]
      · exact hreserved s name _
      · exact hreserved s name _
      · exact hsetting s name rfl
    exact hfilled.imp fun _ h => ⟨h, rfl⟩
  misused s hb := hstep s ▸ not_settled_of_not_bindable hb kind (rest s)

theorem fillTools_guarded {b : Value × Value}
    (hsource : b.1 = .text Setting.symbolSource.key → Setting.symbolSource.accepts b.2 = true) :
    Guarded fillTools unseen (fun _ _ => ()) (fun _ b => Bindable b) b := by
  have hmember : ∀ name ∈ symbolSourceNames, (SymbolSourceKind.ofName? name).isSome = true := by decide
  refine guarded_unseen (fun _ => rfl) (fun _ _ effect => ?_) fun _ _ hkey => ?_
  · cases effect <;> exact ⟨_, rfl⟩
  · dsimp only
    split
    case h_4 =>
      obtain ⟨c, hc⟩ := choice_succeeds hmember (hsource hkey) "SymbolSourceKind"
      exact ⟨_, by rw [hc]; rfl⟩
    all_goals exact ⟨_, rfl⟩

theorem fillBundle_guarded {b : Value × Value}
    (hpolicy : b.1 = .text Setting.restorePolicy.key → Setting.restorePolicy.accepts b.2 = true) :
    Guarded fillBundle unseen (fun _ _ => ()) (fun _ b => Bindable b) b := by
  have hmember : ∀ name ∈ restorePolicyNames, (RestorePolicy.ofName? name).isSome = true := by decide
  refine guarded_unseen (fun _ => rfl) (fun _ _ effect => ?_) fun _ _ hkey => ?_
  · cases effect <;> exact ⟨_, rfl⟩
  · dsimp only
    split
    case h_1 =>
      obtain ⟨c, hc⟩ := choice_succeeds hmember (hpolicy hkey) "RestorePolicy"
      exact ⟨_, by rw [hc]; rfl⟩
    all_goals exact ⟨_, rfl⟩

/-- The line ending in force after a binding: its own key sets it, and so do new contents of the section. -/
def inForce (ending : Value) (b : Value × Value) : Value :=
  match b with
  | (.text "line_ending", v) => v
  | (.text "__dict__", .map contents) => heldOr contents "line_ending" (.text "native")
  | _ => ending

/-- A binding of the rename section that can be filled in while a line ending is in force: asking for the line end
needs a known one. -/
def RenameReady (ending : Value) (b : Value × Value) : Prop :=
  Bindable b ∧ (b.1 = .text "newline" → Setting.lineEnding.accepts ending = true)

theorem lineEnd?_eq_none_iff {name : String} : lineEnd? name = none ↔ name ∉ lineEndingNames := by
  simp only [lineEnd?, lineEndingNames, List.lookup_cons, List.lookup_nil, List.mem_cons, List.not_mem_nil, or_false]
  repeat' split
  all_goals simp_all

theorem newline_eq_ok_iff {s : RenameSettings} :
    (∃ eol, s.newline = .ok eol) ↔ Setting.lineEnding.accepts s.lineEnding = true := by
  rw [Setting.accepts, isOneOf_iff]
  constructor
  · rintro ⟨eol, hnewline⟩
    unfold RenameSettings.newline at hnewline
    split at hnewline
    · next name hs =>
      refine ⟨name, ?_, hs⟩
      by_contra hunknown
      rw [lineEnd?_eq_none_iff.mpr hunknown] at hnewline
      cases hnewline
    · split_ifs at hnewline
  · rintro ⟨name, hname, hs⟩
    cases hend : lineEnd? name with
    | none => exact absurd hname (lineEnd?_eq_none_iff.mp hend)
    | some eol => exact ⟨eol, by simp [RenameSettings.newline, hs, hend]⟩

theorem fillRename_guarded (b : Value × Value) :
    Guarded fillRename RenameSettings.lineEnding inForce RenameReady b where
  succeeds := by
    rintro s ⟨hb, hnewline⟩
    obtain ⟨key, v⟩ := b
    obtain ⟨name, rfl, _⟩ := id hb
    unfold fillRename
    rcases reserved?_cases hb "RenameConfig" with ⟨contents, rfl, rfl, heffect⟩ | ⟨rfl, heffect⟩ | ⟨hdict, heffect⟩
    all_goals simp only [settingName, heffect, Except.mapError, Except.ok_bind]
    · exact ⟨_, rfl, rfl⟩
    · exact ⟨_, rfl, rfl⟩
    · split
      case h_4 =>
        obtain ⟨eol, heol⟩ := newline_eq_ok_iff.mpr (hnewline rfl)
        exact ⟨s, by rw [heol]; rfl, rfl⟩
      case h_5 =>
        refine ⟨s, rfl, ?_⟩
        unfold inForce
        split <;> simp_all
      all_goals exact ⟨_, rfl, rfl⟩
  misused := by
    intro s hready
    by_cases hb : Bindable b
    · have hnewline : b.1 = .text "newline" ∧ ¬ Setting.lineEnding.accepts s.lineEnding = true := by
        by_contra hnot
        exact hready ⟨hb, fun hkey => by_contra fun hunknown => hnot ⟨hkey, hunknown⟩⟩
      obtain ⟨key, v⟩ := b
      obtain ⟨rfl, hunknown⟩ := hnewline
      have hnone : reserved? "RenameConfig" "newline" v = .ok none := reserved?_eq_none (by decide) _ _
      unfold fillRename
      simp only [settingName, hnone, Except.mapError, Except.ok_bind]
      cases heol : s.newline with
      | error what => exact not_settled_misuse what
      | ok eol => exact absurd (newline_eq_ok_iff.mp ⟨eol, heol⟩) hunknown
    · exact not_settled_of_not_bindable hb _ _

/-! ### Whole sections -/

/-- The line ending in force after some bindings of the rename section. -/
def endingAfter (bindings : List (Value × Value)) : Value :=
  bindings.foldl inForce Setting.lineEnding.default

/-- A section that can be filled in: a mapping of bindings that can, in which a known line ending is in force where the
rename section asks for the line end. -/
def Fillable (name : String) : Value → Prop
  | .map bindings => (∀ b ∈ bindings, Bindable b) ∧
      (name = "rename" → ∀ before v after, bindings = before ++ (.text "newline", v) :: after →
        Setting.lineEnding.accepts (endingAfter before) = true)
  | _ => False

theorem readyInTurn_unseen {bindings : List (Value × Value)} :
    ReadyInTurn (fun _ _ => ()) (fun _ b => Bindable b) () bindings ↔ ∀ b ∈ bindings, Bindable b := by
  constructor
  · intro h b hb
    obtain ⟨before, after, heq⟩ := List.append_of_mem hb
    exact h before b after heq
  · rintro h before b after rfl
    exact h b (by simp)

theorem readyInTurn_rename {bindings : List (Value × Value)} :
    ReadyInTurn inForce RenameReady Setting.lineEnding.default bindings ↔ Fillable "rename" (.map bindings) := by
  constructor
  · refine fun h => ⟨fun b hb => ?_, fun _ before v after heq => (h before _ after heq).2 rfl⟩
    obtain ⟨before, after, heq⟩ := List.append_of_mem hb
    exact (h before b after heq).1
  · rintro ⟨hbindable, hending⟩ before b after heq
    refine ⟨hbindable b (by simp [heq]), fun hkey => ?_⟩
    obtain ⟨key, v⟩ := b
    obtain rfl : key = .text "newline" := hkey
    exact hending rfl before v after heq

section Sections

variable {data : Fields} {name : String} {s : Setting} {b : Value × Value}

theorem Setting.checked_or_accepts (s : Setting) : s ∈ checkedIn s.sectionName ∨ ∀ v, s.accepts v = true := by
  cases s
  case listSymbolsPath | libclangPath | encoding => exact Or.inr fun _ => rfl
  all_goals exact Or.inl (by decide)

/-- A setting that is bound in an accepted section has a value that is accepted. -/
theorem accepts_of_boundIn {v : Value} (haccepted : Accepted data s.sectionName) (h : boundIn data s = some v) :
    s.accepts v = true := by
  rcases s.checked_or_accepts with hchecked | haccepts
  · unfold boundIn sectionBindings bindingsOf at h
    split at h
    · next fields hget => exact haccepted _ hget s hchecked v h
    · cases h
  · exact haccepts v

theorem accepts_of_mem (hnamed : NamedSections data) (haccepted : Accepted data s.sectionName)
    (hb : b ∈ sectionBindings data s.sectionName) (hkey : b.1 = .text s.key) : s.accepts b.2 = true := by
  obtain ⟨key, v⟩ := b
  obtain rfl : key = .text s.key := hkey
  exact accepts_of_boundIn haccepted ((hnamed _ (sectionName_mem s)).get?_eq hb)

theorem sectionFields_of_mapping (h : ∀ v, data.get? name = some v → ∃ fields, v = .map fields) :
    sectionFields data name = .ok (sectionBindings data name) := by
  unfold sectionFields sectionBindings
  cases hget : data.get? name with
  | none => rfl
  | some v =>
    obtain ⟨fields, rfl⟩ := h v hget
    rfl

theorem mapping_of_settled (h : Settled (sectionFields data name)) (v : Value) (hget : data.get? name = some v) :
    ∃ fields, v = .map fields := by
  rw [sectionFields, hget] at h
  cases v with
  | map fields => exact ⟨fields, rfl⟩
  | _ => exact absurd h (not_settled_misuse _)

/-- Filling in one section: it succeeds when its bindings are ready in their turn, and comes to no verdict otherwise. -/
theorem section_passes {σ τ : Type} {step : σ → Value × Value → Except Failure σ} {view : σ → τ}
    {next : τ → Value × Value → τ} {ready : τ → Value × Value → Prop} (start : σ)
    (hstep : ∀ b ∈ sectionBindings data name, Guarded step view next ready b)
    (hfillable : ∀ fields, Fillable name (.map fields) ↔ ReadyInTurn next ready (view start) fields) :
    ((∀ v, data.get? name = some v → Fillable name v) →
      ∃ filled, (sectionFields data name >>= fun fields => fields.foldlM step start) = .ok filled) ∧
    (Settled (sectionFields data name >>= fun fields => fields.foldlM step start) →
      ∀ v, data.get? name = some v → Fillable name v) := by
  constructor
  · intro h
    have hmapping (v : Value) (hget : data.get? name = some v) : ∃ fields, v = .map fields := by
      have hv := h v hget
      cases v with
      | map fields => exact ⟨fields, rfl⟩
      | _ => exact absurd hv id
    rw [sectionFields_of_mapping hmapping, Except.ok_bind]
    refine foldlM_succeeds hstep ?_
    unfold sectionBindings
    cases hget : data.get? name with
    | none => exact fun before b after heq => by cases before <;> cases heq
    | some v =>
      obtain ⟨fields, rfl⟩ := hmapping v hget
      exact (hfillable fields).mp (h _ hget)
  · intro h v hget
    rw [settled_bind] at h
    have hmapping := mapping_of_settled h.1
    have hready := readyInTurn_of_settled hstep (h.2 _ (sectionFields_of_mapping hmapping))
    obtain ⟨fields, rfl⟩ := hmapping v hget
    rw [sectionBindings, hget] at hready
    exact (hfillable fields).mpr hready

end Sections

/-! ### Whole configurations -/

/-- The sections of configuration data that are there can be filled in. -/
def Completable (data : Fields) : Prop :=
  ∀ name ∈ sectionNames, ∀ container, data.get? name = some container → Fillable name container

section Fill

variable {data : Fields}

theorem fill_eq (data : Fields) : fill data = do
    let tools ← sectionFields data "tools" >>= fun fields => fields.foldlM fillTools {}
    let rename ← sectionFields data "rename" >>= fun fields => fields.foldlM fillRename {}
    let bundle ← sectionFields data "bundle" >>= fun fields => fields.foldlM fillBundle {}
    return ⟨tools, rename, bundle⟩ := by
  simp only [fill, bind_assoc]

/-- Accepted data is filled in when it can be, and otherwise filling comes to no verdict. -/
theorem fill_passes (hnamed : NamedSections data) (haccepted : ∀ name ∈ sectionNames, Accepted data name) :
    (Completable data → ∃ c, fill data = .ok c) ∧ (Settled (fill data) → Completable data) := by
  rw [forall_mem_sectionNames] at haccepted
  obtain ⟨accTools, accRename, accBundle⟩ := haccepted
  have hunseen {name : String} (hname : name ≠ "rename") (fields : Fields) : Fillable name (.map fields) ↔
      ReadyInTurn (fun _ _ => ()) (fun _ b => Bindable b) () fields :=
    readyInTurn_unseen.trans ⟨fun h => ⟨h, fun h => absurd h hname⟩, And.left⟩ |>.symm
  have htools : ∀ b ∈ sectionBindings data "tools", Guarded fillTools unseen (fun _ _ => ()) (fun _ b => Bindable b) b :=
    fun b hb => fillTools_guarded fun hkey => accepts_of_mem (s := .symbolSource) hnamed accTools hb hkey
  have hrename : ∀ b ∈ sectionBindings data "rename",
      Guarded fillRename RenameSettings.lineEnding inForce RenameReady b := fun b _ => fillRename_guarded b
  have hbundle : ∀ b ∈ sectionBindings data "bundle",
      Guarded fillBundle unseen (fun _ _ => ()) (fun _ b => Bindable b) b :=
    fun b hb => fillBundle_guarded fun hkey => accepts_of_mem (s := .restorePolicy) hnamed accBundle hb hkey
  obtain ⟨toolsFilled, toolsFillable⟩ := section_passes {} htools (hunseen (by decide))
  obtain ⟨renameFilled, renameFillable⟩ := section_passes {} hrename fun _ => readyInTurn_rename.symm
  obtain ⟨bundleFilled, bundleFillable⟩ := section_passes {} hbundle (hunseen (by decide))
  rw [Completable, forall_mem_sectionNames, fill_eq]
  constructor
  · rintro ⟨hfillTools, hfillRename, hfillBundle⟩
    obtain ⟨tools, htools⟩ := toolsFilled hfillTools
    obtain ⟨rename, hrename⟩ := renameFilled hfillRename
    obtain ⟨bundle, hbundle⟩ := bundleFilled hfillBundle
    exact ⟨⟨tools, rename, bundle⟩, by rw [htools, hrename, hbundle]; rfl⟩
  · intro h
    obtain ⟨htools, h⟩ := settled_bind.mp h
    obtain ⟨tools, hfilled⟩ := toolsFilled (toolsFillable htools)
    obtain ⟨hrename, h⟩ := settled_bind.mp (h tools hfilled)
    obtain ⟨rename, hfilled⟩ := renameFilled (renameFillable hrename)
    obtain ⟨hbundle, _⟩ := settled_bind.mp (h rename hfilled)
    exact ⟨toolsFillable htools, renameFillable hrename, bundleFillable hbundle⟩

theorem settled_fill (hnamed : NamedSections data) (haccepted : ∀ name ∈ sectionNames, Accepted data name) :
    Settled (fill data) ↔ Completable data := by
  refine ⟨(fill_passes hnamed haccepted).2, fun h => ?_⟩
  obtain ⟨c, hc⟩ := (fill_passes hnamed haccepted).1 h
  exact hc ▸ .ok c

end Fill

end Amalgam.Config
