import Amalgam.CommandLine.Run
import Amalgam.Proofs.Value.Result
/-!
# Commands with arguments of their own

A grammar whose only positional is the name of a command takes that name and everything behind it, so the arguments are
read again by the grammar of the command. Each grammar on the way classes all of them, and can refuse one that the next
grammar would take. An argument that is plain for a grammar is plain for every other one that has no further options.
-/

namespace Amalgam.CommandLine

open Amalgam.Text

/-! ### Results that can be refused -/

/-- The result has a property, unless reading ends in a way that is told by the exit status. -/
def Settles {α : Type} (x : Except Stop α) (prop : α → Prop) : Prop :=
  match x with
  | .ok a => prop a
  | .error stop => stop.ending.status ≠ 0

namespace Settles

variable {α β : Type} {x : Except Stop α} {prop : α → Prop}

theorem bind {f : α → Except Stop β} {prop' : β → Prop} (hx : Settles x prop)
    (hf : ∀ a, prop a → Settles (f a) prop') : Settles (x >>= f) prop' := by
  cases x with
  | error stop => exact hx
  | ok a => exact hf a hx

theorem refused {σ : Type} (g : Grammar σ) (complaint : Complaint) :
    Settles (.error (g.refuse complaint) : Except Stop α) prop :=
  Nat.succ_ne_zero 1

end Settles

theorem Settles.of_status {arguments : List String} {prop : Invocation → Prop} {setup : Setup} {w : World}
    (h : Settles (Invocation.ofArguments arguments) prop) (hzero : (run setup arguments w).1.status = 0) :
    ∃ i, Invocation.ofArguments arguments = .ok i ∧ prop i := by
  rw [run] at hzero
  cases hread : Invocation.ofArguments arguments with
  | error stop =>
    rw [hread] at h hzero
    exact absurd hzero h
  | ok i =>
    rw [hread] at h
    exact ⟨i, rfl, h⟩

/-! ### Arguments with their classes -/

section Tokens

variable {σ : Type} {g : Grammar σ} {arguments : List String} {tokens : List (Token σ)} {start : σ}

/-- An argument with its class. -/
def Grammar.token (g : Grammar σ) (s : String) : Except Stop (Token σ) :=
  ((classify g s).map fun c => ⟨s, c⟩).mapError g.refuse

theorem token_eq_ok {s : String} {t : Token σ} : g.token s = .ok t ↔ ∃ c, classify g s = .ok c ∧ t = ⟨s, c⟩ := by
  unfold Grammar.token
  cases classify g s <;> simp [Except.map, Except.mapError, eq_comm]

theorem texts_of_tokens (h : arguments.mapM g.token = .ok tokens) : tokens.map Token.text = arguments := by
  induction arguments generalizing tokens with
  | nil =>
    obtain rfl := Except.pure_eq_ok.mp h
    rfl
  | cons s arguments ih =>
    obtain ⟨t, rest, ht, hrest, rfl⟩ := Except.mapM_cons_eq_ok.mp h
    obtain ⟨c, _, rfl⟩ := token_eq_ok.mp ht
    rw [List.map_cons, ih hrest]

theorem tokens_returns (h : ∀ s ∈ arguments, ∃ c, classify g s = .ok c) :
    ∃ tokens, arguments.mapM g.token = .ok tokens := by
  refine Except.mapM_returns_iff.mpr fun s hs => ?_
  obtain ⟨c, hc⟩ := h s hs
  exact ⟨_, token_eq_ok.mpr ⟨c, hc, rfl⟩⟩

/-- Classing fails only for an argument that is refused. -/
theorem tokens_settle (g : Grammar σ) (arguments : List String) :
    Settles (arguments.mapM g.token) fun _ => ∀ s ∈ arguments, ∃ c, classify g s = .ok c := by
  induction arguments with
  | nil => exact fun s hs => absurd hs List.not_mem_nil
  | cons s arguments ih =>
    rw [List.mapM_cons]
    have hhead : Settles (g.token s) fun _ => ∃ c, classify g s = .ok c := by
      unfold Grammar.token
      cases classify g s with
      | error complaint => exact .refused g complaint
      | ok c => exact ⟨c, rfl⟩
    exact hhead.bind fun _ hs => ih.bind fun _ hrest => List.forall_mem_cons.mpr ⟨hs, hrest⟩

/-- An option that wants a value takes the argument behind it if that is plain. -/
theorem walk_value {spec : OptionSpec σ} {choices : List String} {store : String → σ → σ}
    (hspec : spec.effect = .value choices store) (text name : String) (value : Token σ) (rest : List (Token σ))
    (p : Progress σ) :
    walk g (⟨text, .option spec name none⟩ :: value :: rest) p =
      if value.isPlain then
        applyOption g p.state (spec, some value.text) >>= fun state => walk g rest { p with state := state }
      else .error (g.refuse (.expectedOne spec.title)) := by
  rw [walk]
  cases hplain : value.isPlain with
  | false =>
    simp only [readOption, pure_bind, hspec, hplain]
    rfl
  | true =>
    have hread : readOption g spec name none (value :: rest) =
        .ok ({ taken := [(spec, some value.text)], wanting := some spec }, 1) := by
      simp only [readOption, pure_bind, hspec, hplain]
      rfl
    simp only [hread, List.foldlM_cons, List.foldlM_nil, List.drop_succ_cons, List.drop_zero, bind_pure]
    cases applyOption g p.state (spec, some value.text) <;> rfl

theorem walk_nil (g : Grammar σ) (state : σ) (extras : List String) :
    walk g [] { state := state, left := [], extras := extras } =
      .ok { state := state, left := [], extras := extras } := by
  rw [walk]
  rfl

/-- What has been read, unless an argument is still required. -/
def Grammar.finished (g : Grammar σ) (p : Progress σ) : Except Stop (σ × List String) :=
  match (p.left.filter fun q => q.arity = .one).map Positional.name with
  | [] => .ok (p.state, p.extras)
  | missing => .error (g.refuse (.required missing))

theorem read_eq (g : Grammar σ) (start : σ) (arguments : List String) :
    g.read start arguments = (arguments.mapM g.token >>= fun tokens =>
      walk g tokens { state := start, left := g.positionals } >>= g.finished) := rfl

theorem read_of_walk {p : Progress σ} (htokens : arguments.mapM g.token = .ok tokens)
    (hwalk : walk g tokens { state := start, left := g.positionals } = .ok p) (hleft : p.left = []) :
    g.read start arguments = .ok (p.state, p.extras) := by
  rw [read_eq, htokens, Except.ok_bind, hwalk, Except.ok_bind, Grammar.finished, hleft]
  rfl

end Tokens

/-! ### The name of a command and everything behind it -/

section Command

variable {σ : Type} {g : Grammar σ} {p : Positional σ} {first : String} {rest : List String} {start : σ}

theorem longestShares_command (plain : List Bool) :
    longestShares [.command] (true :: plain) = [plain.length + 1] := by
  have hcounts : Arity.counts .command (true :: plain) = (List.range' 1 (plain.length + 1)).reverse := by
    simp [Arity.counts]
  rw [List.range'_1_concat, List.reverse_concat] at hcounts
  have hshares : shares [.command] (true :: plain) = some [1 + plain.length] := by
    rw [shares, hcounts]
    rfl
  simp [longestShares, List.range_succ, hshares, Nat.add_comm]

/-- The grammar takes the name of a command and then everything. -/
structure TakesCommand (g : Grammar σ) (p : Positional σ) (name : String) : Prop where
  only : g.positionals = [p]
  arity : p.arity = .command
  known : p.choices.contains name = true
  plain : classify g name = .ok .plain

theorem TakesCommand.place (h : TakesCommand g p first) {tokens : List (Token σ)}
    (htexts : tokens.map Token.text = rest) :
    place g (⟨first, .plain⟩ :: tokens) { state := start, left := [p] } =
      .ok ({ state := p.store (first :: rest) start, left := [] }, tokens.length + 1) := by
  have hcounts : longestShares ([p].map Positional.arity) ((⟨first, .plain⟩ :: tokens).map Token.isPlain) =
      [tokens.length + 1] := by
    rw [List.map_singleton, h.arity, List.map_cons]
    exact (longestShares_command _).trans (by rw [List.length_map])
  have htaken : ((⟨first, .plain⟩ :: tokens).take (tokens.length + 1)).map Token.text = first :: rest := by
    rw [List.take_succ_cons, List.take_length, List.map_cons, htexts]
  unfold CommandLine.place
  rw [hcounts]
  simp only [List.zip_cons_cons, List.zip_nil_right, hand, htaken, List.head?_cons, h.known, Bool.or_true, if_true]
  rfl

theorem TakesCommand.read (h : TakesCommand g p first) (hrest : ∀ s ∈ rest, ∃ c, classify g s = .ok c) :
    g.read start (first :: rest) = .ok (p.store (first :: rest) start, []) := by
  obtain ⟨tokens, htokens⟩ := tokens_returns hrest
  have hall : (first :: rest).mapM g.token = .ok (⟨first, .plain⟩ :: tokens) :=
    Except.mapM_cons_eq_ok.mpr ⟨_, _, token_eq_ok.mpr ⟨_, h.plain, rfl⟩, htokens, rfl⟩
  have hwalk : walk g (⟨first, .plain⟩ :: tokens) { state := start, left := g.positionals } =
      .ok { state := p.store (first :: rest) start, left := [] } := by
    rw [h.only, walk, h.place (texts_of_tokens htokens)]
    simp only [List.drop_length]
    exact walk_nil g _ []
  exact read_of_walk hall hwalk rfl

theorem TakesCommand.settles (h : TakesCommand g p first) (start : σ) (rest : List String) :
    Settles (g.read start (first :: rest)) fun r =>
      r = (p.store (first :: rest) start, []) ∧ ∀ s ∈ rest, ∃ c, classify g s = .ok c := by
  by_cases hrest : ∀ s ∈ rest, ∃ c, classify g s = .ok c
  · rw [h.read hrest]
    exact ⟨rfl, hrest⟩
  · rw [read_eq]
    exact (tokens_settle g (first :: rest)).bind fun tokens hall => absurd (List.forall_mem_cons.mp hall).2 hrest

end Command

/-! ### Plain arguments -/

section Plain

variable {σ τ : Type} {g : Grammar σ} {g' : Grammar τ} {s : String}

/-- The first grammar knows every option that the second one knows, and takes it abbreviated if that one does. -/
structure Covers (g : Grammar σ) (g' : Grammar τ) : Prop where
  names : g'.optionNames ⊆ g.optionNames
  abbreviates : g'.abbreviates = true → g.abbreviates = true

theorem option?_isSome : (g.option? s).isSome = true ↔ s ∈ g.optionNames := by
  simp [Grammar.option?, Grammar.optionNames]

theorem classOfName_ne_plain {attached : Option (List Char)} : classOfName g s attached ≠ .plain := by
  unfold classOfName
  split <;> simp

theorem Covers.candidates (h : Covers g g') (hnone : candidates g s = []) : CommandLine.candidates g' s = [] := by
  unfold CommandLine.candidates at hnone ⊢
  split
  · next heq =>
    simp only [heq] at hnone ⊢
    split_ifs with habbreviates
    · rw [if_pos (h.abbreviates habbreviates)] at hnone
      simp only [List.map_eq_nil_iff, List.filter_eq_nil_iff] at hnone ⊢
      exact fun n hn => hnone n (h.names hn)
    · rfl
  · next heq =>
    simp only [heq, List.filterMap_eq_nil_iff] at hnone ⊢
    exact fun n hn => hnone n (h.names hn)
  · rfl

theorem classOfCandidates_plain : classOfCandidates g s = .ok .plain ↔
    candidates g s = [] ∧ (isNegativeNumber s || s.toList.contains ' ') = true := by
  unfold classOfCandidates
  split
  · next heq => simp [heq, classOfName_ne_plain]
  · next heq => cases isNegativeNumber s || s.toList.contains ' ' <;> simp [heq]
  · next _ hnone => exact ⟨fun h => (by cases h), fun h => absurd h.1 hnone⟩

/-- No option, and nothing that looks like one: it has no minus sign, or is one alone, or is a number or has a blank. -/
theorem classify_plain : classify g s = .ok .plain ↔ s.toList.head? ≠ some '-' ∨ s ∉ g.optionNames ∧
    (s.toList.length = 1 ∨ (∀ parts ∈ splitFirst '=' s.toList, String.ofList parts.1 ∉ g.optionNames) ∧
      candidates g s = [] ∧ (isNegativeNumber s || s.toList.contains ' ') = true) := by
  simp only [← option?_isSome (g := g), ← classOfCandidates_plain]
  unfold classify
  by_cases hdash : s.toList.head? = some '-'
  · simp only [hdash, bne_self_eq_false, Bool.false_eq_true, if_false, ne_eq, not_true_eq_false, false_or]
    by_cases hname : (g.option? s).isSome = true
    · simp [hname, classOfName_ne_plain]
    · by_cases hlone : s.toList.length = 1
      · simp [hname, hlone]
      · rw [if_neg hname, if_neg hlone]
        cases splitFirst '=' s.toList with
        | none => simp [hname, hlone]
        | some parts =>
          simp only [hname, hlone, Option.mem_some_iff, forall_eq', Bool.false_eq_true, not_false_eq_true, true_and,
            false_or]
          by_cases hbefore : (g.option? (String.ofList parts.1)).isSome = true
          · simp only [hbefore, if_true, Except.ok.injEq, classOfName_ne_plain, not_true_eq_false, false_and]
          · simp only [hbefore, Bool.false_eq_true, if_false, not_false_eq_true, true_and]
  · simp [hdash]

/-- An argument that is plain for a grammar is plain for one that it covers. -/
theorem Covers.plain (h : Covers g g') (hplain : classify g s = .ok .plain) : classify g' s = .ok .plain := by
  rw [classify_plain] at hplain ⊢
  refine hplain.imp_right fun ⟨hname, hshape⟩ => ⟨fun hs => hname (h.names hs), hshape.imp_right ?_⟩
  rintro ⟨hbefore, hnone, hmarks⟩
  exact ⟨fun parts hparts hs => hbefore parts hparts (h.names hs), h.candidates hnone, hmarks⟩

end Plain
end Amalgam.CommandLine
