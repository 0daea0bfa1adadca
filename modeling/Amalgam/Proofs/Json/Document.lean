import Amalgam.Json.Reader
import Amalgam.Proofs.Value.Bindings
import Amalgam.Proofs.Value.Result
/-!
# What JSON can say

The values that a JSON text stands for: nothing, truth values, numbers, texts, lists of such values, and mappings whose
keys are distinct texts. Everything that the reader returns is one, because a name that comes again in a mapping is bound
anew in its place.
-/

namespace Amalgam.Json

open Amalgam.Number Amalgam.Text

/-- The values of JSON texts. -/
inductive Document : Value → Prop
  | null : Document .null
  | bool (b : Bool) : Document (.bool b)
  | int (n : Int) : Document (.int n)
  | float (x : Binary64) : Document (.float x)
  | text (s : String) : Document (.text s)
  | list {items : List Value} (hitems : ∀ v ∈ items, Document v) : Document (.list items)
  | map {fields : Fields} (hnamed : fields.Named) (hfields : ∀ b ∈ fields, Document b.2) : Document (.map fields)

namespace Document

variable {items : List Value} {fields : Fields} {v : Value} {name : String}

theorem named (h : Document (.map fields)) : fields.Named := by
  cases h with
  | map hnamed _ => exact hnamed

theorem of_mem {b : Value × Value} (h : Document (.map fields)) (hmem : b ∈ fields) : Document b.2 := by
  cases h with
  | map _ hfields => exact hfields b hmem

theorem of_get? (h : Document (.map fields)) (hget : fields.get? name = some v) : Document v :=
  h.of_mem (Fields.mem_of_get? hget)

theorem empty : Document (.map []) :=
  map .nil (by simp)

theorem put (h : Document (.map fields)) (name : String) (hv : Document v) :
    Document (.map (fields.put (.text name) v)) := by
  refine map (h.named.put name v) fun b hb => ?_
  rcases Fields.mem_put hb with hb | rfl
  · exact h.of_mem hb
  · exact hv

end Document

/-! ### Scalars -/

theorem word?_document {cs rest : List Char} {v : Value} (h : word? cs = some (v, rest)) : Document v := by
  obtain ⟨w, hw, heq⟩ := Option.map_eq_some_iff.mp h
  have hmem : w ∈ words := List.mem_of_find?_eq_some hw
  obtain rfl : w.2 = v := congrArg Prod.fst heq
  simp only [words, List.mem_cons, List.not_mem_nil, or_false] at hmem
  rcases hmem with rfl | rfl | rfl | rfl | rfl | rfl <;> constructor

theorem number_document {cs rest : List Char} {v : Value} (h : number cs = .ok (v, rest)) : Document v := by
  unfold number at h
  dsimp only at h
  split_ifs at h
  all_goals
    obtain rfl := congrArg Prod.fst (Except.ok.inj h)
    constructor

/-! ### Nested values -/

/-- A property that all scalars have which the reader gives, and that lists and mappings have when their parts do. -/
structure Inherited (P : Value → Prop) : Prop where
  word {cs rest : List Char} {v : Value} : word? cs = some (v, rest) → P v
  number {cs rest : List Char} {v : Value} : number cs = .ok (v, rest) → P v
  text (s : String) : P (.text s)
  list {items : List Value} : (∀ v ∈ items, P v) → P (.list items)
  map {fields : Fields} : fields.Named → (∀ b ∈ fields, P b.2) → P (.map fields)

/-- The names are distinct and the values have the property. -/
structure AllNamed (P : Value → Prop) (fields : Fields) : Prop where
  named : fields.Named
  all : ∀ b ∈ fields, P b.2

/-- What the three readers return with some fuel has the property. -/
structure ReadsOnly (P : Value → Prop) (fuel : Nat) : Prop where
  value {depth : Nat} {cs rest : List Char} {v : Value} : Json.value fuel depth cs = .ok (v, rest) → P v
  elements {depth : Nat} {cs rest : List Char} {items : List Value} :
    Json.elements fuel depth cs = .ok (items, rest) → ∀ v ∈ items, P v
  members {depth : Nat} {before fields : Fields} {cs rest : List Char} :
    AllNamed P before → Json.members fuel depth before cs = .ok (fields, rest) → AllNamed P fields

section Reading

variable {P : Value → Prop} {fuel : Nat}

theorem AllNamed.nil : AllNamed P [] :=
  ⟨.nil, by simp⟩

theorem AllNamed.put {fields : Fields} {v : Value} (h : AllNamed P fields) (name : String) (hv : P v) :
    AllNamed P (fields.put (.text name) v) := by
  refine ⟨h.named.put name v, fun b hb => ?_⟩
  rcases Fields.mem_put hb with hb | rfl
  · exact h.all b hb
  · exact hv

theorem ReadsOnly.zero : ReadsOnly P 0 where
  value h := by simp [Json.value] at h
  elements h := by simp [Json.elements] at h
  members _ h := by simp [Json.members] at h

theorem ReadsOnly.succ_value {depth : Nat} {cs rest : List Char} {v : Value} (hP : Inherited P) (ih : ReadsOnly P fuel)
    (h : Json.value (fuel + 1) depth cs = .ok (v, rest)) : P v := by
  unfold Json.value at h
  split at h
  case _ opening =>
    obtain ⟨⟨s, after⟩, _, heq⟩ := Except.bind_eq_ok.mp h
    obtain ⟨rfl, _⟩ := Prod.mk.inj (Except.pure_eq_ok.mp heq)
    exact hP.text s
  case _ inside =>
    split_ifs at h
    split at h
    · obtain ⟨rfl, _⟩ := Prod.mk.inj (Except.ok.inj h)
      exact hP.map .nil (by simp)
    · obtain ⟨⟨fields, after⟩, hfields, heq⟩ := Except.bind_eq_ok.mp h
      obtain ⟨rfl, _⟩ := Prod.mk.inj (Except.pure_eq_ok.mp heq)
      obtain ⟨hnamed, hall⟩ := ih.members .nil hfields
      exact hP.map hnamed hall
  case _ inside =>
    split_ifs at h
    split at h
    · obtain ⟨rfl, _⟩ := Prod.mk.inj (Except.ok.inj h)
      exact hP.list (by simp)
    · obtain ⟨⟨items, after⟩, hitems, heq⟩ := Except.bind_eq_ok.mp h
      obtain ⟨rfl, _⟩ := Prod.mk.inj (Except.pure_eq_ok.mp heq)
      exact hP.list (ih.elements hitems)
  case _ =>
    split at h
    · next found hword =>
      obtain rfl := Except.ok.inj h
      exact hP.word hword
    · exact hP.number h

theorem ReadsOnly.succ_elements {depth : Nat} {cs rest : List Char} {items : List Value} (ih : ReadsOnly P fuel)
    (h : Json.elements (fuel + 1) depth cs = .ok (items, rest)) : ∀ v ∈ items, P v := by
  unfold Json.elements at h
  obtain ⟨⟨v, after⟩, hv, h⟩ := Except.bind_eq_ok.mp h
  dsimp only at h
  split at h
  · obtain ⟨rfl, _⟩ := Prod.mk.inj (Except.pure_eq_ok.mp h)
    simpa using ih.value hv
  · obtain ⟨⟨more, last⟩, hmore, heq⟩ := Except.bind_eq_ok.mp h
    obtain ⟨rfl, _⟩ := Prod.mk.inj (Except.pure_eq_ok.mp heq)
    exact List.forall_mem_cons.mpr ⟨ih.value hv, ih.elements hmore⟩
  · exact absurd h Except.throw_ne_ok

theorem ReadsOnly.succ_members {depth : Nat} {before fields : Fields} {cs rest : List Char} (ih : ReadsOnly P fuel)
    (hbefore : AllNamed P before) (h : Json.members (fuel + 1) depth before cs = .ok (fields, rest)) :
    AllNamed P fields := by
  unfold Json.members at h
  split at h
  · obtain ⟨⟨name, after⟩, _, h⟩ := Except.bind_eq_ok.mp h
    dsimp only at h
    split at h
    · obtain ⟨⟨v, after'⟩, hv, h⟩ := Except.bind_eq_ok.mp h
      have hput := hbefore.put name (ih.value hv)
      dsimp only at h
      split at h
      · obtain ⟨rfl, _⟩ := Prod.mk.inj (Except.pure_eq_ok.mp h)
        exact hput
      · exact ih.members hput h
      · exact absurd h Except.throw_ne_ok
    · exact absurd h Except.throw_ne_ok
  · cases h

theorem Inherited.readsOnly (hP : Inherited P) (fuel : Nat) : ReadsOnly P fuel := by
  induction fuel with
  | zero => exact .zero
  | succ fuel ih => exact ⟨ih.succ_value hP, ih.succ_elements, ih.succ_members⟩

theorem Inherited.of_parse (hP : Inherited P) {s : String} {v : Value} (h : parse s = .ok v) : P v := by
  unfold parse at h
  dsimp only at h
  split at h
  · cases h
  · obtain ⟨⟨read, rest⟩, hread, h⟩ := Except.bind_eq_ok.mp h
    dsimp only at h
    split at h
    · obtain rfl := Except.pure_eq_ok.mp h
      exact (hP.readsOnly _).value hread
    · exact absurd h Except.throw_ne_ok

end Reading

theorem inherited_document : Inherited Document where
  word := word?_document
  number := number_document
  text := .text
  list := .list
  map := .map

end Amalgam.Json
