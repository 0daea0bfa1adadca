import Amalgam.Value
import Mathlib.Data.List.Nodup
import Mathlib.Tactic.Common
/-!
# Bindings by name

A text is the same key as itself only, so a mapping can be asked by name whatever its other keys are. Binding a name
changes what that name is bound to and nothing else. In a mapping whose keys are distinct texts the bindings are just
what the names are bound to.
-/

namespace Amalgam

namespace Value

theorem sameKey_text {key : Value} {name : String} : key.sameKey (.text name) = true ↔ key = .text name := by
  cases key <;> simp [sameKey, quantity?]

theorem text_sameKey {key : Value} {name : String} : (text name).sameKey key = true ↔ key = .text name := by
  cases key <;> simp [sameKey, quantity?, eq_comm]

end Value

namespace Fields

variable {fields rest : Fields} {key v : Value} {name : String}

/-! ### Binding any key -/

theorem find?_cons (k v : Value) (rest : Fields) (key : Value) :
    find? ((k, v) :: rest) key = if k.sameKey key then some v else find? rest key := by
  simp only [find?, List.find?_cons]
  cases k.sameKey key <;> rfl

theorem find?_append (fields rest : Fields) (key : Value) :
    find? (fields ++ rest) key = (find? fields key).or (find? rest key) := by
  simp only [find?, List.find?_append, Option.map_or]

theorem find?_eq_none_iff : find? fields key = none ↔ ∀ b ∈ fields, b.1.sameKey key = false := by
  simp [find?]

theorem exists_of_find? (h : find? fields key = some v) : ∃ k, (k, v) ∈ fields ∧ k.sameKey key = true := by
  obtain ⟨⟨k, w⟩, hfound, rfl⟩ := Option.map_eq_some_iff.mp h
  exact ⟨k, List.mem_of_find?_eq_some hfound, by simpa using List.find?_some hfound⟩

theorem put_of_find?_eq_none (h : find? fields key = none) (v : Value) : put fields key v = fields ++ [(key, v)] := by
  induction fields with
  | nil => rfl
  | cons b fields ih =>
    rw [find?_cons] at h
    split_ifs at h with hsame
    rw [put, if_neg hsame, ih h, List.cons_append]

theorem put_of_find?_eq_some (h : find? fields key = some v) : put fields key v = fields := by
  induction fields with
  | nil => cases h
  | cons b fields ih =>
    rw [find?_cons] at h
    rw [put]
    split_ifs at h ⊢ with hsame
    · rw [← Option.some.inj h]
    · rw [ih h]

/-- A key that is bound keeps its place and its spelling, and any other comes at the end. -/
theorem keys_put (fields : Fields) (key v : Value) :
    (put fields key v).map Prod.fst =
      fields.map Prod.fst ++ if (find? fields key).isNone then [key] else [] := by
  induction fields with
  | nil => rfl
  | cons b fields ih =>
    rw [put, find?_cons]
    split_ifs with hsame hnone hnone <;> simp_all

/-! ### Asking for a name -/

@[simp] theorem get?_nil (name : String) : get? [] name = none := rfl

theorem get?_cons (key v : Value) (rest : Fields) (name : String) :
    get? ((key, v) :: rest) name = if key.sameKey (.text name) then some v else get? rest name := by
  simp only [get?, find?, List.find?_cons]
  cases key.sameKey (.text name) <;> rfl

theorem get?_cons_self (name : String) (v : Value) (rest : Fields) : get? ((.text name, v) :: rest) name = some v := by
  rw [get?_cons, if_pos (Value.sameKey_text.mpr rfl)]

theorem get?_cons_other (h : key ≠ .text name) (v : Value) (rest : Fields) :
    get? ((key, v) :: rest) name = get? rest name := by
  rw [get?_cons, if_neg fun hsame => h (Value.sameKey_text.mp hsame)]

theorem mem_of_get? (h : get? fields name = some v) : (.text name, v) ∈ fields := by
  induction fields with
  | nil => cases h
  | cons b fields ih =>
    rw [get?_cons] at h
    split_ifs at h with hsame
    · obtain rfl := Option.some.inj h
      rw [← Value.sameKey_text.mp hsame]
      exact List.mem_cons_self
    · exact List.mem_cons_of_mem _ (ih h)

theorem get?_eq_none_iff : get? fields name = none ↔ Value.text name ∉ fields.map Prod.fst := by
  induction fields with
  | nil => simp
  | cons b fields ih =>
    by_cases hkey : b.1 = .text name
    · obtain ⟨key, v⟩ := b
      obtain rfl : key = .text name := hkey
      simp [get?_cons_self]
    · have hne : Value.text name ≠ b.1 := fun h => hkey h.symm
      rw [get?_cons_other hkey, ih, List.map_cons, List.mem_cons, not_or]
      exact ⟨fun h => ⟨hne, h⟩, And.right⟩

/-! ### Binding a name -/

theorem get?_put_self (fields : Fields) (name : String) (v : Value) : get? (put fields (.text name) v) name = some v := by
  induction fields with
  | nil => exact get?_cons_self _ _ _
  | cons b fields ih =>
    rw [put]
    split_ifs with hsame
    · rw [Value.sameKey_text.mp hsame, get?_cons_self]
    · rw [get?_cons_other fun hkey => hsame (Value.sameKey_text.mpr hkey), ih]

theorem get?_put_other (h : key ≠ .text name) (fields : Fields) (v : Value) :
    get? (put fields key v) name = get? fields name := by
  induction fields with
  | nil => exact get?_cons_other h _ _
  | cons b fields ih =>
    rw [put]
    split_ifs with hsame
    · have hkey : b.1 ≠ .text name := by
        intro hkey
        rw [hkey, Value.text_sameKey] at hsame
        exact h hsame
      rw [get?_cons_other hkey, get?_cons_other hkey]
    · rw [get?_cons, get?_cons, ih]

theorem put_eq_append (h : get? fields name = none) (v : Value) :
    put fields (.text name) v = fields ++ [(.text name, v)] :=
  put_of_find?_eq_none h v

theorem put_self (h : get? fields name = some v) : put fields (.text name) v = fields :=
  put_of_find?_eq_some h

theorem map_fst_put {old : Value} (h : get? fields name = some old) (v : Value) :
    (put fields (.text name) v).map Prod.fst = fields.map Prod.fst := by
  have hfind : find? fields (.text name) = some old := h
  simp [keys_put, hfind]

/-! ### Mappings with named bindings -/

/-- The keys are distinct texts. -/
structure Named (fields : Fields) : Prop where
  texts : ∀ b ∈ fields, ∃ name, b.1 = .text name
  nodup : (fields.map Prod.fst).Nodup

theorem Named.nil : Named [] := ⟨by simp, List.nodup_nil⟩

theorem Named.tail {b : Value × Value} (h : Named (b :: rest)) : Named rest :=
  ⟨fun c hc => h.texts c (List.mem_cons_of_mem _ hc), (List.nodup_cons.mp h.nodup).2⟩

/-- The first name is not bound again. -/
theorem Named.get?_tail (h : Named ((.text name, v) :: rest)) : get? rest name = none :=
  get?_eq_none_iff.mpr (List.nodup_cons.mp h.nodup).1

theorem Named.distinct (h : Named fields) :
    (fields.map Prod.fst).Pairwise fun key key' => key.sameKey key' = false := by
  refine h.nodup.imp_of_mem fun {key key'} hkey _ hne => ?_
  obtain ⟨b, hb, rfl⟩ := List.mem_map.mp hkey
  obtain ⟨name, hname⟩ := h.texts b hb
  rw [hname] at hne ⊢
  rw [← Bool.not_eq_true, Value.text_sameKey]
  exact Ne.symm hne

theorem Named.get?_eq (h : Named fields) (hmem : (.text name, v) ∈ fields) : get? fields name = some v := by
  induction fields with
  | nil => cases hmem
  | cons b rest ih =>
    rcases List.mem_cons.mp hmem with rfl | hmem
    · exact get?_cons_self _ _ _
    · have hne : b.1 ≠ .text name := by
        intro hkey
        apply (List.nodup_cons.mp h.nodup).1
        rw [hkey]
        exact List.mem_map_of_mem hmem
      rw [get?_cons_other hne, ih h.tail hmem]

theorem mem_put {b : Value × Value} (h : b ∈ put fields (.text name) v) : b ∈ fields ∨ b = (.text name, v) := by
  induction fields with
  | nil => exact Or.inr (List.mem_singleton.mp h)
  | cons c fields ih =>
    rw [put] at h
    split_ifs at h with hsame
    · rw [Value.sameKey_text.mp hsame] at h
      rcases List.mem_cons.mp h with rfl | h
      · exact Or.inr rfl
      · exact Or.inl (List.mem_cons_of_mem _ h)
    · rcases List.mem_cons.mp h with rfl | h
      · exact Or.inl List.mem_cons_self
      · exact (ih h).imp (List.mem_cons_of_mem _) id

theorem Named.put (h : Named fields) (name : String) (v : Value) : Named (put fields (.text name) v) := by
  refine ⟨fun b hb => ?_, ?_⟩
  · rcases mem_put hb with hb | rfl
    · exact h.texts b hb
    · exact ⟨name, rfl⟩
  · cases hold : get? fields name with
    | some old => exact map_fst_put hold v ▸ h.nodup
    | none =>
      rw [put_eq_append hold, List.map_append]
      refine List.nodup_append.mpr ⟨h.nodup, by simp, ?_⟩
      rintro key hkey _ hlast rfl
      obtain rfl : key = .text name := List.mem_singleton.mp hlast
      exact get?_eq_none_iff.mp hold hkey

theorem Named.get?_eq_some_iff (h : Named fields) : get? fields name = some v ↔ (.text name, v) ∈ fields :=
  ⟨mem_of_get?, h.get?_eq⟩

/-! ### Bindings by a table -/

variable {ι : Type} {keyOf : ι → String} {value : ι → Option Value} {items : List ι} {i : ι}

/-- The bindings of the items that have a value, each under its own name. -/
def ofItems (keyOf : ι → String) (value : ι → Option Value) (items : List ι) : Fields :=
  items.filterMap fun i => (value i).map fun v => (.text (keyOf i), v)

theorem mem_ofItems {b : Value × Value} :
    b ∈ ofItems keyOf value items ↔ ∃ i ∈ items, value i = some b.2 ∧ b.1 = .text (keyOf i) := by
  obtain ⟨key, v⟩ := b
  simp only [ofItems, List.mem_filterMap, Option.map_eq_some_iff, Prod.mk.injEq]
  constructor
  · rintro ⟨i, hi, _, hvalue, rfl, rfl⟩
    exact ⟨i, hi, hvalue, rfl⟩
  · rintro ⟨i, hi, hvalue, rfl⟩
    exact ⟨i, hi, v, hvalue, rfl, rfl⟩

theorem Named.ofItems (hkey : keyOf.Injective) (hitems : items.Nodup) : Named (ofItems keyOf value items) := by
  refine ⟨fun b hb => ?_, ?_⟩
  · obtain ⟨i, _, _, hi⟩ := mem_ofItems.mp hb
    exact ⟨_, hi⟩
  · rw [Fields.ofItems, List.map_filterMap]
    refine List.Nodup.filterMap (fun i j name hi hj => hkey ?_) hitems
    simp only [Option.map_map, Option.mem_def, Option.map_eq_some_iff, Function.comp_apply] at hi hj
    obtain ⟨_, _, rfl⟩ := hi
    obtain ⟨_, _, heq⟩ := hj
    exact Value.text.inj heq.symm

theorem get?_ofItems (hkey : keyOf.Injective) (hitems : items.Nodup) (hi : i ∈ items) :
    get? (ofItems keyOf value items) (keyOf i) = value i := by
  ext v
  rw [(Named.ofItems hkey hitems).get?_eq_some_iff, mem_ofItems]
  constructor
  · rintro ⟨j, _, hvalue, hj⟩
    rwa [hkey (Value.text.inj hj)]
  · exact fun hvalue => ⟨i, hi, hvalue, rfl⟩

end Fields

end Amalgam
