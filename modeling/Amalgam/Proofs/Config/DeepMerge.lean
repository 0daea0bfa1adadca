import Amalgam.Proofs.Config.Layers
import Amalgam.Proofs.Json.Document
import Amalgam.Proofs.Value.Keys

/-!
# Merging at every depth

What a merged configuration has at a path of keys is told by what the two configurations have there. The merge of two
mappings is told key by key: a key of the later one is bound to its value laid over the earlier one, and any other key to
what it was. Following a path, this is used once per key, and in the end the values at the path are laid one over the
other. What hides the earlier value is a value of the later configuration on the way that is no mapping.
-/

namespace Amalgam

/-! ### Paths of keys -/

/-- What a value has at a path: itself at the end, and on the way what its mappings bind the keys to. -/
def Value.at? : Value → List Value → Option Value
  | v, [] => some v
  | .map fields, key :: path => (Fields.find? fields key).bind fun v => v.at? path
  | _, _ :: _ => none

namespace Fields

/-- What a mapping has at a path. -/
def at? (fields : Fields) (path : List Value) : Option Value :=
  (Value.map fields).at? path

/-- The mapping has a property, and so have the mappings it binds keys to, at any depth. -/
inductive Throughout (P : Fields → Prop) : Fields → Prop
  | intro {fields : Fields} (here : P fields) (inner : ∀ key f, (key, Value.map f) ∈ fields → Throughout P f) :
      Throughout P fields

/-- Every key is the same as itself. -/
def Findable (fields : Fields) : Prop :=
  ∀ key ∈ fields.map Prod.fst, key.sameKey key = true

theorem Named.findable {fields : Fields} (h : Named fields) : Findable fields := by
  intro key hkey
  obtain ⟨b, hb, rfl⟩ := List.mem_map.mp hkey
  obtain ⟨name, hname⟩ := h.texts b hb
  rw [hname]
  exact Value.text_sameKey.mpr rfl

section

variable {P : Fields → Prop} {fields f : Fields} {key : Value} {path : List Value}

theorem Throughout.here (h : Throughout P fields) : P fields := by
  cases h with
  | intro here _ => exact here

theorem Throughout.inner (h : Throughout P fields) (hmem : (key, .map f) ∈ fields) : Throughout P f := by
  cases h with
  | intro _ inner => exact inner key f hmem

theorem Throughout.of_find? (h : Throughout P fields) (hfind : find? fields key = some (.map f)) : Throughout P f := by
  obtain ⟨k, hmem, -⟩ := exists_of_find? hfind
  exact h.inner hmem

theorem at?_cons (fields : Fields) (key : Value) (path : List Value) :
    at? fields (key :: path) = (fields.find? key).bind fun v => v.at? path := rfl

theorem Throughout.of_at? (path : List Value) : ∀ {fields : Fields}, Throughout P fields →
    at? fields path = some (.map f) → Throughout P f := by
  induction path with
  | nil =>
    intro fields h hat
    obtain rfl : fields = f := by simpa [at?, Value.at?] using hat
    exact h
  | cons key path ih =>
    intro fields h hat
    rw [at?_cons] at hat
    obtain ⟨v, hfind, hat⟩ := Option.bind_eq_some_iff.mp hat
    cases v with
    | map inner => exact ih (h.of_find? hfind) hat
    | _ => cases path <;> cases hat

end

end Fields

namespace Config

open Fields

variable {earlier later fields a b : Fields} {key v : Value} {path : List Value}

/-! ### Key by key -/

theorem find?_mergeInto (hearlier : earlier.Keyed) (hlater : later.Keyed) (hkey : key.Canonical) :
    (mergeInto earlier later).find? key =
      match later.find? key with
      | some v => some (overlay (earlier.find? key) v)
      | none => earlier.find? key := by
  induction later generalizing earlier with
  | nil => rw [mergeInto]; rfl
  | cons binding rest ih =>
    obtain ⟨k, v⟩ := binding
    have hk : k.Canonical := hlater.head
    rw [mergeInto, ih (hearlier.put hk _) hlater.tail, find?_cons, hearlier.find?_put hk hkey]
    by_cases hsame : k.sameKey key = true
    · rw [if_pos hsame, if_pos hsame, hlater.find?_tail hkey hsame, hearlier.find?_congr hk hkey hsame]
    · rw [if_neg hsame, if_neg hsame]

theorem keyed_mergeInto (hearlier : earlier.Keyed) (hlater : later.Keyed) : (mergeInto earlier later).Keyed := by
  induction later generalizing earlier with
  | nil => rwa [Config.mergeInto]
  | cons binding rest ih =>
    rw [Config.mergeInto]
    exact ih (hearlier.put hlater.head _) hlater.tail

/-- Keys keep the place where they were first seen. -/
theorem keys_mergeInto (hearlier : earlier.Keyed) (hlater : later.Keyed) :
    (mergeInto earlier later).map Prod.fst =
      earlier.map Prod.fst ++ (later.map Prod.fst).filter fun key => (earlier.find? key).isNone := by
  induction later generalizing earlier with
  | nil => rw [mergeInto]; simp
  | cons binding rest ih =>
    obtain ⟨k, v⟩ := binding
    have hk : k.Canonical := hlater.head
    have hrest : ∀ key ∈ rest.map Prod.fst,
        (find? (put earlier k (overlay (earlier.find? k) v)) key).isNone = (earlier.find? key).isNone := by
      intro key hkey
      obtain ⟨c, hc, rfl⟩ := List.mem_map.mp hkey
      have hother : k.sameKey c.1 = false := hlater.head_sameKey c hc
      rw [hearlier.find?_put hk (hlater.tail.canonical _ hkey), hother, if_neg Bool.false_ne_true]
    rw [mergeInto, ih (hearlier.put hk _) hlater.tail, List.filter_congr hrest, keys_put, List.map_cons,
      List.filter_cons, List.append_assoc]
    split <;> rfl

theorem mergeInto_empty (h : fields.Keyed) : mergeInto [] fields = fields :=
  mergeInto_eq_append h.distinct fun _ _ => rfl

theorem merge_pair (h : a.Keyed) (b : Fields) : merge [a, b] = mergeInto a b := by
  rw [merge, List.foldl_cons, List.foldl_cons, List.foldl_nil, mergeInto_empty h]

/-- A mapping laid over itself: every key is found, and its value is laid over itself. -/
theorem mergeInto_self (h : fields.Throughout Keyed) (hself : fields.Throughout Findable) :
    mergeInto fields fields = fields := by
  induction h with
  | @intro fields here _ ih =>
    have hoverlay : ∀ key v, (key, v) ∈ fields → overlay (some v) v = v := by
      intro key v hmem
      cases v with
      | map f => rw [overlay, ih key f hmem (hself.inner hmem)]
      | _ => exact overlay_of_ne_map (by simp) _
    have hsuffix : ∀ rest : Fields, (∀ b ∈ rest, b ∈ fields) → mergeInto fields rest = fields := by
      intro rest hrest
      induction rest with
      | nil => rw [mergeInto]
      | cons b rest ihrest =>
        obtain ⟨key, v⟩ := b
        obtain ⟨hmem, hrest⟩ := List.forall_mem_cons.mp hrest
        have hfind : fields.find? key = some v :=
          here.find?_eq_some hmem (hself.here key (List.mem_map_of_mem hmem))
        rw [mergeInto, hfind, hoverlay key v hmem, put_of_find?_eq_some hfind, ihrest hrest]
    exact hsuffix fields fun _ hb => hb

/-! ### Along a path -/

theorem at?_step (u : Option Value) (key : Value) (path : List Value) :
    (u.bind fun v => v.at? (key :: path)) = ((bindingsOf u).find? key).bind fun v => v.at? path := by
  cases u with
  | none => rfl
  | some v => cases v <;> rfl

theorem at?_append (path more : List Value) : ∀ v : Value, v.at? (path ++ more) = (v.at? path).bind fun v => v.at? more := by
  induction path with
  | nil => exact fun _ => rfl
  | cons key path ih =>
    intro v
    have hstep := at?_step (some v) key
    simp only [Option.bind_some] at hstep
    rw [List.cons_append, hstep, hstep, Option.bind_assoc]
    simp only [ih]

theorem not_map_at? (h : ∀ f, v ≠ .map f) (hpath : path ≠ []) : v.at? path = none := by
  cases path with
  | nil => exact absurd rfl hpath
  | cons key path =>
    cases v with
    | map f => exact absurd rfl (h f)
    | _ => rfl

/-- What a value binds keys to is keyed at every depth. -/
def Regular (u : Option Value) : Prop :=
  (bindingsOf u).Throughout Keyed

theorem Regular.find? {u : Option Value} (h : Regular u) (key : Value) : Regular ((bindingsOf u).find? key) := by
  cases hfind : (bindingsOf u).find? key with
  | none => exact .intro .nil (by simp [bindingsOf])
  | some v =>
    cases v with
    | map f => exact h.of_find? hfind
    | _ => exact .intro .nil (by simp [bindingsOf])

/-- One key of a path: what is found under it goes on as one value laid over another. -/
theorem at?_overlay_cons {u : Option Value} {f : Fields} (hu : Regular u) (hf : Regular (some (.map f)))
    (hkey : key.Canonical) (path : List Value) : (overlay u (.map f)).at? (key :: path) =
      (match f.find? key with
        | some w => some (overlay ((bindingsOf u).find? key) w)
        | none => (bindingsOf u).find? key).bind fun v => v.at? path := by
  have hkeyed : Keyed f := hf.here
  rw [overlay_map hkeyed.distinct, Value.at?, find?_mergeInto hu.here hkeyed hkey]

/-- Where the later value has something, that is laid over what the earlier one has there. -/
theorem at?_overlay_of_some (path : List Value) : ∀ {u : Option Value} {w : Value}, Regular u → Regular (some w) →
    (∀ key ∈ path, key.Canonical) → w.at? path = some v →
      (overlay u w).at? path = some (overlay (u.bind fun v => v.at? path) v) := by
  induction path with
  | nil =>
    intro u w _ _ _ hat
    obtain rfl : w = v := Option.some.inj hat
    have hu : (u.bind fun v => v.at? []) = u := by cases u <;> rfl
    rw [hu]
    rfl
  | cons key path ih =>
    intro u w hu hw hpath hat
    obtain ⟨hkey, hpath⟩ := List.forall_mem_cons.mp hpath
    cases w with
    | map f =>
      obtain ⟨w', hfind, hat'⟩ := Option.bind_eq_some_iff.mp hat
      have hw' : Regular (some w') := hfind ▸ hw.find? key
      rw [at?_overlay_cons hu hw hkey, hfind, at?_step]
      exact ih (hu.find? key) hw' hpath hat'
    | _ => cases hat

/-- Where it has nothing, and nothing on the way that is no mapping, the earlier value shows. -/
theorem at?_overlay_of_none (path : List Value) : ∀ {u : Option Value} {w : Value}, Regular u → Regular (some w) →
    (∀ key ∈ path, key.Canonical) → w.at? path = none →
    (∀ front back, path = front ++ back → back ≠ [] → ∀ v, w.at? front = some v → ∃ f, v = .map f) →
      (overlay u w).at? path = u.bind fun v => v.at? path := by
  induction path with
  | nil =>
    intro u w _ _ _ hat
    cases hat
  | cons key path ih =>
    intro u w hu hw hpath hat hopen
    obtain ⟨hkey, hpath⟩ := List.forall_mem_cons.mp hpath
    obtain ⟨f, rfl⟩ := hopen [] (key :: path) rfl (by simp) w rfl
    rw [at?_overlay_cons hu hw hkey, at?_step]
    cases hfind : Fields.find? f key with
    | none => rfl
    | some w' =>
      have hstep : ∀ more, (Value.map f).at? (key :: more) = w'.at? more := fun more => by
        rw [Value.at?, hfind, Option.bind_some]
      have hw' : Regular (some w') := hfind ▸ hw.find? key
      refine ih (hu.find? key) hw' hpath (by rwa [← hstep]) ?_
      rintro front back rfl hback v hv
      exact hopen (key :: front) back rfl hback v ((hstep front).trans hv)

/-! ### The law of merging -/

/-- A mapping, also one that is cut because it is inside of itself. -/
def IsMapping (v : Value) : Prop :=
  v.kindName = "dict"

theorem ne_map_of_not_isMapping (h : ¬ IsMapping v) : ∀ f, v ≠ .map f := by
  rintro f rfl
  exact h rfl

/-- What the merge of two mappings has at a path. -/
structure MergedAt (a b : Fields) (path : List Value) : Prop where
  /-- A value of the later one that is no mapping. -/
  replaced : ∀ v, ¬ IsMapping v → b.at? path = some v → (merge [a, b]).at? path = some v
  /-- The merge of two mappings. -/
  merged : ∀ f g, a.at? path = some (.map f) → b.at? path = some (.map g) →
    (merge [a, b]).at? path = some (.map (merge [f, g]))
  /-- A mapping of the later one alone. -/
  added : ∀ g, b.at? path = some (.map g) → (∀ v, a.at? path = some v → ¬ IsMapping v) →
    (merge [a, b]).at? path = some (.map g)
  /-- What the earlier one has, if the later one has nothing at the path and only mappings on the way. -/
  kept : b.at? path = none →
    (∀ front back, path = front ++ back → back ≠ [] → ∀ v, b.at? front = some v → ∃ f, v = .map f) →
    (merge [a, b]).at? path = a.at? path
  /-- Nothing behind a value of the later one that is no mapping. -/
  hidden : ∀ front back, path = front ++ back → back ≠ [] → ∀ v, ¬ IsMapping v → b.at? front = some v →
    (merge [a, b]).at? path = none

theorem mergedAt (ha : a.Throughout Keyed) (hb : b.Throughout Keyed) (hpath : ∀ key ∈ path, key.Canonical) :
    MergedAt a b path := by
  have hmerge : Value.map (merge [a, b]) = overlay (some (.map a)) (.map b) := by rw [merge_pair ha.here, overlay]
  have hsome : ∀ {path v}, (∀ key ∈ path, key.Canonical) → b.at? path = some v →
      (merge [a, b]).at? path = some (overlay (a.at? path) v) := fun hpath hv => by
    rw [at?, hmerge]
    exact at?_overlay_of_some _ ha hb hpath hv
  constructor
  case replaced =>
    intro v hv hat
    rw [hsome hpath hat, overlay_of_ne_map (ne_map_of_not_isMapping hv)]
  case merged =>
    intro f g hf hg
    have hfkeyed : Keyed f := (ha.of_at? path hf).here
    rw [hsome hpath hg, hf, merge_pair hfkeyed, overlay]
  case added =>
    intro g hg hnone
    rw [hsome hpath hg, overlay]
    exact fun f hf => hnone (.map f) hf rfl
  case kept =>
    intro hat hopen
    rw [at?, hmerge]
    exact at?_overlay_of_none path ha hb hpath hat hopen
  case hidden =>
    rintro front back rfl hback v hv hat
    have hfront := hsome (fun key hkey => hpath key (List.mem_append_left _ hkey)) hat
    rw [overlay_of_ne_map (ne_map_of_not_isMapping hv)] at hfront
    rw [at?, at?_append, show (Value.map (merge [a, b])).at? front = some v from hfront, Option.bind_some,
      not_map_at? (ne_map_of_not_isMapping hv) hback]

/-- Several configurations are merged two at a time. -/
theorem merge_cons (ha : a.Keyed) (configs : List Fields) (hconfigs : ∀ config ∈ configs, config.Keyed) :
    merge (a :: configs) = configs.foldl (fun merged config => merge [merged, config]) a := by
  rw [merge, List.foldl_cons, mergeInto_empty ha]
  induction configs generalizing a with
  | nil => rfl
  | cons config configs ih =>
    obtain ⟨hconfig, hconfigs⟩ := List.forall_mem_cons.mp hconfigs
    rw [List.foldl_cons, List.foldl_cons, merge_pair ha]
    exact ih (keyed_mergeInto ha hconfig) hconfigs

theorem mergeValues_maps (configs : List Fields) : mergeValues (configs.map .map) = .ok (merge configs) := by
  rw [mergeValues, merge]
  generalize ([] : Fields) = merged
  induction configs generalizing merged with
  | nil => rfl
  | cons config configs ih => exact ih (mergeInto merged config)

/-- The merge of two mappings has at every path what the two have there, laid one over the other. Keys stand in the
order in which they are first seen. A mapping merged alone, with itself or with the empty one is that mapping, and
several are merged two at a time from the left. -/
theorem merge_law (ha : a.Throughout Keyed) (hb : b.Throughout Keyed) :
    (∀ path, (∀ key ∈ path, key.Canonical) → MergedAt a b path) ∧
      (merge [a, b]).map Prod.fst =
        a.map Prod.fst ++ ((b.map Prod.fst).filter fun key => (a.find? key).isNone) ∧
      merge [a] = a ∧ (a.Throughout Findable → merge [a, a] = a) ∧ merge [[], a] = a ∧ merge [a, []] = a ∧
      (∀ configs, (∀ config ∈ configs, config.Keyed) →
        merge (a :: configs) = configs.foldl (fun merged config => merge [merged, config]) a) ∧
      ∀ configs : List Fields, mergeValues (configs.map .map) = .ok (merge configs) := by
  have hempty : merge [a, []] = a := by rw [merge_pair ha.here, mergeInto]
  refine ⟨fun path hpath => mergedAt ha hb hpath, ?_, ?_, ?_, ?_, hempty, merge_cons ha.here, mergeValues_maps⟩
  · rw [merge_pair ha.here]
    exact keys_mergeInto ha.here hb.here
  · exact merge_cons ha.here [] (by simp)
  · intro hself
    rw [merge_pair ha.here]
    exact mergeInto_self ha hself
  · rw [merge_pair .nil]
    exact mergeInto_empty ha.here

/-- What a JSON text says keeps this law at any depth: its keys are distinct texts. -/
theorem throughout_of_document {P : Fields → Prop} (hP : ∀ f : Fields, f.Named → P f) {w : Value} (h : Json.Document w) :
    ∀ f : Fields, w = .map f → f.Throughout P := by
  induction h with
  | map hnamed _ ih =>
    rintro f ⟨⟩
    exact .intro (hP _ hnamed) fun _ g hmem => ih _ hmem g rfl
  | _ => exact fun f hf => by cases hf

/-- A mapping in place of a number, at the top and below it, and names that only one of the two has. -/
theorem merge_law_nested :
    let a : Fields := [(.text "x", .map [(.text "y", .int 1), (.text "z", .int 2)]), (.text "k", .int 3)]
    let b : Fields := [(.text "k", .map [(.text "w", .null)]), (.text "x", .map [(.text "y", .map [])])]
    a.Throughout Keyed ∧ b.Throughout Keyed ∧ a.Throughout Findable ∧ merge [a, a] = a ∧
      (merge [a, b]).at? [.text "x", .text "z"] = some (.int 2) ∧
      (merge [a, b]).at? [.text "x", .text "y"] = some (.map []) ∧
      (merge [a, b]).map Prod.fst = [.text "x", .text "k"] := by
  intro a b
  have haDocument : Json.Document (.map a) := by
    have hx : Json.Document (.map [(.text "y", .int 1), (.text "z", .int 2)]) :=
      .map ⟨by simp, by simp⟩ (by simpa using ⟨.int 1, .int 2⟩)
    exact .map ⟨by simp [a], by simp [a]⟩ (by simpa [a] using ⟨hx, .int 3⟩)
  have hbDocument : Json.Document (.map b) := by
    have hk : Json.Document (.map [(.text "w", .null)]) := .map ⟨by simp, by simp⟩ (by simpa using .null)
    have hx : Json.Document (.map [(.text "y", .map [])]) := .map ⟨by simp, by simp⟩ (by simpa using .empty)
    exact .map ⟨by simp [b], by simp [b]⟩ (by simpa [b] using ⟨hk, hx⟩)
  have ha : a.Throughout Keyed := throughout_of_document (fun _ h => h.keyed) haDocument a rfl
  have hb : b.Throughout Keyed := throughout_of_document (fun _ h => h.keyed) hbDocument b rfl
  have hself : a.Throughout Findable := throughout_of_document (fun _ h => h.findable) haDocument a rfl
  obtain ⟨hpaths, hkeys, -, hidempotent, -⟩ := merge_law ha hb
  have hxz := hpaths [.text "x", .text "z"] (by simp [Value.Canonical])
  have hxy := hpaths [.text "x", .text "y"] (by simp [Value.Canonical])
  refine ⟨ha, hb, hself, hidempotent hself, hxz.kept rfl ?_, hxy.added [] rfl ?_, hkeys.trans rfl⟩
  · intro front back hparts hback v hv
    -- In front of the last name of the path only mappings are bound.
    rcases front with _ | ⟨key, _ | ⟨key', more⟩⟩
    · exact ⟨b, (Option.some.inj hv).symm⟩
    · obtain rfl := (List.cons.inj hparts).1
      exact ⟨_, (Option.some.inj hv).symm⟩
    · simp at hparts
      exact absurd hparts.2.2.2 hback
  · intro v hv
    obtain rfl := Option.some.inj hv
    simp [IsMapping, Value.kindName]

end Config

end Amalgam
