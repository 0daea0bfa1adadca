import Amalgam.CommandLine.Forward
import Mathlib.Data.List.Infix

/-!
# The order of forwarded arguments

The typed arguments are marked: some are consumed, the others are forwarded, as positionals or as unrecognized options.
Of the marks only the two lists of forwarded texts reach `forwarded`, which looks for the texts again from the left. It
finds each list where it first occurs as a subsequence, whatever the marks were, and the two searches do not disturb
each other as long as the lists have no text in common. So what decides about the order is which of two texts the
search meets first, and a consumed argument makes it meet a text too early when it is spelled like it.
-/

namespace Amalgam.CommandLine

/-! ### Marked arguments -/

/-- What the command line does with an argument. -/
inductive Mark where
  | consumed
  | positional
  | unrecognized
  deriving DecidableEq

/-- Typed arguments with their marks. -/
abbrev Marking := List (String × Mark)

namespace Marking

variable {m k : Marking} {a b : Mark} {x : String}

def texts (m : Marking) : List String := m.map Prod.fst

/-- The arguments that are forwarded. -/
def kept (m : Marking) : Marking := m.filter (·.2 ≠ .consumed)

def marked (m : Marking) (a : Mark) : List String := texts (m.filter (·.2 = a))

@[simp]
theorem texts_nil : texts [] = [] := rfl

@[simp]
theorem texts_cons : texts ((x, a) :: m) = x :: texts m := rfl

@[simp]
theorem marked_nil : marked [] a = [] := rfl

@[simp]
theorem marked_cons_self : marked ((x, a) :: m) a = x :: marked m a := by
  simp [marked]

theorem marked_cons_other (hne : a ≠ b) : marked ((x, a) :: m) b = marked m b := by
  simp [marked, hne]

@[simp]
theorem marked_append : marked (m ++ k) a = marked m a ++ marked k a := by
  simp [marked, texts]

theorem marked_sublist (m : Marking) (a : Mark) : (marked m a).Sublist (texts m) :=
  List.filter_sublist.map _

theorem marked_kept (hforwarded : a ≠ .consumed) : marked (kept m) a = marked m a := by
  have hsame : ∀ p : String × Mark, (decide (p.2 = a) && decide (p.2 ≠ .consumed)) = decide (p.2 = a) := by
    rintro ⟨_, b⟩
    by_cases hb : b = a <;> simp [hb, hforwarded]
  simp only [marked, kept, List.filter_filter, hsame]

/-- The first argument with a mark, and no argument with the mark in front of it. -/
theorem exists_first (hfirst : (marked m a).head? = some x) :
    ∃ front back, m = front ++ (x, a) :: back ∧ marked front a = [] := by
  induction m with
  | nil => simp at hfirst
  | cons p m ih =>
    obtain ⟨y, b⟩ := p
    by_cases hb : b = a
    · subst hb
      simp only [marked_cons_self, List.head?_cons, Option.some.injEq] at hfirst
      exact ⟨[], m, by simp [hfirst], rfl⟩
    · obtain ⟨front, back, rfl, hnone⟩ := ih (by rwa [marked_cons_other hb] at hfirst)
      exact ⟨(y, b) :: front, back, rfl, by rwa [marked_cons_other hb]⟩

end Marking

/-! ### Both lists are forwarded, each in its order -/

/-- The third list has the texts of the first and of the second, each in its order. -/
inductive Interleaved : List String → List String → List String → Prop where
  | nil : Interleaved [] [] []
  | left {x : String} {xs ys zs : List String} : Interleaved xs ys zs → Interleaved (x :: xs) ys (x :: zs)
  | right {y : String} {xs ys zs : List String} : Interleaved xs ys zs → Interleaved xs (y :: ys) (y :: zs)

theorem Interleaved.append : ∀ ys xs : List String, Interleaved xs ys (ys ++ xs)
  | [], [] => .nil
  | [], _ :: xs => .left (append [] xs)
  | _ :: ys, xs => .right (append ys xs)

theorem forwarded_interleaved (typed positional unknown : List String) :
    Interleaved positional unknown (forwarded typed positional unknown) := by
  fun_induction forwarded typed positional unknown with
  | case1 positional unknown => exact .append unknown positional
  | case2 _ _ _ _ ih => exact .right ih
  | case3 _ _ _ _ _ ih => exact ih
  | case4 _ _ _ _ _ _ ih => exact .left ih
  | case5 _ _ _ _ _ _ _ _ ih => exact ih
  | case6 _ _ _ ih => exact .left ih
  | case7 _ _ _ _ _ ih => exact ih
  | case8 => exact .nil

section

variable {t : String} {rest ps us : List String}

@[simp]
theorem forwarded_nothing : forwarded rest [] [] = [] := by
  cases rest <;> rfl

theorem forwarded_unknown : forwarded (t :: rest) ps (t :: us) = t :: forwarded rest ps us := by
  simp [forwarded]

theorem forwarded_positional (hother : us.head? ≠ some t) :
    forwarded (t :: rest) (t :: ps) us = t :: forwarded rest ps us := by
  cases us with
  | nil => simp [forwarded]
  | cons u us =>
    have hne : t ≠ u := fun heq => hother (by rw [heq, List.head?_cons])
    simp [forwarded, hne]

theorem forwarded_neither (hpositional : ps.head? ≠ some t) (hunknown : us.head? ≠ some t) :
    forwarded (t :: rest) ps us = forwarded rest ps us := by
  cases us <;> cases ps <;> simp_all [forwarded, eq_comm]

end

/-! ### Which text is met first -/

/-- From the left, the first texts are found as a subsequence before the second ones are. -/
def MetBefore (typed first second : List String) : Prop :=
  ∃ front, front <+: typed ∧ first.Sublist front ∧ ¬ second.Sublist front

section

variable {t : String} {rest first second : List String}

theorem metBefore_cons (hfilled : first ≠ []) :
    MetBefore (t :: rest) first second ↔
      ∃ front, front <+: rest ∧ first.Sublist (t :: front) ∧ ¬ second.Sublist (t :: front) := by
  constructor
  · rintro ⟨front, hprefix, hfound, hnot⟩
    cases front with
    | nil => exact absurd (List.sublist_nil.mp hfound) hfilled
    | cons s front =>
      obtain ⟨rfl, hwithin⟩ := List.cons_prefix_cons.mp hprefix
      exact ⟨front, hwithin, hfound, hnot⟩
  · rintro ⟨front, hprefix, hfound, hnot⟩
    exact ⟨t :: front, List.cons_prefix_cons.mpr ⟨rfl, hprefix⟩, hfound, hnot⟩

/-- A text that is not looked for next is passed over. -/
theorem sublist_cons_of_head?_ne {front : List String} (hother : first.head? ≠ some t) :
    first.Sublist (t :: front) ↔ first.Sublist front := by
  constructor
  · intro hfound
    cases hfound with
    | cons _ hfound => exact hfound
    | cons_cons _ _ => simp at hother
  · exact fun hfound => hfound.cons t

end

namespace Marking

variable {k front back : Marking} {a b : Mark} {t x y : String} {rest : List String}

/-- Of two arguments with different marks, the one that stands first is met first: the search for the texts with its
mark has come to it when the other search has not come to the other one. -/
def MetInOrder (typed : List String) (k : Marking) : Prop :=
  ∀ front x a between y b back, k = front ++ (x, a) :: (between ++ (y, b) :: back) → a ≠ b →
    MetBefore typed (marked front a ++ [x]) (marked (front ++ (x, a) :: between) b ++ [y])

theorem head?_upTo (back : Marking) : (marked front b ++ [y]).head? = (marked (front ++ (y, b) :: back) b).head? := by
  cases hmarked : marked front b <;> simp [hmarked]

/-- An argument that is not met by either search makes no difference. -/
theorem metInOrder_passed (hpassed : ∀ b, (marked k b).head? ≠ some t) :
    MetInOrder (t :: rest) k ↔ MetInOrder rest k := by
  have hstep : ∀ front x a between y b back, k = front ++ (x, a) :: (between ++ (y, b) :: back) →
      (MetBefore (t :: rest) (marked front a ++ [x]) (marked (front ++ (x, a) :: between) b ++ [y]) ↔
        MetBefore rest (marked front a ++ [x]) (marked (front ++ (x, a) :: between) b ++ [y])) := by
    rintro front x a between y b back rfl
    have hfirst : (marked front a ++ [x]).head? ≠ some t := by
      rw [head?_upTo (between ++ (y, b) :: back)]
      exact hpassed a
    have hsecond : (marked (front ++ (x, a) :: between) b ++ [y]).head? ≠ some t := by
      rw [head?_upTo back, List.append_assoc, List.cons_append]
      exact hpassed b
    rw [metBefore_cons (by simp)]
    simp only [sublist_cons_of_head?_ne hfirst, sublist_cons_of_head?_ne hsecond, MetBefore]
  exact ⟨fun hmet front x a between y b back hk hne =>
      (hstep front x a between y b back hk).mp (hmet front x a between y b back hk hne),
    fun hmet front x a between y b back hk hne =>
      (hstep front x a between y b back hk).mpr (hmet front x a between y b back hk hne)⟩

/-- The argument that stands first is met: the search for its mark goes on behind it. -/
theorem upTo_sublist_met {front' : List String} (halone : ∀ c, c ≠ a → (marked (front ++ (y, b) :: back) c).head? ≠ some x) :
    (marked ((x, a) :: front) b ++ [y]).Sublist (x :: front') ↔ (marked front b ++ [y]).Sublist front' := by
  by_cases hsame : a = b
  · subst hsame
    rw [marked_cons_self, List.cons_append, List.cons_sublist_cons]
  · rw [marked_cons_other hsame]
    refine sublist_cons_of_head?_ne ?_
    rw [head?_upTo back]
    exact halone b (Ne.symm hsame)

theorem metInOrder_met (halone : ∀ b, b ≠ a → (marked k b).head? ≠ some x) :
    MetInOrder (x :: rest) ((x, a) :: k) ↔ MetInOrder rest k := by
  have hstep : ∀ front y b between z c back, k = front ++ (y, b) :: (between ++ (z, c) :: back) →
      (MetBefore (x :: rest) (marked ((x, a) :: front) b ++ [y])
          (marked ((x, a) :: front ++ (y, b) :: between) c ++ [z]) ↔
        MetBefore rest (marked front b ++ [y]) (marked (front ++ (y, b) :: between) c ++ [z])) := by
    rintro front y b between z c back rfl
    have hfurther : ∀ d, d ≠ a → (marked (front ++ (y, b) :: between ++ (z, c) :: back) d).head? ≠ some x := by
      intro d hne
      rw [List.append_assoc, List.cons_append]
      exact halone d hne
    rw [metBefore_cons (by simp)]
    simp only [upTo_sublist_met halone, List.cons_append, upTo_sublist_met hfurther, MetBefore]
  constructor
  · intro hmet front y b between z c back hk hne
    exact (hstep front y b between z c back hk).mp
      (hmet ((x, a) :: front) y b between z c back (by rw [hk, List.cons_append]) hne)
  · intro hmet front y b between z c back hk hne
    cases front with
    | nil =>
      obtain ⟨hsame, rfl⟩ := List.cons.inj hk
      obtain ⟨rfl, rfl⟩ := Prod.mk.inj hsame
      refine ⟨[x], List.cons_prefix_cons.mpr ⟨rfl, List.nil_prefix⟩, List.Sublist.refl _, fun hfound => ?_⟩
      have hnone := (upTo_sublist_met halone).mp hfound
      simp at hnone
    | cons p front =>
      obtain ⟨rfl, hwithin⟩ := List.cons.inj hk
      exact (hstep front y b between z c back hwithin).mpr (hmet front y b between z c back hwithin hne)

/-- If the search for another mark meets the next argument, then not in the order of the marks. -/
theorem not_metInOrder (hne : a ≠ b) (hfirst : (marked k b).head? = some t) (hother : t ≠ x) :
    ¬ MetInOrder (t :: rest) ((x, a) :: k) := by
  intro hmet
  obtain ⟨between, back, rfl, hnone⟩ := exists_first hfirst
  obtain ⟨front, hprefix, hfound, hnot⟩ := hmet [] x a between t b back rfl hne
  rw [List.nil_append, marked_cons_other hne, hnone, List.nil_append] at hnot
  cases front with
  | nil => simp at hfound
  | cons s front =>
    obtain ⟨rfl, -⟩ := List.cons_prefix_cons.mp hprefix
    exact hnot (by simp)

end Marking

/-! ### The forwarded list -/

open Marking

section

variable {m k : Marking} {a b : Mark} {x t : String} {rest : List String}

/-- No text has two marks. -/
def Apart (m : Marking) : Prop := ∀ a b, a ≠ b → ∀ t ∈ marked m a, t ∉ marked m b

theorem Apart.head?_ne (h : Apart ((x, a) :: k)) : ∀ b, b ≠ a → (marked k b).head? ≠ some x := by
  intro b hne hfirst
  have hx : x ∈ marked ((x, a) :: k) a := by simp
  refine h a b (Ne.symm hne) x hx ?_
  rw [marked_cons_other (Ne.symm hne)]
  exact List.mem_of_mem_head? hfirst

theorem Apart.tail (h : Apart ((x, a) :: k)) : Apart k := by
  have hlarger : ∀ b t, t ∈ marked k b → t ∈ marked ((x, a) :: k) b := by
    intro b t hfound
    by_cases hsame : a = b
    · subst hsame
      rw [marked_cons_self]
      exact List.mem_cons_of_mem x hfound
    · rwa [marked_cons_other hsame]
  exact fun b c hne t hfound hfound' => h b c hne t (hlarger b t hfound) (hlarger c t hfound')

/-- The next forwarded text is met: it is forwarded first. -/
theorem forwarded_met (h : Apart ((x, a) :: k)) (ha : a ≠ .consumed) :
    forwarded (x :: rest) (marked ((x, a) :: k) .positional) (marked ((x, a) :: k) .unrecognized) =
      x :: forwarded rest (marked k .positional) (marked k .unrecognized) := by
  cases a with
  | consumed => exact absurd rfl ha
  | positional =>
    rw [marked_cons_self, marked_cons_other (by decide)]
    exact forwarded_positional (h.head?_ne .unrecognized (by decide))
  | unrecognized =>
    rw [marked_cons_self, marked_cons_other (by decide)]
    exact forwarded_unknown

theorem head?_forwarded (rest : List String) (hclean : marked k .consumed = []) (hfirst : (marked k a).head? = some t) :
    (forwarded (t :: rest) (marked k .positional) (marked k .unrecognized)).head? = some t := by
  by_cases hunknown : (marked k .unrecognized).head? = some t
  · obtain ⟨us, heq⟩ := List.head?_eq_some_iff.mp hunknown
    rw [heq, forwarded_unknown, List.head?_cons]
  · cases a with
    | consumed => simp [hclean] at hfirst
    | positional =>
      obtain ⟨ps, heq⟩ := List.head?_eq_some_iff.mp hfirst
      rw [heq, forwarded_positional hunknown, List.head?_cons]
    | unrecognized => exact absurd hfirst hunknown

theorem eq_nil_of_marked (hnone : ∀ a, marked k a = []) : k = [] := by
  cases k with
  | nil => rfl
  | cons p k =>
    obtain ⟨x, a⟩ := p
    simpa using hnone a

theorem marked_sublist_of_cons (h : Apart ((x, a) :: k)) (hfound : (marked ((x, a) :: k) b).Sublist (x :: rest)) :
    (marked k b).Sublist rest := by
  by_cases hsame : a = b
  · subst hsame
    rwa [marked_cons_self, List.cons_sublist_cons] at hfound
  · rwa [marked_cons_other hsame, sublist_cons_of_head?_ne (h.head?_ne b (Ne.symm hsame))] at hfound

/-- The induction goes over the typed texts, and the marked arguments are those still to be found in them, which need
not be where the marks are. -/
theorem forwarded_eq_texts_iff (typed : List String) :
    ∀ k : Marking, marked k .consumed = [] → Apart k → (∀ a, (marked k a).Sublist typed) →
      (forwarded typed (marked k .positional) (marked k .unrecognized) = texts k ↔ MetInOrder typed k) := by
  induction typed with
  | nil =>
    intro k _ _ hfound
    have hnil : k = [] := eq_nil_of_marked fun a => List.sublist_nil.mp (hfound a)
    subst hnil
    simp [MetInOrder]
  | cons t rest ih =>
    intro k hclean hapart hfound
    cases k with
    | nil => simp [MetInOrder]
    | cons p k =>
      obtain ⟨x, a⟩ := p
      by_cases hmet : t = x
      · subst hmet
        have ha : a ≠ .consumed := by
          rintro rfl
          simp at hclean
        have hrest := ih k (by rwa [marked_cons_other ha] at hclean) hapart.tail
          fun b => marked_sublist_of_cons hapart (hfound b)
        rw [forwarded_met hapart ha, texts_cons, List.cons.injEq, metInOrder_met hapart.head?_ne, ← hrest]
        simp
      · by_cases hearly : ∃ b, (marked ((x, a) :: k) b).head? = some t
        · obtain ⟨b, hfirst⟩ := hearly
          have hne : a ≠ b := by
            rintro rfl
            simp only [marked_cons_self, List.head?_cons, Option.some.injEq] at hfirst
            exact hmet hfirst.symm
          have htaken := head?_forwarded rest hclean hfirst
          rw [marked_cons_other hne] at hfirst
          refine iff_of_false (fun heq => ?_) (not_metInOrder hne hfirst hmet)
          rw [heq, texts_cons, List.head?_cons, Option.some.injEq] at htaken
          exact hmet htaken.symm
        · have hpassed : ∀ b, (marked ((x, a) :: k) b).head? ≠ some t := fun b hfirst => hearly ⟨b, hfirst⟩
          rw [forwarded_neither (hpassed .positional) (hpassed .unrecognized), metInOrder_passed hpassed]
          exact ih _ hclean hapart fun b => (sublist_cons_of_head?_ne (hpassed b)).mp (hfound b)

/-- No consumed argument is spelled like the positional or the unrecognized option that comes next behind it. -/
def Unmistaken (m : Marking) : Prop :=
  ∀ front x back, m = front ++ (x, .consumed) :: back → ∀ a, a ≠ .consumed → (marked back a).head? ≠ some x

theorem Unmistaken.tail (h : Unmistaken ((x, a) :: m)) : Unmistaken m := by
  intro front y back hm
  exact h ((x, a) :: front) y back (by rw [hm, List.cons_append])

theorem forwarded_of_unmistaken (m : Marking) :
    Apart (kept m) → Unmistaken m →
      forwarded (texts m) (marked m .positional) (marked m .unrecognized) = texts (kept m) := by
  induction m with
  | nil => exact fun _ _ => rfl
  | cons p m ih =>
    intro hapart hplain
    obtain ⟨x, a⟩ := p
    by_cases ha : a = .consumed
    · subst ha
      have hpassed := hplain [] x m rfl
      have hrest := ih (by simpa [kept] using hapart) hplain.tail
      rw [texts_cons, marked_cons_other (by decide), marked_cons_other (by decide),
        forwarded_neither (hpassed .positional (by decide)) (hpassed .unrecognized (by decide)), hrest]
      simp [kept]
    · have hkept : kept ((x, a) :: m) = (x, a) :: kept m := by simp [kept, ha]
      rw [hkept] at hapart ⊢
      rw [← marked_kept (m := (x, a) :: m) (by decide), ← marked_kept (m := (x, a) :: m) (by decide), hkept,
        texts_cons, forwarded_met hapart ha, marked_kept (by decide), marked_kept (by decide), ih hapart.tail hplain.tail,
        texts_cons]

theorem marked_kept_consumed : marked (kept m) .consumed = [] := by
  simp [marked, kept, List.filter_filter, texts]

theorem apart_kept (h : ∀ t ∈ marked m .positional, t ∉ marked m .unrecognized) : Apart (kept m) := by
  intro a b hne t hfound hfound'
  cases a with
  | consumed => simp [marked_kept_consumed] at hfound
  | positional =>
    cases b with
    | consumed => simp [marked_kept_consumed] at hfound'
    | positional => exact hne rfl
    | unrecognized =>
      rw [marked_kept (by decide)] at hfound hfound'
      exact h t hfound hfound'
  | unrecognized =>
    cases b with
    | consumed => simp [marked_kept_consumed] at hfound'
    | positional =>
      rw [marked_kept (by decide)] at hfound hfound'
      exact h t hfound' hfound
    | unrecognized => exact hne rfl

theorem marked_kept_sublist (m : Marking) (a : Mark) : (marked (kept m) a).Sublist (texts m) :=
  (marked_sublist (kept m) a).trans (List.filter_sublist.map _)

/-- The forwarded texts are all there, positionals and options each in their order. They stand in the order in which
they were typed exactly if the search meets them in that order, and so they do unless a consumed argument is spelled
like the forwarded one that the search would take next. -/
theorem forwarded_order (m : Marking) (hapart : ∀ t ∈ marked m .positional, t ∉ marked m .unrecognized) :
    Interleaved (marked m .positional) (marked m .unrecognized)
        (forwarded (texts m) (marked m .positional) (marked m .unrecognized)) ∧
      (forwarded (texts m) (marked m .positional) (marked m .unrecognized) = texts (kept m) ↔
        MetInOrder (texts m) (kept m)) ∧
      (Unmistaken m →
        forwarded (texts m) (marked m .positional) (marked m .unrecognized) = texts (kept m)) := by
  have horder := forwarded_eq_texts_iff (texts m) (kept m) marked_kept_consumed (apart_kept hapart)
    (marked_kept_sublist m)
  rw [marked_kept (by decide), marked_kept (by decide)] at horder
  exact ⟨forwarded_interleaved _ _ _, horder, forwarded_of_unmistaken m (apart_kept hapart)⟩

/-- Arguments that are typed between the options of the program. -/
theorem forwarded_order_mixed :
    MetInOrder ["bundle", "a.c", "-DFOO", "extra", "--std=c99", "-c", "t.csv"]
      [("-DFOO", .unrecognized), ("extra", .positional), ("--std=c99", .unrecognized)] :=
  (forwarded_order [("bundle", .consumed), ("a.c", .consumed), ("-DFOO", .unrecognized), ("extra", .positional),
    ("--std=c99", .unrecognized), ("-c", .consumed), ("t.csv", .consumed)] (by decide)).2.1.mp (by decide)

/-- The value of an option is taken for the positional that is spelled like it, which then comes too early. -/
theorem forwarded_too_early :
    ∃ m : Marking, (∀ t ∈ marked m .positional, t ∉ marked m .unrecognized) ∧
      texts m = ["bundle", "-c", "t.csv", "-x", "a.c", "t.csv"] ∧ texts (kept m) = ["-x", "t.csv"] ∧
      forwarded (texts m) (marked m .positional) (marked m .unrecognized) = ["t.csv", "-x"] :=
  ⟨[("bundle", .consumed), ("-c", .consumed), ("t.csv", .consumed), ("-x", .unrecognized), ("a.c", .consumed),
    ("t.csv", .positional)], by decide⟩

end

/-! ### Nothing is lost and nothing comes from elsewhere -/

/-- The marks tell of every text which of the two lists it is from. -/
theorem Interleaved.exists_marking {xs ys zs : List String} (h : Interleaved xs ys zs) :
    ∃ k : Marking, marked k .consumed = [] ∧ marked k .positional = xs ∧ marked k .unrecognized = ys ∧ texts k = zs := by
  induction h with
  | nil => exact ⟨[], rfl, rfl, rfl, rfl⟩
  | @left x _ _ _ _ ih =>
    obtain ⟨k, hnone, rfl, rfl, rfl⟩ := ih
    refine ⟨(x, .positional) :: k, ?_, marked_cons_self, marked_cons_other (by decide), rfl⟩
    rwa [marked_cons_other (by decide)]
  | @right y _ _ _ _ ih =>
    obtain ⟨k, hnone, rfl, rfl, rfl⟩ := ih
    refine ⟨(y, .unrecognized) :: k, ?_, marked_cons_other (by decide), marked_cons_self, rfl⟩
    rwa [marked_cons_other (by decide)]

section

variable {t : String} {rest ps us : List String}

/-- What is left of a list when its first text has been met. -/
theorem exists_tail_of_met (hfirst : us.head? = some t) (hfound : us.Sublist (t :: rest)) :
    ∃ us', us = t :: us' ∧ us'.Sublist rest := by
  obtain ⟨us', rfl⟩ := List.head?_eq_some_iff.mp hfirst
  exact ⟨us', rfl, List.cons_sublist_cons.mp hfound⟩

theorem head?_ne_of_mem (hapart : ∀ t ∈ ps, t ∉ us) (hfound : t ∈ us) : ps.head? ≠ some t :=
  fun hfirst => hapart t (List.mem_of_mem_head? hfirst) hfound

/-- The induction goes over the typed texts. Each of them is met by one search at most, so both lists stay subsequences
of what is still to come, and neither has a text left when the typed ones are at their end. -/
theorem forwarded_sublist_typed (typed : List String) :
    ∀ ps us : List String, (∀ t ∈ ps, t ∉ us) → ps.Sublist typed → us.Sublist typed →
      (forwarded typed ps us).Sublist typed := by
  induction typed with
  | nil =>
    intro ps us _ hps hus
    obtain rfl := List.sublist_nil.mp hps
    obtain rfl := List.sublist_nil.mp hus
    exact List.Sublist.refl _
  | cons t rest ih =>
    intro ps us hapart hps hus
    by_cases hmetUs : us.head? = some t
    · obtain ⟨us', rfl, hus'⟩ := exists_tail_of_met hmetUs hus
      have hother : ps.head? ≠ some t := head?_ne_of_mem hapart List.mem_cons_self
      have hapart' : ∀ s ∈ ps, s ∉ us' := fun s hfound hfound' => hapart s hfound (List.mem_cons_of_mem t hfound')
      rw [forwarded_unknown]
      exact (ih ps us' hapart' ((sublist_cons_of_head?_ne hother).mp hps) hus').cons_cons t
    · have hus' : us.Sublist rest := (sublist_cons_of_head?_ne hmetUs).mp hus
      by_cases hmetPs : ps.head? = some t
      · obtain ⟨ps', rfl, hps'⟩ := exists_tail_of_met hmetPs hps
        have hapart' : ∀ s ∈ ps', s ∉ us := fun s hfound => hapart s (List.mem_cons_of_mem t hfound)
        rw [forwarded_positional hmetUs]
        exact (ih ps' us hapart' hps' hus').cons_cons t
      · rw [forwarded_neither hmetPs hmetUs]
        exact (ih ps us hapart ((sublist_cons_of_head?_ne hmetPs).mp hps) hus').cons t

end

/-- Whatever is typed, the forwarded texts are those of the two lists, at places that complement each other and each
list in its order. If no text is in both lists and each is a subsequence of the typed texts, so are the forwarded ones. -/
theorem forwarded_conserves (typed positional unknown : List String) :
    (∃ k : Marking, marked k .consumed = [] ∧ marked k .positional = positional ∧ marked k .unrecognized = unknown ∧
        texts k = forwarded typed positional unknown) ∧
      ((∀ t ∈ positional, t ∉ unknown) → positional.Sublist typed → unknown.Sublist typed →
        (forwarded typed positional unknown).Sublist typed) :=
  ⟨(forwarded_interleaved typed positional unknown).exists_marking,
    forwarded_sublist_typed typed positional unknown⟩

/-- Texts that come several times, also as the value of an option. -/
theorem forwarded_conserves_repeated :
    forwarded ["-x", "b", "-c", "b", "-x", "b", "-x"] ["b", "b"] ["-x", "-x"] = ["-x", "b", "b", "-x"] ∧
      ["-x", "b", "b", "-x"].Sublist ["-x", "b", "-c", "b", "-x", "b", "-x"] := by
  have hresult : forwarded ["-x", "b", "-c", "b", "-x", "b", "-x"] ["b", "b"] ["-x", "-x"] = ["-x", "b", "b", "-x"] := by
    decide
  refine ⟨hresult, hresult ▸ ?_⟩
  exact (forwarded_conserves ["-x", "b", "-c", "b", "-x", "b", "-x"] ["b", "b"] ["-x", "-x"]).2
    (by decide) (by decide) (by decide)

end Amalgam.CommandLine
