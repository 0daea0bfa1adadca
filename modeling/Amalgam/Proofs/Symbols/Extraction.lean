import Amalgam.Proofs.Symbols.Name
/-!
# Where the name stands

A display name falls into a qualifier that ends in a colon, a name, and a signature that opens with a bracket or a
blank. The qualifier and the signature may be missing, and the blanks around the display name do not count. What is
found in a display name is exactly the part in the middle, where this is an identifier and no keyword and where no mark
says that the declaration has no name. The cuts are made one after the other, each at a character that is no part of an
identifier, so none of them can cut through a name.
-/

namespace Amalgam.Text

variable {cs m : List Char} {c : Char}

theorem trimEnd_append (front back : List Char) (h : isBlank c = false) :
    trimEnd (front ++ c :: back) = front ++ c :: trimEnd back := by
  have hsplit : (front ++ c :: back).reverse = back.reverse ++ c :: front.reverse := by simp
  rw [trimEnd, hsplit, List.dropWhile_append, List.dropWhile_cons_of_neg (by simp [h])]
  split_ifs with hnone
  · have hback : back.reverse.dropWhile isBlank = [] := List.isEmpty_iff.mp hnone
    simp [trimEnd, hback]
  · simp [trimEnd]

theorem trimStart_append (front back : List Char) (h : isBlank c = false) :
    trimStart (front ++ c :: back) = trimStart front ++ c :: back := by
  rw [trimStart, List.dropWhile_append, List.dropWhile_cons_of_neg (by simp [h])]
  split_ifs with hnone
  · rw [trimStart, List.isEmpty_iff.mp hnone, List.nil_append]
  · rfl

/-- A stretch with no blank at either end stays whole. -/
theorem trim_around (front back : List Char) (hfirst : ∃ c, m.head? = some c ∧ isBlank c = false)
    (hlast : ∃ c, m.getLast? = some c ∧ isBlank c = false) :
    trim (front ++ m ++ back) = trimStart front ++ m ++ trimEnd back := by
  obtain ⟨first, hhead, hfirst⟩ := hfirst
  obtain ⟨last, hgetLast, hlast⟩ := hlast
  obtain ⟨rest, rfl⟩ := List.head?_eq_some_iff.mp hhead
  obtain ⟨before, hbefore⟩ := List.getLast?_eq_some_iff.mp hgetLast
  rw [trim, List.append_assoc, List.cons_append, trimStart_append front _ hfirst, ← List.cons_append,
    ← List.append_assoc, hbefore, ← List.append_assoc (trimStart front), List.append_assoc _ [last],
    List.singleton_append, trimEnd_append _ _ hlast]
  simp

/-- What is left at the end starts as it did, or nothing is left. -/
theorem trimEnd_cases (cs : List Char) : trimEnd cs = [] ∨ (trimEnd cs).head? = cs.head? := by
  have hback : cs = trimEnd cs ++ (cs.reverse.takeWhile isBlank).reverse := by
    rw [trimEnd, ← List.reverse_append, List.takeWhile_append_dropWhile, List.reverse_reverse]
  cases hend : trimEnd cs with
  | nil => exact Or.inl rfl
  | cons c rest =>
    rw [hend] at hback
    rw [hback]
    exact Or.inr rfl

/-- Trimming takes blanks away and nothing else. -/
theorem exists_margins (cs : List Char) : ∃ front back, cs = front ++ trim cs ++ back ∧
    (∀ c ∈ front, isBlank c = true) ∧ ∀ c ∈ back, isBlank c = true := by
  refine ⟨cs.takeWhile isBlank, ((trimStart cs).reverse.takeWhile isBlank).reverse, ?_, ?_, ?_⟩
  · rw [List.append_assoc, trim, trimEnd, ← List.reverse_append, List.takeWhile_append_dropWhile, List.reverse_reverse,
      trimStart, List.takeWhile_append_dropWhile]
  · exact fun c hc => List.mem_takeWhile_imp hc
  · exact fun c hc => List.mem_takeWhile_imp (List.mem_reverse.mp hc)

end Amalgam.Text

namespace Amalgam.Symbols

open Amalgam.Text

variable {cs qualifier signature : List Char} {c : Char} {name displayName : String}

/-! ### Nameless declarations -/

/-- A mark of a nameless declaration stands somewhere in the text, and no word goes on behind it. -/
def SaidNameless (cs : List Char) : Prop :=
  ∃ mark ∈ unnamedMarks, ∃ front back, cs = front ++ mark ++ back ∧ ∀ c, back.head? = some c → isWord c = false

theorem mark_ends {mark : List Char} (h : mark ∈ unnamedMarks) :
    (∃ c, mark.head? = some c ∧ isBlank c = false) ∧ ∃ c, mark.getLast? = some c ∧ isBlank c = false := by
  have hends : ∀ mark ∈ unnamedMarks, mark.head? = some '(' ∧ (mark.getLast? = some 'd' ∨
      mark.getLast? = some 's' ∨ mark.getLast? = some 'a') := by decide
  obtain ⟨hfirst, hlast⟩ := hends mark h
  refine ⟨⟨'(', hfirst, by decide⟩, ?_⟩
  rcases hlast with hlast | hlast | hlast
  · exact ⟨'d', hlast, by decide⟩
  · exact ⟨'s', hlast, by decide⟩
  · exact ⟨'a', hlast, by decide⟩

theorem startsUnnamed_iff : startsUnnamed cs = true ↔
    ∃ mark ∈ unnamedMarks, ∃ back, cs = mark ++ back ∧ ∀ c, back.head? = some c → isWord c = false := by
  simp only [startsUnnamed, List.any_eq_true, Bool.and_eq_true, List.isPrefixOf_iff_prefix, Bool.not_eq_true']
  refine exists_congr fun mark => and_congr_right fun _ => ?_
  constructor
  · rintro ⟨⟨back, rfl⟩, hopen⟩
    refine ⟨back, rfl, fun c hc => ?_⟩
    rw [List.drop_left, hc] at hopen
    exact hopen
  · rintro ⟨back, rfl, hopen⟩
    refine ⟨List.prefix_append mark back, ?_⟩
    rw [List.drop_left]
    cases hhead : back.head? with
    | none => rfl
    | some c => exact hopen c hhead

theorem isUnnamed_iff : isUnnamed cs = true ↔ SaidNameless cs := by
  induction cs with
  | nil =>
    refine iff_of_false Bool.false_ne_true ?_
    rintro ⟨mark, hmark, front, back, hcs, -⟩
    obtain ⟨⟨c, hfirst, -⟩, -⟩ := mark_ends hmark
    obtain ⟨-, rfl, -⟩ : front = [] ∧ mark = [] ∧ back = [] := by simpa using hcs.symm
    cases hfirst
  | cons c rest ih =>
    rw [isUnnamed, Bool.or_eq_true, startsUnnamed_iff, ih]
    constructor
    · rintro (⟨mark, hmark, back, hcs, hopen⟩ | ⟨mark, hmark, front, back, rfl, hopen⟩)
      · exact ⟨mark, hmark, [], back, hcs, hopen⟩
      · exact ⟨mark, hmark, c :: front, back, rfl, hopen⟩
    · rintro ⟨mark, hmark, front, back, hcs, hopen⟩
      cases front with
      | nil => exact Or.inl ⟨mark, hmark, back, hcs, hopen⟩
      | cons d front => exact Or.inr ⟨mark, hmark, front, back, (List.cons.inj hcs).2, hopen⟩

/-- The blanks around a text have no part in its being nameless. -/
theorem saidNameless_trim : SaidNameless (trim cs) ↔ SaidNameless cs := by
  constructor
  · rintro ⟨mark, hmark, front, back, htrim, hopen⟩
    obtain ⟨left, right, hcs, -, hright⟩ := exists_margins cs
    refine ⟨mark, hmark, left ++ front, back ++ right, by rw [hcs, htrim]; simp, fun c hc => ?_⟩
    cases back with
    | cons d back => exact hopen c hc
    | nil =>
      have hblank := hright c (List.mem_of_mem_head? hc)
      refine Bool.eq_false_iff.mpr fun hword => ?_
      rw [isBlank_eq_false_of_isWord hword] at hblank
      cases hblank
  · rintro ⟨mark, hmark, front, back, rfl, hopen⟩
    obtain ⟨hfirst, hlast⟩ := mark_ends hmark
    refine ⟨mark, hmark, trimStart front, trimEnd back, trim_around front back hfirst hlast, fun c hc => ?_⟩
    rcases trimEnd_cases back with hnone | hsame
    · rw [hnone] at hc
      cases hc
    · exact hopen c (hsame ▸ hc)

/-! ### The three parts -/

/-- A text divided into a qualifier, a name and a signature. -/
structure Division (cs qualifier name signature : List Char) : Prop where
  eq : cs = qualifier ++ name ++ signature
  /-- The name stands at the start or directly behind a colon. -/
  ends_colon : qualifier = [] ∨ qualifier.getLast? = some ':'
  qualifier_plain : ∀ c ∈ qualifier, endsName c = false
  /-- The signature starts at the first bracket or blank, or there is none. -/
  opens : signature = [] ∨ ∃ c, signature.head? = some c ∧ endsName c = true

theorem isBlank_eq_false_of_not_endsName (h : endsName c = false) : isBlank c = false := by
  simp only [endsName, Bool.or_eq_false_iff] at h
  exact h.2

theorem colon_not_mem_of_isIdentifier (h : isIdentifier cs = true) : ':' ∉ cs := fun hcolon =>
  absurd (isWord_of_isIdentifier h ':' hcolon) (by decide)

/-- What stands behind the last colon, in front of it the rest. -/
theorem exists_qualifier (cs : List Char) : ∃ qualifier, cs = qualifier ++ afterLastColon cs ∧
    (qualifier = [] ∨ qualifier.getLast? = some ':') := by
  unfold afterLastColon
  cases hsplit : splitLast ':' cs with
  | none => exact ⟨[], rfl, Or.inl rfl⟩
  | some parts =>
    obtain ⟨head, tail⟩ := parts
    exact ⟨head ++ [':'], by simp [(splitLast_eq_some hsplit).1], Or.inr (by simp)⟩

theorem afterLastColon_append {tail : List Char} (hcolon : qualifier = [] ∨ qualifier.getLast? = some ':')
    (htail : ':' ∉ tail) : afterLastColon (qualifier ++ tail) = tail := by
  rcases hcolon with rfl | hcolon
  · exact afterLastColon_of_not_mem htail
  · obtain ⟨head, rfl⟩ := List.getLast?_eq_some_iff.mp hcolon
    rw [afterLastColon, List.append_assoc, List.singleton_append, splitLast_append head htail]

variable {part : List Char}

namespace Division

theorem plain (h : Division cs qualifier part signature) (hname : isIdentifier part = true) :
    ∀ c ∈ qualifier ++ part, endsName c = false := by
  intro c hc
  rcases List.mem_append.mp hc with hc | hc
  · exact h.qualifier_plain c hc
  · exact endsName_eq_false_of_isWord (isWord_of_isIdentifier hname c hc)

/-- The part of the text before its first bracket or blank is the qualifier with the name. -/
theorem takeWhile_eq (h : Division cs qualifier part signature) (hname : isIdentifier part = true) :
    cs.takeWhile (fun c => !endsName c) = qualifier ++ part := by
  have hpass : ∀ c ∈ qualifier ++ part, (!endsName c) = true := fun c hc => by rw [h.plain hname c hc]; rfl
  have hstop : signature.takeWhile (fun c => !endsName c) = [] := by
    rcases h.opens with hnone | ⟨c, hhead, hends⟩
    · rw [hnone, List.takeWhile_nil]
    · obtain ⟨rest, rfl⟩ := List.head?_eq_some_iff.mp hhead
      rw [List.takeWhile_cons_of_neg (by simp [hends])]
  rw [h.eq, List.takeWhile_append_of_pos hpass, hstop, List.append_nil]

/-- Only the signature can lose anything when the blanks around the text are dropped. -/
theorem trim (h : Division cs qualifier part signature) (hname : isIdentifier part = true) :
    Division (trim cs) qualifier part (trimEnd signature) := by
  have hplain := h.plain hname
  have hne : qualifier ++ part ≠ [] := List.append_ne_nil_of_right_ne_nil _ (isIdentifier_ne_nil hname)
  have hfirst : ∃ c, (qualifier ++ part).head? = some c ∧ isBlank c = false :=
    ⟨_, List.head?_eq_some_head hne, isBlank_eq_false_of_not_endsName (hplain _ (List.head_mem hne))⟩
  have hlast : ∃ c, (qualifier ++ part).getLast? = some c ∧ isBlank c = false :=
    ⟨_, List.getLast?_eq_some_getLast hne, isBlank_eq_false_of_not_endsName (hplain _ (List.getLast_mem hne))⟩
  refine ⟨?_, h.ends_colon, h.qualifier_plain, ?_⟩
  · have haround := trim_around [] signature hfirst hlast
    rw [List.nil_append] at haround
    rw [h.eq, haround]
    rfl
  · rcases trimEnd_cases signature with hnone | hsame
    · exact Or.inl hnone
    · rcases h.opens with hempty | hopens
      · exact Or.inl (by rw [hempty]; rfl)
      · exact Or.inr (hsame ▸ hopens)

end Division

/-- The cuts divide a text, whatever stands in it. -/
theorem exists_division (cs : List Char) : ∃ qualifier signature,
    Division cs qualifier (afterLastColon (cs.takeWhile fun c => !endsName c)) signature := by
  obtain ⟨qualifier, hpart, hcolon⟩ := exists_qualifier (cs.takeWhile fun c => !endsName c)
  refine ⟨qualifier, cs.dropWhile fun c => !endsName c, ?_, hcolon, ?_, ?_⟩
  · rw [← hpart, List.takeWhile_append_dropWhile]
  · intro c hc
    have hmem : c ∈ cs.takeWhile fun c => !endsName c := by
      rw [hpart]
      exact List.mem_append_left _ hc
    simpa using List.mem_takeWhile_imp hmem
  · have hstop := List.head?_dropWhile_not (fun c => !endsName c) cs
    cases hhead : (cs.dropWhile fun c => !endsName c).head? with
    | none => exact Or.inl (List.head?_eq_none_iff.mp hhead)
    | some c =>
      rw [hhead] at hstop
      exact Or.inr ⟨c, rfl, by simpa using hstop⟩

/-! ### What is found -/

/-- A name is found exactly where it stands between a qualifier and a signature. -/
theorem bareName_eq_some_iff : bareName displayName = some name ↔
    ¬ SaidNameless displayName.toList ∧ isIdentifier name.toList = true ∧ name ∉ keywords ∧
      ∃ qualifier signature, Division (trim displayName.toList) qualifier name.toList signature := by
  rw [← saidNameless_trim, ← isUnnamed_iff]
  constructor
  · intro h
    obtain ⟨hidentifier, hkeyword⟩ := bareName_sound h
    unfold bareName at h
    dsimp only at h
    split_ifs at h with hnameless hname
    obtain rfl := Option.some.inj h
    refine ⟨hnameless, hidentifier, hkeyword, ?_⟩
    rw [String.toList_ofList]
    exact exists_division _
  · rintro ⟨hnameless, hidentifier, hkeyword, qualifier, signature, hdivision⟩
    have hpart := hdivision.takeWhile_eq hidentifier
    have hbehind := afterLastColon_append hdivision.ends_colon (colon_not_mem_of_isIdentifier hidentifier)
    unfold bareName
    simp only [hpart, hbehind, String.ofList_toList]
    simp [hnameless, hidentifier, hkeyword]

theorem isIdentifier_iff : isIdentifier cs = true ↔
    ∃ first rest, cs = first :: rest ∧ (first.isAlpha = true ∨ first = '_') ∧ ∀ c ∈ rest, isWord c = true := by
  cases cs with
  | nil => simp [isIdentifier]
  | cons first rest => simp [isIdentifier, startsIdentifier]

/-- What is found is an identifier and no keyword, and it ends what stands before the first bracket or blank, at its
start or behind its last colon. And an identifier that is no keyword is found wherever it stands so, unless a mark says
that there is no name. -/
theorem bareName_exact :
    (∀ displayName name, bareName displayName = some name →
      (∃ first rest, name.toList = first :: rest ∧ (first.isAlpha = true ∨ first = '_') ∧
          ∀ c ∈ rest, isWord c = true) ∧
        name ∉ keywords ∧
        ∃ qualifier signature, Division (trim displayName.toList) qualifier name.toList signature ∧
          (trim displayName.toList).takeWhile (fun c => !endsName c) = qualifier ++ name.toList ∧
          ':' ∉ name.toList) ∧
      ∀ qualifier name signature, Division (qualifier ++ name.toList ++ signature) qualifier name.toList signature →
        (∃ first rest, name.toList = first :: rest ∧ (first.isAlpha = true ∨ first = '_') ∧
          ∀ c ∈ rest, isWord c = true) →
        name ∉ keywords → ¬ SaidNameless (qualifier ++ name.toList ++ signature) →
        bareName (String.ofList (qualifier ++ name.toList ++ signature)) = some name := by
  simp only [← isIdentifier_iff]
  constructor
  · intro displayName name h
    obtain ⟨-, hidentifier, hkeyword, qualifier, signature, hdivision⟩ := bareName_eq_some_iff.mp h
    exact ⟨hidentifier, hkeyword, qualifier, signature, hdivision, hdivision.takeWhile_eq hidentifier,
      colon_not_mem_of_isIdentifier hidentifier⟩
  · intro qualifier name signature hdivision hidentifier hkeyword hnameless
    rw [bareName_eq_some_iff, String.toList_ofList]
    exact ⟨hnameless, hidentifier, hkeyword, qualifier, _, hdivision.trim hidentifier⟩

/-- A name outside of ASCII behind a colon, and in the signature a word that only starts like a mark. -/
theorem bareName_exact_lookalike :
    let qualifier := "FUNCTION_DECL:ns::".toList
    let signature := "<T> (unnamedness, a::b)\t ".toList
    Division (qualifier ++ "größe²".toList ++ signature) qualifier "größe²".toList signature ∧
      ¬ SaidNameless (qualifier ++ "größe²".toList ++ signature) ∧
      bareName "FUNCTION_DECL:ns::größe²<T> (unnamedness, a::b)\t " = some "größe²" ∧
      ∃ qualifier signature, Division (trim " VAR_DECL:n [2]".toList) qualifier "n".toList signature := by
  intro qualifier signature
  have hqualifier : qualifier.all (fun c => !endsName c) = true := by decide +kernel
  have hplain : ∀ c ∈ qualifier, endsName c = false := fun c hc => by simpa using List.all_eq_true.mp hqualifier c hc
  have hdivision : Division (qualifier ++ "größe²".toList ++ signature) qualifier "größe²".toList signature :=
    ⟨rfl, Or.inr (by decide +kernel), hplain, Or.inr ⟨'<', by decide, by decide⟩⟩
  have hnameless : ¬ SaidNameless (qualifier ++ "größe²".toList ++ signature) :=
    fun h => absurd (isUnnamed_iff.mpr h) (by decide +kernel)
  have hidentifier : isIdentifier "größe²".toList = true := by decide +kernel
  obtain ⟨hsound, hcomplete⟩ := bareName_exact
  have hname := isIdentifier_iff.mp hidentifier
  have hfound := hcomplete qualifier "größe²" signature hdivision hname (by decide) hnameless
  obtain ⟨-, -, front, back, hback, -⟩ := hsound " VAR_DECL:n [2]" "n" (by decide +kernel)
  exact ⟨hdivision, hnameless, hfound, front, back, hback⟩

end Amalgam.Symbols
