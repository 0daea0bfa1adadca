import Amalgam.Proofs.Symbols.Location
import Amalgam.Symbols.Name
/-!
# Which names are found

Whatever a display name looks like, the name that is found in it is an identifier and no keyword. Each identifier that
is no keyword is found in turn, namely in the display name that consists of nothing else: its characters are word
characters, and neither a blank nor a bracket nor a colon is one of them.
-/

namespace Amalgam.Text

variable {c : Char} {cs : List Char}

theorem alpha_bounds (h : c.isAlpha = true) : 65 ≤ c.toNat ∧ c.toNat ≤ 90 ∨ 97 ≤ c.toNat ∧ c.toNat ≤ 122 := by
  have hcases : c.isUpper = true ∨ c.isLower = true := Bool.or_eq_true_iff.mp h
  rcases hcases with hupper | hlower
  · have hbounds : c.val ≥ 'A'.val ∧ c.val ≤ 'Z'.val := of_decide_eq_true hupper
    exact Or.inl hbounds
  · have hbounds := Bool.and_eq_true_iff.mp hlower
    exact Or.inr ⟨of_decide_eq_true hbounds.1, of_decide_eq_true hbounds.2⟩

theorem isBlank_eq_false_of_isWord (h : isWord c = true) : isBlank c = false := by
  have hword : inRanges ((48, 57) :: (65, 90) :: (95, 95) :: (97, 122) :: Ranges.alphanumeric) c.toNat = true := by
    unfold isWord at h
    rw [inRanges_eq_true]
    split_ifs at h with hascii
    · rw [Bool.or_eq_true, beq_iff_eq] at h
      rcases h with halphanum | rfl
      · have hcases : c.isAlpha = true ∨ c.isDigit = true := Bool.or_eq_true_iff.mp halphanum
        rcases hcases with halpha | hdigit
        · rcases alpha_bounds halpha with hupper | hlower
          · exact ⟨(65, 90), by simp, hupper⟩
          · exact ⟨(97, 122), by simp, hlower⟩
        · exact ⟨(48, 57), by simp, Char.isDigit_iff_toNat.mp hdigit⟩
      · exact ⟨(95, 95), by simp, by decide⟩
    · obtain ⟨r, hr, hbounds⟩ := inRanges_eq_true.mp h
      exact ⟨r, by simp [hr], hbounds⟩
  refine inRanges_eq_false_of_apart ?_ hword
  decide +kernel

theorem trim_of_no_blank (h : ∀ c ∈ cs, isBlank c = false) : trim cs = cs := by
  have hdrop : ∀ ds : List Char, (∀ c ∈ ds, isBlank c = false) → ds.dropWhile isBlank = ds := by
    intro ds hds
    cases ds with
    | nil => rfl
    | cons d rest => rw [List.dropWhile_cons_of_neg (by simp [hds d List.mem_cons_self])]
  have hback : ∀ c ∈ cs.reverse, isBlank c = false := fun c hc => h c (List.mem_reverse.mp hc)
  rw [trim, trimStart, hdrop cs h, trimEnd, hdrop _ hback, List.reverse_reverse]

end Amalgam.Text

namespace Amalgam.Symbols

open Amalgam.Text

variable {c : Char} {cs : List Char} {name displayName : String}

theorem isWord_of_startsIdentifier (h : startsIdentifier c = true) : isWord c = true := by
  simp only [startsIdentifier, Bool.or_eq_true, decide_eq_true_eq] at h
  rcases h with halpha | rfl
  · have hascii : c.toNat < 128 := by
      rcases alpha_bounds halpha with hbounds | hbounds
      · omega
      · omega
    have halphanum : c.isAlphanum = true := Bool.or_eq_true_iff.mpr (Or.inl halpha)
    exact isWord_of_isAlphanum halphanum hascii
  · exact isWord_underscore

theorem isIdentifier_ne_nil (h : isIdentifier cs = true) : cs ≠ [] := by
  rintro rfl
  cases h

theorem isWord_of_isIdentifier (h : isIdentifier cs = true) : ∀ c ∈ cs, isWord c = true := by
  cases cs with
  | nil => cases h
  | cons first rest =>
    simp only [isIdentifier, Bool.and_eq_true, List.all_eq_true] at h
    intro c hc
    rcases List.mem_cons.mp hc with rfl | hc
    · exact isWord_of_startsIdentifier h.1
    · exact h.2 c hc

/-- What is found is an identifier and no keyword. -/
theorem bareName_sound (h : bareName displayName = some name) : isIdentifier name.toList = true ∧ name ∉ keywords := by
  unfold bareName at h
  dsimp only at h
  split_ifs at h with hunnamed hname
  obtain rfl := Option.some.inj h
  rw [String.toList_ofList]
  simpa using hname

theorem isUnnamed_eq_false (h : '(' ∉ cs) : isUnnamed cs = false := by
  have hopening : ∀ mark ∈ unnamedMarks, mark.head? = some '(' := by decide
  induction cs with
  | nil => rfl
  | cons c rest ih =>
    rw [List.mem_cons, not_or] at h
    have hstart : startsUnnamed (c :: rest) = false := by
      refine Bool.eq_false_iff.mpr fun hstart => ?_
      obtain ⟨mark, hmark, hstarts⟩ := List.any_eq_true.mp hstart
      obtain ⟨more, rfl⟩ := List.head?_eq_some_iff.mp (hopening mark hmark)
      simp [List.isPrefixOf, h.1] at hstarts
    rw [isUnnamed, hstart, ih h.2, Bool.false_or]

theorem afterLastColon_of_not_mem (h : ':' ∉ cs) : afterLastColon cs = cs := by
  unfold afterLastColon
  split
  · rename_i head tail hsplit
    have hmem : ':' ∈ cs := by simp [(splitLast_eq_some hsplit).1]
    exact absurd hmem h
  · rfl

theorem endsName_eq_false_of_isWord (h : isWord c = true) : endsName c = false := by
  have hne : ∀ d, isWord d = false → c ≠ d := by
    rintro d hd rfl
    rw [h] at hd
    cases hd
  simp [endsName, isBlank_eq_false_of_isWord h, hne '(' (by decide), hne '<' (by decide), hne '[' (by decide)]

/-- An identifier that is no keyword is found in itself. -/
theorem bareName_identifier (h : isIdentifier name.toList = true) (hkeyword : name ∉ keywords) :
    bareName name = some name := by
  have hword := isWord_of_isIdentifier h
  have hnone : ∀ c, isWord c = false → c ∉ name.toList := by
    intro c hc hmem
    rw [hword c hmem] at hc
    cases hc
  have hblank : ∀ c ∈ name.toList, isBlank c = false := fun c hc => isBlank_eq_false_of_isWord (hword c hc)
  have htake : name.toList.takeWhile (fun c => !endsName c) = name.toList := by
    rw [List.takeWhile_eq_self_iff]
    intro c hc
    rw [endsName_eq_false_of_isWord (hword c hc)]
    rfl
  unfold bareName
  simp only [trim_of_no_blank hblank, isUnnamed_eq_false (hnone '(' (by decide)), htake,
    afterLastColon_of_not_mem (hnone ':' (by decide)), String.ofList_toList]
  simp [h, hkeyword]

end Amalgam.Symbols
