import Amalgam.Console.Markup
import Amalgam.Proofs.Console.Layout
/-!
# Escaped text is plain

Dividing a text into characters and tags is a relation with one rule for each of them, and escaping doubles the
backslashes before every tag and adds one. That leaves every place that begins a tag where it is: whether a bracket opens
a tag is decided by the characters up to the next bracket, and none of these is changed. So escaped text is divided as
the text was, only that all its tags are behind an odd number of backslashes, and no tag of it takes effect.
-/

namespace Amalgam.Console.Markup

open Amalgam.Text

variable {c : Char} {cs rest body : List Char} {l : Lexeme} {ls : List Lexeme} {k : Nat}

/-! ### Tags -/

/-- What stands before the next closing bracket, unless an opening one comes first. -/
def closing? : List Char → Option (List Char)
  | [] => none
  | c :: rest => if c = ']' then some [] else if c = '[' then none else (closing? rest).map (c :: ·)

theorem closing?_eq_takeWhile (cs : List Char) : closing? cs =
    if (cs.drop (cs.takeWhile fun c => c != '[' && c != ']').length).head? = some ']' then
      some (cs.takeWhile fun c => c != '[' && c != ']') else none := by
  induction cs with
  | nil => rfl
  | cons c rest ih =>
    rw [closing?, ih]
    by_cases hclose : c = ']'
    · simp [hclose]
    · by_cases hopen : c = '['
      · simp [hopen]
      · rw [if_neg hclose, if_neg hopen, List.takeWhile_cons_of_pos (by simp [hclose, hopen]), List.length_cons,
          List.drop_succ_cons]
        split <;> rfl

theorem tagBody?_eq (cs : List Char) :
    tagBody? cs = (closing? cs).filter fun body => (body.head?.map startsTag).getD false := by
  rw [closing?_eq_takeWhile, tagBody?]
  generalize cs.takeWhile _ = body
  by_cases hclose : (cs.drop body.length).head? = some ']'
  · rw [if_pos hclose, Option.filter_some]
    simp only [hclose, decide_true, Bool.true_and]
  · rw [if_neg hclose, Option.filter_none]
    simp only [hclose, decide_false, Bool.false_and, Bool.false_eq_true, if_false]

/-- Something that stands between the brackets of a tag. -/
structure IsBody (body : List Char) : Prop where
  inner : ∀ c ∈ body, c ≠ '[' ∧ c ≠ ']'
  starts : (body.head?.map startsTag).getD false = true

theorem closing?_append (h : ∀ c ∈ body, c ≠ '[' ∧ c ≠ ']') (rest : List Char) :
    closing? (body ++ ']' :: rest) = some body := by
  induction body with
  | nil => rfl
  | cons c body ih =>
    obtain ⟨⟨hopen, hclose⟩, hbody⟩ := List.forall_mem_cons.mp h
    rw [List.cons_append, closing?, if_neg hclose, if_neg hopen, ih hbody]
    rfl

theorem eq_append_of_closing? (h : closing? cs = some body) :
    (∀ c ∈ body, c ≠ '[' ∧ c ≠ ']') ∧ ∃ rest, cs = body ++ ']' :: rest := by
  induction cs generalizing body with
  | nil => cases h
  | cons c cs ih =>
    rw [closing?] at h
    split_ifs at h with hclose hopen
    · obtain rfl := Option.some.inj h
      exact ⟨by simp, cs, by rw [hclose]; rfl⟩
    · obtain ⟨inner, hinner, rfl⟩ := Option.map_eq_some_iff.mp h
      obtain ⟨hbody, rest, rfl⟩ := ih hinner
      exact ⟨List.forall_mem_cons.mpr ⟨⟨hopen, hclose⟩, hbody⟩, rest, rfl⟩

theorem IsBody.tagBody?_append (h : IsBody body) (rest : List Char) : tagBody? (body ++ ']' :: rest) = some body := by
  rw [tagBody?_eq, closing?_append h.inner, Option.filter_some, if_pos h.starts]

theorem isBody_of_tagBody? (h : tagBody? cs = some body) : IsBody body ∧ ∃ rest, cs = body ++ ']' :: rest := by
  rw [tagBody?_eq, Option.filter_eq_some_iff] at h
  obtain ⟨hinner, hrest⟩ := eq_append_of_closing? h.1
  exact ⟨⟨hinner, h.2⟩, hrest⟩

@[simp] theorem tagAt?_nil : tagAt? [] = none := rfl

@[simp] theorem tagAt?_backslash (rest : List Char) :
    tagAt? ('\\' :: rest) = (tagAt? rest).map fun tag => (tag.1 + 1, tag.2) := by
  simp only [tagAt?, List.takeWhile_cons, decide_true, if_true, List.length_cons, List.drop_succ_cons]
  split
  · simp [Function.comp_def]
  · rfl

@[simp] theorem tagAt?_bracket (rest : List Char) : tagAt? ('[' :: rest) = (tagBody? rest).map fun body => (0, body) :=
  rfl

theorem tagAt?_other (hslash : c ≠ '\\') (hopen : c ≠ '[') (rest : List Char) : tagAt? (c :: rest) = none := by
  have hrun : (c :: rest).takeWhile (· = '\\') = [] := List.takeWhile_cons_of_neg (by simpa using hslash)
  rw [tagAt?, hrun]
  simp only [List.length_nil, List.drop_zero]
  split
  · next h => exact absurd (List.cons.inj h).1 hopen
  · rfl

/-! ### Lexemes -/

/-- The text of a lexeme. -/
def Lexeme.text : Lexeme → List Char
  | char c => [c]
  | tag escapes body => List.replicate escapes '\\' ++ '[' :: body ++ [']']

/-- A text divided into lexemes. -/
inductive Lexed : List Char → List Lexeme → Prop
  | nil : Lexed [] []
  | tag {k : Nat} {body rest : List Char} {ls : List Lexeme} (hbody : IsBody body) (hrest : Lexed rest ls) :
      Lexed ((Lexeme.tag k body).text ++ rest) (.tag k body :: ls)
  | char {c : Char} {rest : List Char} {ls : List Lexeme} (hnone : tagAt? (c :: rest) = none)
      (hrest : Lexed rest ls) : Lexed (c :: rest) (.char c :: ls)

theorem IsBody.tagAt?_text (h : IsBody body) (k : Nat) (rest : List Char) :
    tagAt? ((Lexeme.tag k body).text ++ rest) = some (k, body) := by
  simp only [Lexeme.text, List.append_assoc, List.cons_append, List.nil_append]
  induction k with
  | zero => simp [h.tagBody?_append rest]
  | succ k ih => simp [List.replicate_succ, ih]

theorem text_of_tagAt? (h : tagAt? cs = some (k, body)) :
    IsBody body ∧ ∃ rest, cs = (Lexeme.tag k body).text ++ rest := by
  induction cs generalizing k with
  | nil => cases h
  | cons c cs ih =>
    by_cases hslash : c = '\\'
    · subst hslash
      obtain ⟨⟨k', body'⟩, htag, heq⟩ := Option.map_eq_some_iff.mp (tagAt?_backslash cs ▸ h)
      obtain ⟨rfl, rfl⟩ := Prod.mk.inj heq
      obtain ⟨hbody, rest, rfl⟩ := ih htag
      exact ⟨hbody, rest, by simp [Lexeme.text, List.replicate_succ]⟩
    · by_cases hopen : c = '['
      · subst hopen
        obtain ⟨body', htag, heq⟩ := Option.map_eq_some_iff.mp (tagAt?_bracket cs ▸ h)
        obtain ⟨rfl, rfl⟩ := Prod.mk.inj heq
        obtain ⟨hbody, rest, rfl⟩ := isBody_of_tagBody? htag
        exact ⟨hbody, rest, by simp [Lexeme.text]⟩
      · cases (tagAt?_other hslash hopen cs).symm.trans h

theorem lexemesFrom_eq_drop (skip : Nat) (cs : List Char) : lexemesFrom skip cs = lexemesFrom 0 (cs.drop skip) := by
  induction cs generalizing skip with
  | nil => cases skip <;> rfl
  | cons c cs ih =>
    cases skip with
    | zero => rfl
    | succ skip =>
      rw [lexemesFrom, ih, List.drop_succ_cons]

theorem lexemesFrom_tag (h : IsBody body) (k : Nat) (rest : List Char) :
    lexemesFrom 0 ((Lexeme.tag k body).text ++ rest) = .tag k body :: lexemesFrom 0 rest := by
  have htag := h.tagAt?_text k rest
  have hlength : (Lexeme.tag k body).text.length = k + body.length + 1 + 1 := by
    simp [Lexeme.text]
    omega
  cases htext : (Lexeme.tag k body).text with
  | nil => simp [htext] at hlength
  | cons c tail =>
    rw [htext] at htag hlength
    have htail : tail.length = k + body.length + 1 := Nat.succ.inj hlength
    rw [List.cons_append] at htag ⊢
    rw [lexemesFrom, htag]
    dsimp only
    rw [lexemesFrom_eq_drop, ← htail, List.drop_left]

theorem Lexed.lexemesFrom_eq (h : Lexed cs ls) : lexemesFrom 0 cs = ls := by
  induction h with
  | nil => rfl
  | tag hbody _ ih => rw [lexemesFrom_tag hbody, ih]
  | char hnone _ ih => rw [lexemesFrom, hnone, ih]

theorem lexed_lexemesFrom (cs : List Char) : Lexed cs (lexemesFrom 0 cs) := by
  induction hlength : cs.length using Nat.strongRecOn generalizing cs with
  | _ n ih =>
    subst hlength
    cases cs with
    | nil => exact .nil
    | cons c rest =>
      cases htag : tagAt? (c :: rest) with
      | none =>
        rw [lexemesFrom, htag]
        exact .char htag (ih _ (by simp) rest rfl)
      | some tag =>
        obtain ⟨k, body⟩ := tag
        obtain ⟨hbody, after, heq⟩ := text_of_tagAt? htag
        rw [heq, lexemesFrom_tag hbody]
        refine .tag hbody (ih _ ?_ after rfl)
        rw [heq, Lexeme.text]
        simp only [List.length_append, List.length_cons]
        omega

/-! ### Escaping -/

/-- What a lexeme becomes when it is escaped. -/
def Lexeme.guarded : Lexeme → Lexeme
  | char c => .char c
  | tag escapes body => .tag (2 * escapes + 1) body

theorem Lexeme.escaped_eq (l : Lexeme) : l.escaped = l.guarded.text := by
  cases l <;> rfl

theorem closing?_tag (k : Nat) (body rest : List Char) : closing? ((Lexeme.tag k body).text ++ rest) = none := by
  induction k with
  | zero => rfl
  | succ k ih =>
    rw [Lexeme.text, List.replicate_succ, List.cons_append, List.cons_append, List.cons_append, closing?,
      if_neg (by decide), if_neg (by decide)]
    exact Option.map_eq_none_iff.mpr ih

/-- Escaping leaves the next bracket and what stands before a closing one. -/
theorem Lexed.closing?_escaped (h : Lexed cs ls) : closing? (ls.flatMap Lexeme.escaped) = closing? cs := by
  induction h with
  | nil => rfl
  | tag _ _ _ => rw [List.flatMap_cons, Lexeme.escaped_eq, Lexeme.guarded, closing?_tag, closing?_tag]
  | char _ _ ih =>
    rw [List.flatMap_cons, Lexeme.escaped, List.singleton_append, closing?, closing?, ih]

theorem Lexed.tagAt?_escaped (h : Lexed cs ls) (hnone : tagAt? cs = none) :
    tagAt? (ls.flatMap Lexeme.escaped) = none := by
  induction h with
  | nil => rfl
  | @tag k body rest _ hbody _ _ => cases (hbody.tagAt?_text k rest).symm.trans hnone
  | @char c rest ls _ hrest ih =>
    rw [List.flatMap_cons, Lexeme.escaped, List.singleton_append]
    by_cases hslash : c = '\\'
    · subst hslash
      rw [tagAt?_backslash, Option.map_eq_none_iff] at hnone ⊢
      exact ih hnone
    · by_cases hopen : c = '['
      · subst hopen
        rw [tagAt?_bracket, tagBody?_eq] at hnone ⊢
        rwa [hrest.closing?_escaped]
      · exact tagAt?_other hslash hopen _

theorem Lexed.escaped (h : Lexed cs ls) : Lexed (ls.flatMap Lexeme.escaped) (ls.map Lexeme.guarded) := by
  induction h with
  | nil => exact .nil
  | tag hbody _ ih =>
    rw [List.flatMap_cons, Lexeme.escaped_eq]
    exact .tag hbody ih
  | char hnone hrest ih => exact .char ((Lexed.char hnone hrest).tagAt?_escaped hnone) ih

/-! ### A backslash at the end -/

theorem closing?_concat (cs : List Char) : closing? (cs ++ ['\\']) = closing? cs := by
  induction cs with
  | nil => rfl
  | cons c cs ih => rw [List.cons_append, closing?, closing?, ih]

theorem tagAt?_concat (cs : List Char) : tagAt? (cs ++ ['\\']) = tagAt? cs := by
  induction cs with
  | nil => rfl
  | cons c cs ih =>
    rw [List.cons_append]
    by_cases hslash : c = '\\'
    · rw [hslash, tagAt?_backslash, tagAt?_backslash, ih]
    · by_cases hopen : c = '['
      · rw [hopen, tagAt?_bracket, tagAt?_bracket, tagBody?_eq, tagBody?_eq, closing?_concat]
      · rw [tagAt?_other hslash hopen, tagAt?_other hslash hopen]

theorem Lexed.concat (h : Lexed cs ls) : Lexed (cs ++ ['\\']) (ls ++ [.char '\\']) := by
  induction h with
  | nil => exact .char rfl .nil
  | tag hbody _ ih =>
    rw [List.append_assoc]
    exact .tag hbody ih
  | @char c rest _ hnone _ ih => exact .char ((tagAt?_concat (c :: rest)).trans hnone) ih

/-! ### Plain text -/

/-- A tag takes effect unless a backslash makes it plain. -/
def Lexeme.takesEffect : Lexeme → Bool
  | char _ => false
  | tag escapes _ => escapes % 2 = 0

/-- No tag takes effect. -/
def Inert (ls : List Lexeme) : Prop :=
  ∀ l ∈ ls, l.takesEffect = false

/-- Text without a tag that takes effect. -/
def Plain (s : String) : Prop :=
  Inert (lexemes s)

instance (s : String) : Decidable (Plain s) :=
  inferInstanceAs (Decidable (∀ l ∈ lexemes s, l.takesEffect = false))

theorem inert_guarded (ls : List Lexeme) : Inert (ls.map Lexeme.guarded) := by
  intro l hl
  obtain ⟨l, _, rfl⟩ := List.mem_map.mp hl
  cases l with
  | char c => rfl
  | tag escapes body => exact decide_eq_false (by omega)

theorem plain_escape (s : String) : Plain (escape s) := by
  have hlexed : Lexed ((lexemes s).flatMap Lexeme.escaped) ((lexemes s).map Lexeme.guarded) :=
    (lexed_lexemesFrom s.toList).escaped
  rw [Plain, lexemes, escape, String.toList_ofList]
  split
  · rw [hlexed.concat.lexemesFrom_eq]
    exact List.forall_mem_append.mpr ⟨inert_guarded _, by simp [Lexeme.takesEffect]⟩
  · rw [hlexed.lexemesFrom_eq]
    exact inert_guarded _

theorem Lexed.inert (h : Lexed cs ls) (hopen : '[' ∉ cs) : Inert ls := by
  induction h with
  | nil => exact fun _ hl => absurd hl List.not_mem_nil
  | tag _ _ _ => exact absurd (List.mem_append_left _ (by simp [Lexeme.text])) hopen
  | char _ _ ih => exact List.forall_mem_cons.mpr ⟨rfl, ih fun hmem => hopen (List.mem_cons_of_mem _ hmem)⟩

theorem plain_of_not_mem {s : String} (h : '[' ∉ s.toList) : Plain s :=
  (lexed_lexemesFrom s.toList).inert h

@[simp] theorem Showing.closed_put (s : Showing) (c : Char) : (s.put c).closed = s.closed := by
  unfold put
  split <;> rfl

@[simp] theorem Showing.opened_put (s : Showing) (c : Char) : (s.put c).opened = s.opened := by
  unfold put
  split <;> rfl

@[simp] theorem Showing.closed_foldl_put (cs : List Char) (s : Showing) : (cs.foldl put s).closed = s.closed := by
  induction cs generalizing s with
  | nil => rfl
  | cons c cs ih => rw [List.foldl_cons, ih, closed_put]

@[simp] theorem Showing.opened_foldl_put (cs : List Char) (s : Showing) : (cs.foldl put s).opened = s.opened := by
  induction cs generalizing s with
  | nil => rfl
  | cons c cs ih => rw [List.foldl_cons, ih, opened_put]

/-- Showing lexemes without a tag that takes effect opens and closes nothing. -/
theorem showFrom_inert (h : Inert ls) (position : Nat) (s : Showing) :
    ∃ s', showFrom position s ls = .ok s' ∧ s'.closed = s.closed ∧ s'.opened = s.opened := by
  induction ls generalizing position s with
  | nil => exact ⟨s, rfl, rfl, rfl⟩
  | cons l ls ih =>
    obtain ⟨hl, hls⟩ := List.forall_mem_cons.mp h
    cases l with
    | char c =>
      rw [showFrom]
      split
      · exact ih hls _ s
      · simpa using ih hls (position + 1) (s.put c)
    | tag escapes body =>
      have hodd : escapes % 2 = 1 := Nat.mod_two_ne_zero.mp (of_decide_eq_false hl)
      rw [showFrom, if_pos hodd]
      simpa using ih hls (position + escapes + body.length + 2) (('[' :: body ++ [']']).foldl Showing.put
        ((List.replicate (escapes / 2) '\\').foldl Showing.put s))

end Amalgam.Console.Markup
