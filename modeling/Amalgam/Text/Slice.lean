import Amalgam.Text.Class
/-!
# Cutting and joining text

Trimming, splitting and replacing on lists of characters. Every function here only rearranges: what it drops is said
in its name.
-/

namespace Amalgam.Text

def trimStart (cs : List Char) : List Char :=
  cs.dropWhile isBlank

def trimEnd (cs : List Char) : List Char :=
  (cs.reverse.dropWhile isBlank).reverse

def trim (cs : List Char) : List Char :=
  trimEnd (trimStart cs)

def trimmed (s : String) : String :=
  String.ofList (trim s.toList)

def endTrimmed (s : String) : String :=
  String.ofList (trimEnd s.toList)

/-- A text of blanks only, the empty text included. -/
def isBlankText (s : String) : Bool :=
  s.toList.all isBlank

/-- The parts before and after the last occurrence of `sep`, when there is one. -/
def splitLast {α : Type} [DecidableEq α] (sep : α) : List α → Option (List α × List α)
  | [] => none
  | c :: rest =>
    match splitLast sep rest with
    | some (head, tail) => some (c :: head, tail)
    | none => if c = sep then some ([], rest) else none

/-- The parts before and after the first occurrence of `sep`, when there is one. -/
def splitFirst {α : Type} [DecidableEq α] (sep : α) : List α → Option (List α × List α)
  | [] => none
  | c :: rest =>
    if c = sep then some ([], rest) else (splitFirst sep rest).map fun p => (c :: p.1, p.2)

/-- The pieces between occurrences of `sep`: always at least one. -/
def pieces {α : Type} [DecidableEq α] (sep : α) : List α → List (List α)
  | [] => [[]]
  | c :: rest =>
    if c = sep then [] :: pieces sep rest
    else
      match pieces sep rest with
      | [] => [[c]]
      | p :: ps => (c :: p) :: ps

/-- Lines, each with the line feed that ends it; only the last may lack one. -/
def lines : List Char → List (List Char)
  | [] => []
  | c :: rest =>
    if c = '\n' then [c] :: lines rest
    else
      match lines rest with
      | [] => [[c]]
      | l :: ls => (c :: l) :: ls

/-- The longest runs without blanks. -/
def words (cs : List Char) : List (List Char) :=
  (pieces ' ' (cs.map fun c => if isBlank c then ' ' else c)).filter fun w => !w.isEmpty

/-- Every `sep` becomes the replacement. -/
def substitute {α : Type} [DecidableEq α] (sep : α) (replacement : List α) (cs : List α) : List α :=
  cs.flatMap fun c => if c = sep then replacement else [c]

/-- Drops each `first` that stands directly before a `second`. -/
def dropBefore {α : Type} [DecidableEq α] (first second : α) : List α → List α
  | [] => []
  | [c] => [c]
  | c :: d :: rest =>
    if c = first ∧ d = second then dropBefore first second (d :: rest) else c :: dropBefore first second (d :: rest)

/-- Line ends of all three kinds become line feeds. -/
def universalNewlines : List Char → List Char
  | [] => []
  | '\r' :: '\n' :: rest => '\n' :: universalNewlines rest
  | '\r' :: rest => '\n' :: universalNewlines rest
  | c :: rest => c :: universalNewlines rest

/-- Texts joined with a separator between neighbours. -/
def joined (sep : String) (parts : List String) : String :=
  sep.intercalate parts

def repeated (n : Nat) (c : Char) : String :=
  String.ofList (List.replicate n c)

/-- The text of a numeral, with a minus sign below zero. -/
def numeral (n : Int) : String :=
  match n with
  | .ofNat k => String.ofList (Nat.toDigits 10 k)
  | .negSucc k => String.ofList ('-' :: Nat.toDigits 10 (k + 1))

/-- At least `width` characters, with `pad` in front. -/
def padStart (width : Nat) (pad : Char) (cs : List Char) : List Char :=
  List.replicate (width - cs.length) pad ++ cs

theorem splitLast_eq_none {α : Type} [DecidableEq α] {sep : α} {cs : List α} (h : splitLast sep cs = none) :
    sep ∉ cs := by
  induction cs with
  | nil => simp
  | cons c rest ih =>
    rw [splitLast] at h
    cases hr : splitLast sep rest with
    | some p => simp [hr] at h
    | none =>
      simp only [hr] at h
      split at h
      · simp at h
      · rename_i hc
        simp only [List.mem_cons, not_or]
        exact ⟨fun h' => hc h'.symm, ih hr⟩

/-- The parts are what stands around the separator. -/
theorem splitLast_eq_some {α : Type} [DecidableEq α] {sep : α} {cs head tail : List α}
    (h : splitLast sep cs = some (head, tail)) : cs = head ++ sep :: tail ∧ sep ∉ tail := by
  induction cs generalizing head tail with
  | nil => simp [splitLast] at h
  | cons c rest ih =>
    rw [splitLast] at h
    cases hr : splitLast sep rest with
    | some p =>
      obtain ⟨p₁, p₂⟩ := p
      simp only [hr, Option.some.injEq, Prod.mk.injEq] at h
      obtain ⟨rfl, rfl⟩ := h
      obtain ⟨hcat, hnot⟩ := ih hr
      exact ⟨by simp [hcat], hnot⟩
    | none =>
      simp only [hr] at h
      split at h
      · rename_i hc
        simp only [Option.some.injEq, Prod.mk.injEq] at h
        obtain ⟨rfl, rfl⟩ := h
        exact ⟨by simp [hc], splitLast_eq_none hr⟩
      · simp at h

/-- The lines of a text, one after the other, are the text. -/
theorem flatten_lines (cs : List Char) : (lines cs).flatten = cs := by
  induction cs with
  | nil => rfl
  | cons c rest ih =>
    rw [lines]
    split
    · simp [ih]
    · split <;> simp_all

end Amalgam.Text
