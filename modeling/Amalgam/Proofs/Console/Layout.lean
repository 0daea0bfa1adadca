import Amalgam.Console.Printer
import Amalgam.Proofs.Value.Result
/-!
# Layout invents no styles

Laying text out cuts it, fills it and moves its stretches, and the words of a style stay with what is left of its
stretch. So every style of a line was a style of the text that the line was cut from, and printing fails on the words of
a style only if the text had such a style before it was laid out.
-/

namespace Amalgam.Console

open Amalgam.Text

/-- Whether some words are a style or are none, their components can be read. -/
def Style.Readable (name : String) : Prop :=
  ∃ style, Style.parse? name = .ok style

namespace StyledText

/-- The words of the styles of a text. -/
def styles (t : StyledText) : List String :=
  t.spans.map Span.style

/-- Every style of the text can be read. -/
def Readable (t : StyledText) : Prop :=
  ∀ name ∈ t.styles, Style.Readable name

theorem Readable.of_subset {t u : StyledText} (h : u.Readable) (hsub : t.styles ⊆ u.styles) : t.Readable :=
  fun name hname => h name (hsub hname)

@[simp] theorem styles_nil (cs : List Char) : (⟨cs, []⟩ : StyledText).styles = [] := rfl

@[simp] theorem styles_chars (t : StyledText) (cs : List Char) : ({ t with chars := cs } : StyledText).styles = t.styles :=
  rfl

@[simp] theorem styles_append (t u : StyledText) : (t.append u).styles = t.styles ++ u.styles := by
  simp [append, styles, Span.shift]

@[simp] theorem styles_padRight (t : StyledText) (n : Nat) : (t.padRight n).styles = t.styles := rfl

@[simp] theorem styles_padLeft (t : StyledText) (n : Nat) : (t.padLeft n).styles = t.styles := by
  simp [padLeft, styles, Span.shift]

@[simp] theorem styles_extendRight (t : StyledText) (n : Nat) : (t.extendRight n).styles = t.styles := by
  simp only [extendRight, styles, List.map_map]
  refine List.map_congr_left fun s _ => ?_
  dsimp only [Function.comp]
  split <;> rfl

theorem styles_slice_subset (t : StyledText) (start stop : Nat) : (t.slice start stop).styles ⊆ t.styles := by
  intro name hname
  obtain ⟨piece, hpiece, rfl⟩ := List.mem_map.mp hname
  obtain ⟨s, hs, hclip⟩ := List.mem_filterMap.mp hpiece
  have hstyle : piece.style = s.style := by
    unfold Span.clip? at hclip
    split at hclip
    · obtain rfl := Option.some.inj hclip
      rfl
    · cases hclip
  exact hstyle ▸ List.mem_map_of_mem hs

theorem styles_withChars_subset (t : StyledText) (cs : List Char) : (t.withChars cs).styles ⊆ t.styles := by
  unfold withChars
  dsimp only
  split
  · have hkept : ((t.spans.filter fun s => s.start < cs.length).map fun s => { s with stop := min s.stop cs.length }).map
        Span.style = (t.spans.filter fun s => s.start < cs.length).map Span.style := by
      simp [Function.comp_def]
    rw [styles, hkept]
    exact List.map_subset _ List.filter_sublist.subset
  · exact List.Subset.refl _

theorem styles_subset_of_mem_cutAt {t piece : StyledText} {places : List Nat} (h : piece ∈ t.cutAt places) :
    piece.styles ⊆ t.styles := by
  unfold cutAt at h
  split at h
  · obtain rfl := List.mem_singleton.mp h
    exact List.Subset.refl _
  · obtain ⟨⟨start, stop⟩, _, rfl⟩ := List.mem_map.mp h
    exact styles_slice_subset t start stop

theorem styles_subset_of_mem_lines {t line : StyledText} (h : line ∈ t.lines) : line.styles ⊆ t.styles := by
  unfold lines at h
  split at h
  · obtain rfl := List.mem_singleton.mp h
    exact List.Subset.refl _
  · obtain ⟨⟨start, stop⟩, _, rfl⟩ := List.mem_map.mp h
    exact styles_slice_subset t start stop

end StyledText

/-! ### Lines -/

theorem styles_fillToStops_subset {names : List String} {parts : List StyledText} (h : ∀ p ∈ parts, p.styles ⊆ names)
    (stop position : Nat) : (fillToStops stop position parts).styles ⊆ names := by
  induction parts generalizing position with
  | nil => exact List.nil_subset _
  | cons part rest ih =>
    cases rest with
    | nil => exact h part List.mem_cons_self
    | cons next rest =>
      simp only [fillToStops, StyledText.styles_append, StyledText.styles_extendRight]
      exact List.append_subset.mpr ⟨h part List.mem_cons_self, ih (fun p hp => h p (List.mem_cons_of_mem _ hp)) _⟩

theorem styles_expandTabs_subset (line : StyledText) : (expandTabs line).styles ⊆ line.styles := by
  refine styles_fillToStops_subset (fun p hp => ?_) _ _
  obtain ⟨piece, hpiece, rfl⟩ := List.mem_map.mp hp
  exact (StyledText.styles_subset_of_mem_cutAt hpiece : piece.styles ⊆ line.styles)

theorem styles_truncate_subset (width : Nat) (overflow : Overflow) (line : StyledText) :
    (truncate width overflow line).styles ⊆ line.styles := by
  unfold truncate
  split
  · exact List.Subset.refl _
  · cases overflow <;> exact StyledText.styles_withChars_subset _ _

theorem styles_align_subset (width : Nat) (alignment : Alignment) (overflow : Overflow) (line : StyledText) :
    (align width alignment overflow line).styles ⊆ line.styles := by
  cases alignment with
  | natural => exact styles_truncate_subset _ _ _
  | left => exact styles_truncate_subset _ _ _
  | centre =>
    rw [align, StyledText.styles_padRight, StyledText.styles_padLeft]
    exact List.Subset.trans (styles_truncate_subset _ _ _) (StyledText.styles_withChars_subset _ _)

theorem styles_subset_of_mem_wrap {width : Nat} {alignment : Alignment} {overflow : Overflow} {text line : StyledText}
    (h : line ∈ wrap width alignment overflow text) : line.styles ⊆ text.styles := by
  obtain ⟨whole, hwhole, hline⟩ := List.mem_flatMap.mp h
  obtain ⟨piece, hpiece, rfl⟩ := List.mem_map.mp hline
  calc
    (align width alignment overflow (dropExcessBlanks width piece)).styles
      ⊆ (dropExcessBlanks width piece).styles := styles_align_subset _ _ _ _
    _ ⊆ piece.styles := StyledText.styles_withChars_subset _ _
    _ ⊆ (expandTabs whole).styles := StyledText.styles_subset_of_mem_cutAt hpiece
    _ ⊆ whole.styles := styles_expandTabs_subset whole
    _ ⊆ text.styles := StyledText.styles_subset_of_mem_lines hwhole

/-! ### Segments -/

theorem segmented_returns {lines : List StyledText} (h : ∀ line ∈ lines, line.Readable) :
    ∃ segments, segmented lines = .ok segments := by
  refine Except.mapM_returns_iff.mpr fun line hline => ?_
  have hspans : ∃ found, line.spans.mapM (fun s => (Style.parse? s.style).mapError MarkupFault.colour) = .ok found := by
    refine Except.mapM_returns_iff.mpr fun s hs => ?_
    obtain ⟨style, hstyle⟩ := h line hline s.style (List.mem_map_of_mem hs)
    exact ⟨style, by rw [hstyle]; rfl⟩
  obtain ⟨found, hfound⟩ := hspans
  exact ⟨line.segments, by rw [hfound]; rfl⟩

theorem segmented_wrap_returns {text : StyledText} (h : text.Readable) (width : Nat) (alignment : Alignment)
    (overflow : Overflow) : ∃ lines, segmented (wrap width alignment overflow text) = .ok lines :=
  segmented_returns fun _ hline => h.of_subset (styles_subset_of_mem_wrap hline)

end Amalgam.Console
