import Mathlib.Data.List.DropRight
import Mathlib.Data.List.Infix

/-!
The components of a text.

`components sep text` are the non-empty pieces between the separators. A pattern without
separators stands in the text exactly if it stands in one component
(`infix_iff_component`), so a search over the whole text does not see where a component
begins or ends.

A separator cuts the text in two (`components_append_cons`). From this follow the components
of a text that was put together from pieces (`components_intercalate`), and that a finer cut
may be made piece by piece (`components_components`).
-/

namespace Components

variable {α : Type} {sep : α → Bool}

def components (sep : α → Bool) (text : List α) : List (List α) :=
  (text.splitOnP sep).filter fun piece => !piece.isEmpty

/-- A list that has no separator. -/
def Solid (sep : α → Bool) (pattern : List α) : Prop := ∀ x ∈ pattern, sep x = false

variable {pattern text : List α}

theorem prefix_iff_takeWhile (solid : Solid sep pattern) :
    pattern <+: text ↔ pattern <+: text.takeWhile fun x => !sep x := by
  induction pattern generalizing text with
  | nil => simp
  | cons x pattern ih =>
      have later : Solid sep pattern := fun z member => solid z (List.mem_cons_of_mem x member)
      cases text with
      | nil => simp
      | cons y text =>
          by_cases separates : sep y = true
          · have other : x ≠ y := by
              rintro rfl
              rw [solid x List.mem_cons_self] at separates
              cases separates
            simp [separates, List.cons_prefix_cons, other]
          · rw [List.takeWhile_cons_of_pos (by simpa using separates), List.cons_prefix_cons,
              List.cons_prefix_cons, ih later]

/-- The first piece ends at the first separator. -/
theorem splitOnP_eq_takeWhile (sep : α → Bool) (text : List α) :
    ∃ rest, text.splitOnP sep = (text.takeWhile fun x => !sep x) :: rest := by
  induction text with
  | nil => exact ⟨[], rfl⟩
  | cons y text ih =>
      obtain ⟨rest, split⟩ := ih
      rw [List.splitOnP_cons_eq_if_modifyHead]
      by_cases separates : sep y = true
      · exact ⟨text.splitOnP sep, by simp [separates]⟩
      · exact ⟨rest, by simp [separates, split]⟩

theorem infix_iff_piece (nonempty : pattern ≠ []) (solid : Solid sep pattern) :
    pattern <:+: text ↔ ∃ piece ∈ text.splitOnP sep, pattern <:+: piece := by
  induction text with
  | nil => simp
  | cons y text ih =>
      rw [List.infix_cons_iff, prefix_iff_takeWhile solid, ih,
        List.splitOnP_cons_eq_if_modifyHead]
      obtain ⟨rest, split⟩ := splitOnP_eq_takeWhile sep text
      by_cases separates : sep y = true
      · simp [separates, nonempty]
      · -- the pattern may begin at `y` and reach into the first piece of the rest
        simp [separates, split, List.infix_cons_iff, or_assoc]

/-- A pattern without separators stands within one component. -/
theorem infix_iff_component (nonempty : pattern ≠ []) (solid : Solid sep pattern) :
    pattern <:+: text ↔ ∃ component ∈ components sep text, pattern <:+: component := by
  rw [infix_iff_piece nonempty solid]
  constructor
  · rintro ⟨piece, member, within⟩
    refine ⟨piece, List.mem_filter.mpr ⟨member, ?_⟩, within⟩
    cases piece with
    | nil => exact absurd (List.infix_nil.mp within) nonempty
    | cons x piece => rfl
  · rintro ⟨component, member, within⟩
    exact ⟨component, List.mem_of_mem_filter member, within⟩

/-! ### Cutting at a separator -/

/-- A text has no separator, or it is cut at its first one. -/
theorem cut_induction (sep : α → Bool) {motive : List α → Prop}
    (whole : ∀ text, Solid sep text → motive text)
    (cut : ∀ piece s text, Solid sep piece → sep s = true → motive text →
      motive (piece ++ s :: text))
    (text : List α) : motive text := by
  -- the piece read so far has no separator
  suffices ∀ piece, Solid sep piece → motive (piece ++ text) from
    this [] fun _ member => absurd member List.not_mem_nil
  induction text with
  | nil =>
      intro piece solid
      rw [List.append_nil]
      exact whole piece solid
  | cons x text ih =>
      intro piece solid
      by_cases separates : sep x = true
      · have rest := ih [] fun _ member => absurd member List.not_mem_nil
        exact cut piece x text solid separates rest
      · have longer : Solid sep (piece ++ [x]) := by
          intro y member
          rcases List.mem_append.mp member with before | last
          · exact solid y before
          · rw [List.mem_singleton.mp last]
            exact eq_false_of_ne_true separates
        have rejoined : piece ++ x :: text = piece ++ [x] ++ text := by simp
        rw [rejoined]
        exact ih (piece ++ [x]) longer

@[simp] theorem components_nil : components sep [] = [] := rfl

theorem components_of_solid (nonempty : text ≠ []) (solid : Solid sep text) :
    components sep text = [text] := by
  rw [components, List.splitOnP_eq_singleton solid]
  simp [nonempty]

theorem components_append_cons {s : α} (separates : sep s = true) (before after : List α) :
    components sep (before ++ s :: after) = components sep before ++ components sep after := by
  rw [components, List.splitOnP_append_cons before after separates, List.filter_append]
  rfl

/-- A component is not empty and has no separator. -/
theorem of_mem_components {component : List α} (member : component ∈ components sep text) :
    component ≠ [] ∧ Solid sep component := by
  induction text using (cut_induction sep) with
  | whole text solid =>
      by_cases empty : text = []
      · simp [empty] at member
      · rw [components_of_solid empty solid, List.mem_singleton] at member
        rw [member]
        exact ⟨empty, solid⟩
  | cut piece s text solid separates ih =>
      rw [components_append_cons separates, List.mem_append] at member
      rcases member with first | later
      · by_cases empty : piece = []
        · simp [empty] at first
        · rw [components_of_solid empty solid, List.mem_singleton] at first
          rw [first]
          exact ⟨empty, solid⟩
      · exact ih later

theorem components_congr {sep' : α → Bool} (same : ∀ x ∈ text, sep x = sep' x) :
    components sep text = components sep' text := by
  have pieces : text.splitOnP sep = text.splitOnP sep' := by
    induction text with
    | nil => rfl
    | cons x text ih =>
        rw [List.splitOnP_cons_eq_if_modifyHead, List.splitOnP_cons_eq_if_modifyHead,
          same x List.mem_cons_self, ih fun y member => same y (List.mem_cons_of_mem x member)]
  rw [components, pieces, components]

theorem components_intercalate {s : α} (separates : sep s = true) (pieces : List (List α)) :
    components sep ([s].intercalate pieces) = pieces.flatMap (components sep) := by
  induction pieces with
  | nil => rfl
  | cons piece pieces ih =>
      cases pieces with
      | nil => simp
      | cons next pieces =>
          rw [List.intercalate_cons_cons, List.append_assoc, List.singleton_append,
            components_append_cons separates, ih]
          rfl

/-- Separators at the front of a text make no component. -/
theorem components_dropWhile {drops : α → Bool} (separate : ∀ x, drops x = true → sep x = true)
    (text : List α) : components sep (text.dropWhile drops) = components sep text := by
  induction text with
  | nil => rfl
  | cons x text ih =>
      rw [List.dropWhile_cons]
      by_cases dropped : drops x = true
      · rw [if_pos dropped, ih]
        exact (components_append_cons (separate x dropped) [] text).symm
      · rw [if_neg dropped]

/-- Separators at the end of a text make no component. -/
theorem components_rdropWhile {drops : α → Bool} (separate : ∀ x, drops x = true → sep x = true)
    (text : List α) : components sep (text.rdropWhile drops) = components sep text := by
  induction text using List.reverseRecOn with
  | nil => rfl
  | append_singleton text x ih =>
      rw [List.rdropWhile_concat]
      by_cases dropped : drops x = true
      · rw [if_pos dropped, ih, components_append_cons (separate x dropped), components_nil,
          List.append_nil]
      · rw [if_neg dropped]

/-- A finer cut may be made in each component of a coarser one. -/
theorem components_components {fine : α → Bool} (finer : ∀ x, sep x = true → fine x = true)
    (text : List α) : (components sep text).flatMap (components fine) = components fine text := by
  have one {text : List α} (solid : Solid sep text) :
      (components sep text).flatMap (components fine) = components fine text := by
    by_cases empty : text = []
    · rw [empty]
      rfl
    · rw [components_of_solid empty solid, List.flatMap_singleton]
  induction text using (cut_induction sep) with
  | whole text solid => exact one solid
  | cut piece s text solid separates ih =>
      rw [components_append_cons separates, components_append_cons (finer s separates),
        List.flatMap_append, ih, one solid]

end Components
