import LineEditor.Proofs.Edit.Leads
import LineEditor.Surface

/-!
# Flat surfaces

Fields and plain text keep their text as one piece: they are *flat*. Replacing a stretch of a flat
surface is splicing its text, and the selection is then the caret behind the new text. Structured
content, which keeps its text in the leaves of a forest, is treated apart.
-/

namespace LineEditor.Surface

variable {s : Surface}

/-- The text is kept as one piece. -/
def IsFlat (s : Surface) : Prop :=
  match s.body with
  | .field .. | .plain .. => True
  | .content .. => False

theorem isFlat_ofField (t : Text) : (ofField t).IsFlat := trivial

theorem isFlat_ofPlain (t : Text) : (ofPlain t).IsFlat := trivial

/-! ## What changes no text -/

/-- Selecting changes no text. -/
@[simp] theorem text_select (s : Surface) (b : Bounds) : (s.select b).text = s.text := by
  obtain ⟨body, viewport⟩ := s
  cases body <;> rfl

theorem IsFlat.select (h : s.IsFlat) (b : Bounds) : (s.select b).IsFlat := by
  obtain ⟨body, viewport⟩ := s
  cases body with
  | field | plain => trivial
  | content => exact h.elim

/-! ## Replacing -/

theorem IsFlat.replace (h : s.IsFlat) (start stop : Nat) (piece : Text) :
    (s.replace start stop piece).IsFlat := by
  obtain ⟨body, viewport⟩ := s
  cases body with
  | field | plain => trivial
  | content => exact h.elim

theorem IsFlat.text_replace (h : s.IsFlat) (start stop : Nat) (piece : Text) :
    (s.replace start stop piece).text
      = s.text.splice (min start s.length)
          (max (min start s.length) (min stop s.length)) piece := by
  obtain ⟨body, viewport⟩ := s
  cases body with
  | field | plain => rfl
  | content => exact h.elim

theorem IsFlat.selection_replace (h : s.IsFlat) (start stop : Nat) (piece : Text) :
    (s.replace start stop piece).selection
      = some (.collapsed (min start s.length + piece.length)) := by
  have hlen : min start s.length + piece.length ≤ (s.replace start stop piece).length := by
    change _ ≤ (s.replace start stop piece).text.length
    rw [h.text_replace, Text.splice, List.length_append, List.length_append, List.length_take,
      ← length]
    omega
  have hclamp : (Bounds.collapsed (min start s.length + piece.length)).clamp
      (s.replace start stop piece).length = .collapsed (min start s.length + piece.length) :=
    Bounds.clamp_of_le (Nat.le_refl _) hlen
  obtain ⟨body, viewport⟩ := s
  cases body with
  | field | plain => exact congrArg some hclamp
  | content => exact h.elim

/-- An edit that leads from the text of a flat surface is made by replacing. -/
theorem IsFlat.text_replace_of_leads (h : s.IsFlat) {e : Edit} {u : Text} (he : e.Leads s.text u) :
    (s.replace e.start e.oldEnd e.inserted).text = u := by
  have hstart : min e.start s.length = e.start := Nat.min_eq_left he.start_le_length
  have hend : min e.oldEnd s.length = e.oldEnd := Nat.min_eq_left he.oldEnd_le_length
  have hle : e.start ≤ e.oldEnd := Nat.le_add_right _ _
  rw [h.text_replace, hstart, hend, Nat.max_eq_right hle]
  exact he.apply_eq

end LineEditor.Surface
