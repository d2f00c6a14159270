import LineEditor.Proofs.Surface.Flat
import LineEditor.Proofs.Surface.Points

/-!
# Selecting

The selection of a surface is set in offsets and read in offsets. What is read is what was set, cut
to the text. Flat surfaces keep the bounds as they are; structured content turns both ends into
points of its forest and back.
-/

namespace LineEditor.Surface

/-- The number of characters does not depend on what is selected. -/
@[simp] theorem length_select (s : Surface) (b : Bounds) : (s.select b).length = s.length :=
  congrArg List.length (s.text_select b)

/-- Reading the two points of structured content gives the offsets that they stand for, in order. -/
theorem selection_of_points {nodes : Forest} {viewport : Viewport} {a f : Point} {b : Bounds}
    (ha : nodes.offsetOf a = b.start) (hf : nodes.offsetOf f = b.stop) (hle : b.start ≤ b.stop) :
    (Surface.mk (.content nodes (some (a, f))) viewport).selection = some b := by
  change some (Bounds.mk (min (nodes.offsetOf a) (nodes.offsetOf f))
    (max (nodes.offsetOf a) (nodes.offsetOf f))) = some b
  rw [ha, hf, Nat.min_eq_left hle, Nat.max_eq_right hle]

/-- A selection is read as it was set, cut to the text. -/
theorem selection_select (s : Surface) (b : Bounds) :
    (s.select b).selection = some (b.clamp s.length) := by
  obtain ⟨body, viewport⟩ := s
  cases body with
  | field t selection => exact congrArg some (b.clamp_clamp t.length)
  | plain t selection => exact congrArg some (b.clamp_clamp t.length)
  | content nodes selection =>
    let s : Surface := ⟨.content nodes selection, viewport⟩
    have hle := b.clamp_start_le s.length
    have hstop : (b.clamp s.length).stop ≤ nodes.length :=
      nodes.length_eq_length_content ▸ b.clamp_stop_le s.length
    exact selection_of_points (nodes.offsetOf_locate (Nat.le_trans hle hstop))
      (nodes.offsetOf_locate hstop) hle

/-- **Offsets and points.** Every offset into the text of a forest is located at a place in the
forest, which stands for that offset. So the selection of a surface, structured or not, is read as
it was set, cut to the text. -/
theorem locates_and_selects :
    (∀ (nodes : Forest) (n : Nat), n ≤ nodes.length →
      nodes.HasPlace (nodes.locate n) ∧ nodes.offsetOf (nodes.locate n) = n) ∧
    ∀ (s : Surface) (b : Bounds), (s.select b).selection = some (b.clamp s.length) :=
  ⟨fun nodes _ hn ↦ ⟨nodes.hasPlace_locate hn, nodes.offsetOf_locate hn⟩, selection_select⟩

/-- The end of a text behind which there are an empty text and an empty element. -/
theorem locates_and_selects_before_empty :
    let nodes : Forest := .leaf (.text "ab".toList)
      (.element ['b'] (.leaf (.text []) (.element ['i'] .nil .nil)) .nil)
    nodes.locate 2 = ⟨[1, 1], 0⟩ ∧ nodes.HasPlace (nodes.locate 2) ∧
      nodes.offsetOf (nodes.locate 2) = 2 := by
  intro nodes
  have hle : 2 ≤ nodes.length := by decide
  exact ⟨by decide, locates_and_selects.1 nodes 2 hle⟩

end LineEditor.Surface
