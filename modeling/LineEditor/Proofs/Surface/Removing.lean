import LineEditor.Proofs.Surface.Cuts
import LineEditor.Proofs.Surface.Selecting

/-!
# Deleting from structured content

Structured content from which a stretch is deleted has all other characters left, in their order and
in the elements they were in: nothing is unwrapped, and nothing gets into another element. An
element whose characters are all deleted goes with them, if it had any.

The selection, which is kept as points of the forest, is made anew, at the place where the stretch
was.
-/

namespace LineEditor

namespace Forest

theorem replace_nil (f : Forest) (start stop : Nat) :
    f.replace start stop [] = f.cleared start stop := by
  rw [replace, if_pos rfl, cleared]

/-- In front of a stretch there is as much as before. -/
theorem start_le_length_cleared (f : Forest) {start stop : Nat} (h : start ≤ stop)
    (hstart : start ≤ f.length) : start ≤ (f.cleared start stop).length := by
  have htake : (f.content.take start).length = start :=
    List.length_take_of_le (f.length_eq_length_content ▸ hstart)
  rw [length_eq_length_content, content_cleared f h, List.length_append, htake]
  exact Nat.le_add_right _ _

end Forest

namespace Surface

/-- Replacing by nothing in structured content clears the stretch, cut to the text, and puts both
ends of the selection where it was. -/
theorem replace_nil_content (nodes : Forest) (selection : Option (Point × Point))
    (viewport : Viewport) (start stop : Nat) :
    let b := Bounds.clamp ⟨start, stop⟩ nodes.length
    let nodes' := nodes.cleared b.start b.stop
    (Surface.mk (.content nodes selection) viewport).replace start stop []
      = ⟨.content nodes' (some (nodes'.locate b.start, nodes'.locate b.start)), viewport⟩ := by
  intro b nodes'
  have hlength : (Surface.mk (.content nodes selection) viewport).length = nodes.length :=
    nodes.length_eq_length_content.symm
  simp only [Surface.replace, hlength, Forest.replace_nil, List.length_nil, Nat.add_zero]
  rw [Nat.max_comm]
  rfl

/-- **Deleting loses and moves no formatting.** Of structured content, whatever its tree, the
characters of a stretch are deleted, the stretch being cut to the text. Every other character stays,
in its order and with the elements that were around it, and the selection is collapsed where the
stretch started. -/
theorem deletes_stretch (nodes : Forest) (selection : Option (Point × Point))
    (viewport : Viewport) (start stop : Nat) :
    let s : Surface := ⟨.content nodes selection, viewport⟩
    let b := Bounds.clamp ⟨start, stop⟩ s.length
    let s' := s.replace start stop []
    s'.text = s.text.take b.start ++ s.text.drop b.stop ∧
    (∃ nodes' points, s'.body = .content nodes' points ∧
      nodes'.characters []
        = (nodes.characters []).take b.start ++ (nodes.characters []).drop b.stop) ∧
    s'.selection = some (.collapsed b.start) := by
  intro s b s'
  have hb : b = Bounds.clamp ⟨start, stop⟩ nodes.length :=
    congrArg (Bounds.clamp ⟨start, stop⟩) nodes.length_eq_length_content.symm
  have hs' : s' = _ := replace_nil_content nodes selection viewport start stop
  rw [← hb] at hs'
  have hle : b.start ≤ b.stop := Bounds.clamp_start_le _ _
  have hstop : b.stop ≤ nodes.length := hb ▸ Bounds.clamp_stop_le _ _
  have hback : (nodes.cleared b.start b.stop).offsetOf
      ((nodes.cleared b.start b.stop).locate b.start) = b.start :=
    Forest.offsetOf_locate _ (nodes.start_le_length_cleared hle (Nat.le_trans hle hstop))
  rw [hs']
  refine ⟨nodes.content_cleared hle, ⟨_, _, rfl, nodes.characters_cleared hle []⟩, ?_⟩
  exact selection_of_points (b := .collapsed b.start) hback hback (Nat.le_refl _)

/-- Deleting from the middle of one element, over another one, to the middle of a third that is in
a fourth: what is left of a bold word stays bold, and what is left of a linked one stays linked. -/
example :
    let nodes : Forest := .element ['b'] (.leaf (.text "bold".toList) .nil)
      (.element ['i'] (.leaf .lineBreak .nil)
        (.element ['u'] (.element ['a'] (.leaf (.text "link".toList) .nil) .nil) .nil))
    let s : Surface := (Surface.ofContent nodes).replace 2 7 []
    s.body = .content
      (.element ['b'] (.leaf (.text "bo".toList) .nil)
        (.element ['u'] (.element ['a'] (.leaf (.text "nk".toList) .nil) .nil) .nil))
      (some (⟨[1, 0, 0], 0⟩, ⟨[1, 0, 0], 0⟩)) := by
  rfl

end Surface

end LineEditor
