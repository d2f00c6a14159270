import LineEditor.Proofs.Document.Chain
import LineEditor.Proofs.Edit.Least
import LineEditor.Proofs.Edit.Rebase
import LineEditor.Proofs.Surface.Calls

/-!
# Taking back one record

Replaying an edit works the edit out once more, of the text that stands at its place and the text to
put there. For a reduced edit this changes nothing, so that replaying it is one call to the surface
with the offsets of the edit itself. Where the edit still belongs to the text, such a call makes
what it is to make exactly if it does not misplace its text; on flat surfaces it always does.

Taking back the record on top of the history and making it again are two such calls.
-/

namespace LineEditor

/-- The call to a surface that makes an edit. -/
def Edit.call (e : Edit) : Surface.Call := ⟨e.start, e.oldEnd, e.inserted⟩

/-- There is always room for the record put on top of a history. -/
theorem History.done_add (h : History) (r : Record) :
    (h.add r).done = r :: h.done.take (h.capacity - 1) := List.take_cons h.capacity_pos

/-- A record put on top of a history is the next to be taken back. -/
theorem History.exists_back?_add (h : History) (r : Record) :
    ∃ h', (h.add r).back? = some (r, h') := by
  rw [back?, h.done_add]
  exact ⟨_, rfl⟩

variable {e : Edit} {t u : Text}

/-- The call of an edit replaces what the edit removes. -/
theorem Edit.Leads.stretch_call {s : Surface} (h : e.Leads s.text u) :
    e.call.first s = e.start ∧ e.call.last s = e.oldEnd := by
  have hold : e.oldEnd ≤ s.length := h.oldEnd_le_length
  have hstart : e.start ≤ e.oldEnd := Nat.le_add_right _ _
  have hfirst : e.call.first s = e.start := Nat.min_eq_left (Nat.le_trans hstart hold)
  refine ⟨hfirst, ?_⟩
  rw [Surface.Call.last, hfirst, call, Nat.min_eq_left hold, Nat.max_eq_right hstart]

/-- Where an edit leads to is what its call is to make. -/
theorem Edit.Leads.target_call {s : Surface} (h : e.Leads s.text u) : e.call.target s = u := by
  obtain ⟨hfirst, hlast⟩ := h.stretch_call
  rw [Surface.Call.target, hfirst, hlast, ← h.apply_eq]
  rfl

namespace Document

variable {d : Document}

/-! ## Replaying on any surface -/

/-- A reduced edit that belongs to the text is the one made when it is replayed. -/
theorem fst_replace_of_isReduced (he : e.IsReduced) (h : e.Leads d.text u) (kind : EditKind) :
    (d.replace e.start e.oldEnd e.inserted kind).1 = some e := by
  have hclamp : (Bounds.mk e.start e.oldEnd).clamp d.length = ⟨e.start, e.oldEnd⟩ :=
    Bounds.clamp_of_le (Nat.le_add_right _ _) h.oldEnd_le_length
  have hslice : d.text.slice e.start e.oldEnd = e.removed := h.inverse.slice_start_newEnd
  rw [fst_replace, hclamp, hslice, he.between_eq, Option.map_some, Edit.shift, Nat.zero_add]

theorem text_replay (he : e.IsReduced) (h : e.Leads d.text u) (kind : EditKind) :
    (d.replay kind e).2.text = (d.surface.call e.call).text := by
  rw [replay, text_select, replace_of_some (fst_replace_of_isReduced he h kind)]
  rfl

/-- Replaying leads where the edit leads unless the surface misplaces the text. -/
theorem text_replay_iff (he : e.IsReduced) (h : e.Leads d.text u) (kind : EditKind) :
    (d.replay kind e).2.text = u ↔ ¬ d.surface.Misplaces e.call := by
  rw [text_replay he h kind, ← Surface.text_call_iff, h.target_call]

/-! ## One record back and forth -/

/-- A record on top of the history can be taken back and made again. This restores the two texts
between which its edit leads exactly if neither call misplaces its text. -/
theorem exists_undo_redo {h : History} {r : Record} (hd : d.history = h.add r)
    (hr : r.edit.IsReduced) (hleads : r.edit.Leads t d.text) :
    ∃ d₁ d₂, d.undoStep = some d₁ ∧ d₁.redoStep = some d₂ ∧
      (d₁.text = t ∧ d₂.text = d.text ↔
        ¬ d.surface.Misplaces r.edit.inverse.call ∧ ¬ d₁.surface.Misplaces r.edit.call) ∧
      (d.surface.IsFlat → d₁.surface.IsFlat) := by
  obtain ⟨h', hback⟩ := h.exists_back?_add r
  have hforward := History.forward?_of_back? hback
  let d₁ := ({ d with history := h' }.replay .undo r.edit.inverse).2
  have hundo : d.undoStep = some d₁ := by
    rw [undoStep, undo?, hd, hback]
    rfl
  have hhistory : d₁.history = h' := history_replay rfl _
  let d₂ := ({ d₁ with history := { h.add r with isSealed := true } }.replay .redo r.edit).2
  have hredo : d₁.redoStep = some d₂ := by
    rw [redoStep, redo?, hhistory, hforward]
    rfl
  have hflat : d.surface.IsFlat → d₁.surface.IsFlat := fun hflat ↦
    isFlat_replay (d := { d with history := h' }) hflat _ _
  have htext : d₁.text = t ↔ ¬ d.surface.Misplaces r.edit.inverse.call :=
    text_replay_iff (d := { d with history := h' }) hr.inverse hleads.inverse .undo
  refine ⟨d₁, d₂, hundo, hredo, ?_, hflat⟩
  rw [← htext]
  refine and_congr_right fun hfirst ↦ ?_
  have hleads' : r.edit.Leads d₁.text d.text := by
    rw [hfirst]
    exact hleads
  exact text_replay_iff (d := { d₁ with history := { h.add r with isSealed := true } }) hr hleads'
    .redo

end Document

end LineEditor
