import LineEditor.Proofs.Command.Segments
import LineEditor.Proofs.Document.Chain
import LineEditor.Proofs.Session.Commands

/-!
# Undoing and redoing from the command line

The lines `undo` and `redo` take one step through the history each. Given again and again until
nothing is left, they take back all records and make all of them again, whatever text the records
are met with. So where this ends is known from the records and the text, and undoing restores a
certain text exactly if the records, taken back one by one, lead there.
-/

namespace LineEditor

namespace Scene

/-- The scene after the line `undo`, as long as there is something to undo. -/
def undone? (s : Scene) : Option Scene :=
  if s.document.history.canUndo then some (s.perform "undo".toList).2 else none

/-- The scene after the line `redo`, as long as there is something to redo. -/
def redone? (s : Scene) : Option Scene :=
  if s.document.history.canRedo then some (s.perform "redo".toList).2 else none

/-- Undoing until nothing is left restores the text `t`, and redoing until nothing is left then
restores the text of now, if there is nothing to redo now. -/
def Restores (s : Scene) (t : Text) : Prop :=
  ∃ s₁, Exhausts undone? s s₁ ∧ s₁.document.text = t ∧
    (s.document.history.undone = [] →
      ∃ s₂, Exhausts redone? s₁ s₂ ∧ s₂.document.text = s.document.text)

end Scene

namespace Run

theorem run_line_undo (s : Scene) :
    (line "undo".toList).run s
      = (walk Document.undo? >>= fun _ ↦ bookmark currentMark).run s := by
  have hscan : (Command.scan "undo".toList).toOption
      = some (⟨[], some .undo, false, 1, []⟩, []) := by
    decide +kernel
  unfold line lineWith
  rw [Command.commands_of_scan hscan rfl]
  rfl

theorem run_line_redo (s : Scene) :
    (line "redo".toList).run s
      = (walk Document.redo? >>= fun _ ↦ bookmark currentMark).run s := by
  have hscan : (Command.scan "redo".toList).toOption
      = some (⟨[], some .redo, false, 1, []⟩, []) := by
    decide +kernel
  unfold line lineWith
  rw [Command.commands_of_scan hscan rfl]
  rfl

end Run

namespace Scene

variable {s : Scene}

theorem aside_perform_undo (s : Scene) :
    (s.document.undoStep.getD s.document).Aside (s.perform "undo".toList).2.document := by
  have hwalk := (Run.aside_walk Document.undo? s).trans
    (Run.aside_run_bind (fun _ ↦ Run.keeps_bookmark currentMark) s)
  rw [← Run.run_line_undo] at hwalk
  exact hwalk.trans (s.aside_perform _)

theorem aside_perform_redo (s : Scene) :
    (s.document.redoStep.getD s.document).Aside (s.perform "redo".toList).2.document := by
  have hwalk := (Run.aside_walk Document.redo? s).trans
    (Run.aside_run_bind (fun _ ↦ Run.keeps_bookmark currentMark) s)
  rw [← Run.run_line_redo] at hwalk
  exact hwalk.trans (s.aside_perform _)

/-- The line `undo` walks through the history as a step back does. -/
theorem walks_undone : Document.Walks document undone? History.back? (·.edit.inverse) := by
  refine ⟨History.isStep_back, fun s hs ↦ ?_, fun s hs r h hback ↦ ?_⟩
  · unfold History.back? at hs
    split at hs
    · next hdone => rw [undone?, History.canUndo, hdone]; rfl
    · exact absurd hs nofun
  · obtain ⟨d, hstep, htext, hhistory, hgroup, hflat⟩ :=
      Document.walks_undoStep.next s.document hs r h hback
    have haside := s.aside_perform_undo
    rw [hstep, Option.getD_some] at haside
    refine ⟨(s.perform "undo".toList).2, ?_, haside.text.trans htext,
      haside.history.trans hhistory, haside.group.trans hgroup, haside.surface ▸ hflat⟩
    unfold History.back? at hback
    split at hback
    · exact absurd hback nofun
    · next hdone => rw [undone?, History.canUndo, hdone]; rfl

/-- The line `redo` walks through the history as a step forward does. -/
theorem walks_redone : Document.Walks document redone? History.forward? (·.edit) := by
  refine ⟨History.isStep_forward, fun s hs ↦ ?_, fun s hs r h hforward ↦ ?_⟩
  · unfold History.forward? at hs
    split at hs
    · next hundone => rw [redone?, History.canRedo, hundone]; rfl
    · exact absurd hs nofun
  · obtain ⟨d, hstep, htext, hhistory, hgroup, hflat⟩ :=
      Document.walks_redoStep.next s.document hs r h hforward
    have haside := s.aside_perform_redo
    rw [hstep, Option.getD_some] at haside
    refine ⟨(s.perform "redo".toList).2, ?_, haside.text.trans htext,
      haside.history.trans hhistory, haside.group.trans hgroup, haside.surface ▸ hflat⟩
    unfold History.forward? at hforward
    split at hforward
    · exact absurd hforward nofun
    · next hundone => rw [redone?, History.canRedo, hundone]; rfl

/-- Undoing restores a text exactly if the records done, taken back one by one from the text of now,
lead to it, and redoing the text of now if the records lead back there. -/
theorem restores_iff (hs : s.document.surface.IsFlat) {t : Text} :
    s.Restores t ↔ History.rewound s.document.history.done s.document.text = t ∧
      (s.document.history.undone = [] →
        History.replayed s.document.history.done.reverse t = s.document.text) := by
  obtain ⟨s₁, hundo, htext, -, hrecords, hflat⟩ := walks_undone.exists_exhausts_back hs
  obtain ⟨s₂, hredo, hlast⟩ := walks_redone.exists_exhausts_forward hflat
  rw [hrecords, History.records] at hlast
  rw [← htext]
  -- there is only one way to exhaust the steps, the one followed here
  constructor
  · rintro ⟨s₁', hundo', rfl, hrest⟩
    obtain rfl := hundo'.unique hundo
    refine ⟨rfl, fun hnil ↦ ?_⟩
    obtain ⟨s₂', hredo', hlast'⟩ := hrest hnil
    obtain rfl := hredo'.unique hredo
    rw [← hlast', hlast, hnil, List.append_nil]
  · rintro ⟨rfl, hrest⟩
    refine ⟨s₁, hundo, rfl, fun hnil ↦ ⟨s₂, hredo, ?_⟩⟩
    rw [hlast, hnil, List.append_nil]
    exact hrest hnil

/-- Where the history is a chain that starts at a text, undoing restores it. -/
theorem restores_of_chain (hs : s.document.surface.IsFlat) {t u : Text}
    (hc : s.document.history.Chain t s.document.text u) : s.Restores t :=
  (restores_iff hs).mpr ⟨hc.rewound_done, fun _ ↦ hc.done.replayed_eq⟩

end Scene

end LineEditor
