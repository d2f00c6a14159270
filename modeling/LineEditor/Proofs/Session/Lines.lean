import LineEditor.Cli
import LineEditor.Proofs.Session.Files
import LineEditor.Proofs.Session.Turns

/-!
# What lines of commands keep

All that a line of commands does to the document is put together from a few operations: edits, the
two steps through the history, opening and closing groups, forgetting the history, and noting
whether the text is stored. A relation between scenes that holds across asides and across these
operations holds across whole lines, with global commands and failures half way: a `LineFrame`.
-/

namespace LineEditor

/-- A document has been handled by the ways in which commands handle it, and by nothing else. -/
inductive Document.Handled : Document → Document → Prop
  /-- The text is edited, or left alone. -/
  | edited {d d' : Document} (h : d.Edited d') : Handled d d'
  /-- The text is stored, or is about to be. -/
  | setStatus (d : Document) (status : SaveStatus) : Handled d { d with status := status }
  /-- All edits are forgotten. -/
  | clearHistory (d : Document) : Handled d d.clearHistory
  /-- A group of edits is opened. -/
  | openGroup (d : Document) : Handled d d.openGroup
  /-- The group opened last is closed. -/
  | closeGroup (d : Document) : Handled d d.closeGroup
  /-- An edit is taken back. -/
  | undo {d : Document} {p : Bounds × Document} (h : d.undo? = some p) : Handled d p.2
  /-- An edit taken back is made again. -/
  | redo {d : Document} {p : Bounds × Document} (h : d.redo? = some p) : Handled d p.2
  /-- One comes after another. -/
  | trans {d₁ d₂ d₃ : Document} (h : Handled d₁ d₂) (h' : Handled d₂ d₃) : Handled d₁ d₃

/-- A relation between scenes that holds across all that commands do to the document. -/
class LineFrame (P : Scene → Scene → Prop) : Prop extends SceneFrame P where
  /-- It holds when the document is handled. -/
  handled : ∀ {s : Scene} {d : Document}, s.document.Handled d → P s (s.withDocument d)

instance {P : Scene → Scene → Prop} [LineFrame P] : EditFrame P :=
  ⟨fun h ↦ LineFrame.handled (.edited h)⟩

namespace Run

variable {P : Scene → Scene → Prop} {runLine : Text → Run Unit}

/-! ## Global commands -/

/-- What the commands run on a line keep, the loop of a global command keeps. -/
theorem keeps_globalFrom [StepFrame P] {body : Run Unit} (h : KeepsScene P body) (m : Matcher)
    (expected : Bool) (line last : Nat) : KeepsScene P (globalFrom m expected body line last) := by
  -- there are fewer lines to come after each, whatever is added or removed on it
  induction hn : last + 1 - line using Nat.strongRecOn generalizing line last with
  | ind n ih =>
    rw [globalFrom]
    split
    · next hle =>
      refine keeps_bind keeps_text fun t ↦ keeps_ite ?_ ?_
      · exact keeps_bind (keeps_moveToLine _) fun _ ↦ keeps_bind h fun _ ↦
          keeps_bind keeps_text fun _ ↦ ih _ (hn ▸ linesToCome_lt hle _) _ _ rfl
      · exact ih _ (by omega) _ _ rfl
    · exact keeps_pure _

theorem keeps_global [SceneFrame P] (h : ∀ line, KeepsScene P (runLine line)) (span : Span)
    (parameter : Text) (expected : Bool) :
    KeepsScene P (global runLine span parameter expected) := by
  refine keeps_bind (keeps_startGlobal _) fun (m, body) s ↦ ?_
  have hlines := keeps_globalFrom (keeps_forM h body.lines) m expected (max span.first 1) span.last
  exact SceneFrame.trans (hlines s) (SceneFrame.aside (.of_eq rfl rfl rfl (.refl _)))

theorem keeps_lineWith [StepFrame P] {execute : Command → Run Unit}
    (h : ∀ c, KeepsScene P (execute c)) (line : Text) : KeepsScene P (lineWith execute line) :=
  keeps_forM (fun c ↦ keeps_bind (keeps_orFail c) h) _

/-! ## All commands -/

section

variable [LineFrame P]

theorem keeps_setStatus (status : SaveStatus) : KeepsScene P (setStatus status) :=
  keeps_modifyDocument fun s ↦ LineFrame.handled (.setStatus s.document status)

/-- A file is loaded like any other edit of the whole text. -/
theorem keeps_edit (parameter : Text) (force : Bool) : KeepsScene P (edit parameter force) := by
  refine keeps_bind (keeps_guardChanges _ _) fun _ ↦ keeps_bind (keeps_fileName _) fun _ ↦
    keeps_bind (keeps_load _) fun content ↦ keeps_bind (keeps_modifyDocument fun s ↦ ?_) fun _ ↦
      keeps_moveToLine _
  let edited := (s.document.replace 0 s.document.length content .command).2.clearHistory
  have hedited : s.document.Handled edited :=
    .trans (.edited (.replace s.document _ _ _ _)) (.clearHistory _)
  have hfile := Document.Quiet.settleOptions { edited with status := .clean }
  exact LineFrame.handled ((hedited.trans (.setStatus _ _)).trans (.edited (.quiet (hfile _ _))))

theorem keeps_walk {step : Document → Option (Bounds × Document)}
    (h : ∀ d p, step d = some p → d.Handled p.2) : KeepsScene P (walk step) := by
  refine keeps_modifyAt fun s ↦ LineFrame.handled ?_
  cases hstep : step s.document with
  | none =>
    simp only
    exact .edited (Document.edited_refl _)
  | some p =>
    simp only
    exact .trans (h _ _ hstep) (.edited (Document.edited_moveTo _ _ _))

theorem keeps_grouped {body : Run Unit} (h : KeepsScene P body) : KeepsScene P (grouped body) := by
  intro s
  rw [run_grouped]
  have hopened : P s s.opened := LineFrame.handled (.openGroup _)
  have hclosed : P (body.run s.opened).2 (body.run s.opened).2.closed :=
    LineFrame.handled (.closeGroup _)
  exact SceneFrame.trans (SceneFrame.trans hopened (h s.opened)) hclosed

/-- What the lines that a command may run keep, the command keeps. -/
theorem keeps_dispatch_of_lines (h : ∀ line, KeepsScene P (runLine line)) (name : CommandName)
    (c : Command) (span : Span) : KeepsScene P (dispatch runLine name c span) := by
  cases name with
  | global | notglobal => exact keeps_global h _ _ _
  | undo => exact keeps_walk fun _ _ ↦ .undo
  | redo => exact keeps_walk fun _ _ ↦ .redo
  | edit => exact keeps_edit _ _
  | write | wq | xit => exact keeps_dispatch_write keeps_setStatus runLine c span rfl nofun
  | _ => exact keeps_dispatch runLine c span rfl rfl rfl

theorem keeps_carryOut (h : ∀ line, KeepsScene P (runLine line)) (name : CommandName) (c : Command)
    (span : Span) : KeepsScene P (carryOut runLine name c span) :=
  have hdispatch := keeps_dispatch_of_lines h name c span
  keeps_ite hdispatch (keeps_grouped hdispatch)

theorem keeps_executeWith (h : ∀ line, KeepsScene P (runLine line)) (c : Command) :
    KeepsScene P (executeWith runLine c) := by
  refine keeps_bind (keeps_approach c) fun approached ↦ ?_
  cases approached with
  | none => exact keeps_pure _
  | some target =>
    exact keeps_bind (keeps_carryOut h target.1 c target.2) fun _ ↦ keeps_bookmark _

theorem keeps_innerLine (line : Text) : KeepsScene P (innerLine line) :=
  keeps_lineWith (keeps_executeWith fun _ ↦ keeps_refuse _) line

theorem keeps_execute (c : Command) : KeepsScene P (execute c) :=
  keeps_executeWith keeps_innerLine c

theorem keeps_line (line : Text) : KeepsScene P (Run.line line) := keeps_lineWith keeps_execute line

end

end Run

namespace Scene

variable {P : Scene → Scene → Prop}

/-- Nothing but a note is added behind a line of commands. -/
theorem holds_perform_of_line [GlanceFrame P] {s : Scene} {line : Text}
    (h : P s ((Run.line line).run s).2) : P s (s.perform line).2 := by
  unfold perform
  generalize (Run.line line).run s = r at h
  rcases r with ⟨⟨e⟩ | ⟨⟨⟩⟩, s'⟩
  · cases e with
    | cancelled => exact h
    | _ => exact GlanceFrame.trans h (GlanceFrame.glance (.note s' rfl))
  · exact h

/-- A relation holds across a line of commands, however it ends. -/
theorem holds_perform [LineFrame P] (s : Scene) (line : Text) : P s (s.perform line).2 :=
  holds_perform_of_line (Run.keeps_line line s)

/-- So it does across all lines that are run. -/
theorem holds_performAll [LineFrame P] (s : Scene) (lines : List Text) :
    P s (Cli.performAll s lines).2 := by
  induction lines generalizing s with
  | nil => exact SceneFrame.aside (.refl s)
  | cons line rest ih =>
    have hline : P s (s.perform line).2 := holds_perform s line
    rw [Cli.performAll]
    generalize s.perform line = r at hline
    rcases r with ⟨_ | _ | e, s'⟩
    · simp only
      split
      · exact hline
      · exact SceneFrame.trans hline (ih s')
    · exact hline
    · exact hline

end Scene

end LineEditor
