import LineEditor.Proofs.Document.Edits
import LineEditor.Proofs.Session.Keeps
import LineEditor.Session.Execute

/-!
# What each command keeps

Commands fall into three kinds. Most look around, or move ranges and set marks and options: they are
asides. The commands that edit lines do so by replacing pieces of the text, so what holds across a
replacement holds across them. In particular they are *mild*: whatever edits they make, an open
group stays as it is and keeps the history out of it, and the document counts as changed if its text
is. What is left are the commands that step through the history, those that store and load, and the
global ones, which are looked at where they matter.
-/

namespace LineEditor

/-- Edits may have been made, but they have to wait for the open group to be closed before they get
into the history. -/
structure Document.Waits (d d' : Document) : Prop where
  /-- A flat surface stays flat. -/
  flat : d.surface.IsFlat → d'.surface.IsFlat
  /-- The open group is the same. -/
  group : d'.group = d.group
  /-- An open group keeps edits out of the history. -/
  history : d.group.isSome → d'.history = d.history

/-- Text and status are the same, or the document counts as changed. -/
def Document.Dirties (d d' : Document) : Prop :=
  (d'.text = d.text ∧ d'.status = d.status) ∨ d'.status = .dirty

/-- Edits may have been made, but the history has not been stepped through and nothing has been
stored. -/
structure Document.Mild (d d' : Document) : Prop where
  /-- The edits wait for the open group to be closed. -/
  waits : d.Waits d'
  /-- If anything was edited, the document counts as changed. -/
  dirties : d.Dirties d'

namespace Document

variable {d d' d₁ d₂ d₃ : Document}

theorem Aside.waits (h : d.Aside d') : d.Waits d' :=
  ⟨fun hd ↦ h.surface ▸ hd, h.group, fun _ ↦ h.history⟩

theorem Waits.trans (h : d₁.Waits d₂) (h' : d₂.Waits d₃) : d₁.Waits d₃ :=
  ⟨fun hd ↦ h'.flat (h.flat hd), h'.group.trans h.group,
    fun hg ↦ (h'.history (h.group ▸ hg)).trans (h.history hg)⟩

instance : Frame Waits := ⟨Aside.waits, Waits.trans⟩

theorem Aside.mild (h : d.Aside d') : d.Mild d' := ⟨h.waits, .inl ⟨h.text, h.status⟩⟩

theorem Mild.trans (h : d₁.Mild d₂) (h' : d₂.Mild d₃) : d₁.Mild d₃ := by
  refine ⟨h.waits.trans h'.waits, ?_⟩
  rcases h'.dirties with ⟨htext, hstatus⟩ | hdirty
  · rw [Dirties, htext, hstatus]
    exact h.dirties
  · exact .inr hdirty

instance : Frame Mild := ⟨Aside.mild, Mild.trans⟩

/-! ## Edits -/

/-- A document has been edited by the way that commands edit it, and by nothing else. -/
inductive Edited : Document → Document → Prop
  /-- Nothing of the text is touched. -/
  | quiet {d d' : Document} (h : d.Quiet d') : Edited d d'
  /-- The text between two offsets is replaced. -/
  | replace (d : Document) (start stop : Nat) (piece : Text) (kind : EditKind) :
    Edited d (d.replace start stop piece kind).2
  /-- One edit follows another. -/
  | trans {d₁ d₂ d₃ : Document} (h : Edited d₁ d₂) (h' : Edited d₂ d₃) : Edited d₁ d₃

theorem edited_refl (d : Document) : d.Edited d := .quiet (.refl d)

theorem edited_moveTo (d : Document) (id : RangeId) (b : Bounds) : d.Edited (d.moveTo id b) :=
  .quiet (.moveTo d id b)

theorem edited_edit (d : Document) (b : Bounds) (piece : Text) : d.Edited (d.edit b piece) :=
  .replace d _ _ _ _

theorem edited_write (d : Document) (id : RangeId) (piece : Text) (kind : EditKind)
    (indent : Text) : d.Edited (d.write id piece kind indent).2 :=
  .trans (.replace d _ _ _ _) (edited_moveTo _ _ _)

theorem edited_insertLines (d : Document) (id : RangeId) (after : Nat) (body indent : Text) :
    d.Edited (d.insertLines id after body indent) :=
  .trans (edited_moveTo d id _) (.trans (edited_write _ id _ _ _) (edited_moveTo _ id _))

theorem edited_changeLines (d : Document) (id : RangeId) (first last : Nat) (body indent : Text) :
    d.Edited (d.changeLines id first last body indent) :=
  .trans (edited_moveTo d id _) (.trans (edited_write _ id _ _ _) (edited_moveTo _ id _))

theorem edited_deleteLines (d : Document) (first last : Nat) :
    d.Edited (d.deleteLines first last) := d.edited_edit _ _

theorem edited_moveLines (d : Document) (id : RangeId) (first last target : Nat) :
    d.Edited (d.moveLines id first last target) := by
  unfold moveLines
  extract_lets block
  split
  · exact edited_moveTo d id _
  · split
    · exact .trans (d.edited_insertLines id _ _ _)
        (.trans (edited_deleteLines _ _ _) (edited_moveTo _ id _))
    · exact .trans (d.edited_deleteLines _ _) (edited_insertLines _ id _ _ _)

theorem edited_joinLines (d : Document) (id : RangeId) (first last : Nat) (verbatim : Bool) :
    d.Edited (d.joinLines id first last verbatim) :=
  .trans (d.edited_edit _ _) (edited_moveTo _ id _)

theorem edited_shiftLines (d : Document) (id : RangeId) (first last times : Nat) (right : Bool) :
    d.Edited (d.shiftLines id first last times right) :=
  .trans (d.edited_edit _ _) (edited_moveTo _ id _)

theorem edited_substitutedStep (r : Replacement) (s : Substituted) (first last : Nat) :
    s.document.Edited (s.step r first last).document := by
  unfold Substituted.step
  extract_lets t region
  cases Search.replace r.matcher t region r.template r.all false r.magic with
  | none => exact edited_refl _
  | some found => exact edited_edit _ _ _

theorem edited_substituteLines (d : Document) (r : Replacement) (first last : Nat) :
    d.Edited (d.substituteLines r first last).document := by
  have hfold : ∀ (ls : List Nat) (s : Substituted),
      s.document.Edited (ls.foldl (fun s n ↦ s.step r n n) s).document := by
    intro ls
    induction ls with
    | nil => exact fun s ↦ edited_refl _
    | cons n ls ih => exact fun s ↦ .trans (edited_substitutedStep r s n n) (ih _)
  unfold substituteLines
  split
  · exact edited_substitutedStep r ⟨d, 0, none⟩ first last
  · exact hfold _ ⟨d, 0, none⟩

/-- Replacing is mild on every surface. -/
theorem mild_replace (d : Document) (start stop : Nat) (piece : Text) (kind : EditKind) :
    d.Mild (d.replace start stop piece kind).2 := by
  cases he : (d.replace start stop piece kind).1 with
  | none =>
    rw [replace_of_none he]
    exact (Aside.refl d).mild
  | some e =>
    rw [replace_of_some he]
    exact ⟨⟨fun hd ↦ hd.replace _ _ _, rfl, fun hg ↦ if_pos hg⟩, .inr rfl⟩

/-- So are all edits. -/
theorem Edited.mild (h : d.Edited d') : d.Mild d' := by
  induction h with
  | quiet h => exact h.aside.mild
  | replace d start stop piece kind => exact d.mild_replace start stop piece kind
  | trans _ _ ih ih' => exact ih.trans ih'

end Document

/-- A relation between scenes that holds across edits of the document. -/
class EditFrame (P : Scene → Scene → Prop) : Prop extends StepFrame P where
  /-- It holds when the document is edited. -/
  edited : ∀ {s : Scene} {d : Document}, s.document.Edited d → P s (s.withDocument d)

instance : EditFrame (Scene.On Document.Mild) :=
  ⟨fun h ↦ h.mild.trans (Document.Aside.told _).mild⟩

namespace Run

variable {P : Scene → Scene → Prop}

section

variable [GlanceFrame P]

/-! ## Parameters and addresses -/

theorem keeps_patternOrLast (pattern : Text) : KeepsScene P (patternOrLast pattern) := by
  unfold patternOrLast
  refine keeps_ite (keeps_pure _) (keeps_bind keeps_session fun s ↦ ?_)
  split
  · exact keeps_pure _
  · exact keeps_throw _

theorem keeps_baseLine (current : Nat) (lines : Nat × Nat) (base : AddressBase) :
    KeepsScene P (baseLine current lines base) := by
  unfold baseLine
  refine keeps_bind keeps_document fun d ↦ ?_
  cases base with
  | current | empty | last | whole | currentRange | line => exact keeps_pure _
  | mark name =>
    simp only
    split
    · exact keeps_pure _
    · exact keeps_throw _
  | search pattern letters backward =>
    refine keeps_bind (keeps_patternOrLast pattern) fun pattern ↦
      keeps_bind (keeps_orFail _) fun f ↦ keeps_bind (keeps_orFail _) fun m ↦ ?_
    split
    · exact keeps_bind (keeps_searched _) fun _ ↦ keeps_pure _
    · exact keeps_throw _

theorem keeps_foundLines (alone : Bool) (lines : Nat × Nat) (tokens : List AddressToken)
    (current : Nat) (found : List Nat) :
    KeepsScene P (foundLines alone lines tokens current found) := by
  induction tokens generalizing current found with
  | nil => exact keeps_pure _
  | cons token rest ih =>
    cases token with
    | comma => exact ih _ _
    | semicolon => exact ih _ _
    | address a =>
      rw [foundLines]
      exact keeps_guard (keeps_throw _) fun _ ↦ keeps_bind keeps_text fun _ ↦
        keeps_bind (keeps_baseLine _ _ _) fun _ ↦ ih _ _

theorem keeps_resolve (tokens : List AddressToken) : KeepsScene P (resolve tokens) :=
  keeps_bind keeps_get fun _ ↦ keeps_bind (keeps_foundLines _ _ _ _ _) fun _ ↦ keeps_pure _

theorem keeps_registerAndCount (parameter : Text) : KeepsScene P (registerAndCount parameter) := by
  unfold registerAndCount
  extract_lets parameter' register rest
  refine keeps_ite (keeps_pure _) ?_
  split
  · exact keeps_pure _
  · exact keeps_refuse _

theorem keeps_indentLike (n : Nat) (flip : Bool) : KeepsScene P (indentLike n flip) := by
  unfold indentLike
  exact keeps_bind keeps_document fun d ↦ keeps_ite (keeps_pure _) (keeps_pure _)

theorem keeps_substitutionOf (command : CommandName) (parameter : Text) :
    KeepsScene P (substitutionOf command parameter) := by
  unfold substitutionOf
  refine keeps_bind keeps_session fun s ↦ ?_
  extract_lets parameter'
  split
  · refine keeps_bind (keeps_patternOrLast _) fun pattern ↦ ?_
    exact keeps_bind keeps_options fun o ↦ keeps_pure _
  · split
    · exact keeps_throw _
    · exact keeps_pure _

end

section

variable [StepFrame P]

theorem keeps_store (register : Option Char) (t : Text) : KeepsScene P (store register t) := by
  unfold store
  refine keeps_bind keeps_session fun s ↦ ?_
  split
  · exact keeps_modifySession fun _ ↦ rfl
  · exact keeps_refuse _

theorem keeps_approach (c : Command) : KeepsScene P (approach c) := by
  refine keeps_bind (keeps_resolve _) fun addressed ↦ ?_
  extract_lets place answerNone nameLines
  have hplace : KeepsScene P place := by
    cases addressed with
    | none => exact keeps_pure _
    | some span => exact keeps_moveToLines _ _
  have hname : ∀ u, KeepsScene P (nameLines u) := by
    intro u
    dsimp only [nameLines, answerNone]
    cases c.name with
    | none => exact keeps_bind hplace fun _ ↦ keeps_guard (keeps_bookmark _) fun _ ↦ keeps_pure _
    | some name => exact keeps_bind keeps_get fun s ↦ keeps_guard hplace fun _ ↦ keeps_pure _
  exact keeps_guard (keeps_bookmark _) hname

end

/-- A global command starts. -/
theorem keeps_startGlobal [SceneFrame P] (parameter : Text) :
    KeepsScene P (startGlobal parameter) := by
  refine keeps_bind keeps_session fun _ ↦ keeps_guard (keeps_refuse _) fun _ ↦ ?_
  extract_lets parameter'
  cases delimiter? parameter' with
  | none => exact keeps_refuse _
  | some c =>
    have hstart (pattern : Text) : KeepsScene P
        (modifySession fun s ↦ { s with lastSearch := some pattern, inGlobal := true }) :=
      fun s ↦ SceneFrame.aside (.of_eq rfl rfl rfl (.refl s.host))
    exact keeps_bind (keeps_patternOrLast _) fun _ ↦ keeps_bind keeps_options fun _ ↦
      keeps_bind (keeps_orFail _) fun _ ↦ keeps_bind (hstart _) fun _ ↦ keeps_pure _

section

variable [StepFrame P]

/-! ## Asides -/

theorem keeps_mark (span : Span) (parameter : Text) : KeepsScene P (mark span parameter) :=
  keeps_guard (keeps_refuse _) fun _ ↦ keeps_bind keeps_text fun _ ↦
    keeps_modifyDocument fun s ↦ StepFrame.quiet (.setMark s.document _ _)

theorem keeps_print (span : Span) (numbered : Bool) : KeepsScene P (print span numbered) :=
  keeps_bind keeps_text fun _ ↦ keeps_bind (keeps_display _) fun _ ↦ keeps_moveToLine _

theorem keeps_lineNumber (span : Span) : KeepsScene P (lineNumber span) := keeps_display _

theorem keeps_marks : KeepsScene P marks :=
  keeps_bind keeps_document fun _ ↦ keeps_displayLines _

theorem keeps_registers : KeepsScene P registers :=
  keeps_bind keeps_session fun _ ↦ keeps_displayLines _

theorem keeps_request (r : Options → Except OptionError (Options × Answer)) :
    KeepsScene P (request r) := by
  refine keeps_document_bind fun s ↦ ?_
  unfold Document.request
  cases r s.document.options with
  | error e => exact StepFrame.step (.refl s) rfl
  | ok answer => exact StepFrame.quiet (.settleOptions s.document answer.1 answer.2)

theorem keeps_set (parameter : Text) : KeepsScene P (set parameter) :=
  keeps_bind (keeps_filterMapM (fun _ ↦ keeps_request _) _) fun _ ↦ keeps_displayLines _

theorem keeps_option (o : OptionName) (parameter : Text) (bang : Bool) :
    KeepsScene P (option o parameter bang) := by
  refine keeps_bind (keeps_request _) fun shown ↦ ?_
  cases shown with
  | none => exact keeps_pure _
  | some t => exact keeps_display t

theorem keeps_file (parameter : Text) : KeepsScene P (file parameter) := by
  unfold file
  extract_lets name
  refine keeps_ite ?_ (keeps_bind keeps_document fun _ ↦ keeps_display _)
  exact keeps_modifyDocument fun s ↦ StepFrame.quiet (.settleOptions s.document _ _)

end

section

variable [GlanceFrame P]

/-! ## Files -/

theorem keeps_promptFor (message : Text) : KeepsScene P (promptFor message) := by
  refine keeps_get_bind fun s ↦ ?_
  cases hinput : s.host.input with
  | none => exact keeps_throw _ s
  | some lines =>
    have hnoted : s.Glance (s.note (.prompted message)) := .note s rfl
    cases lines with
    | nil => exact GlanceFrame.glance hnoted
    | cons line later =>
      -- there was somebody to ask, and there still is
      have hserves : s.host.Serves { s.host with input := some later } :=
        ⟨fun hnone ↦ absurd (hnone.symm.trans hinput) nofun, fun disk _ hdisk ↦ ⟨disk, hdisk⟩⟩
      exact GlanceFrame.glance ⟨rfl, rfl, rfl, rfl, rfl, hnoted.told, hserves⟩

theorem keeps_noteRequest {e : Event} (he : e.notice? = none) : KeepsScene P (noteRequest e) :=
  keeps_bind keeps_get fun _ ↦ keeps_ite (keeps_note he) (keeps_pure _)

theorem keeps_fileName (parameter : Text) : KeepsScene P (fileName parameter) := by
  unfold fileName
  extract_lets name
  refine keeps_ite (keeps_pure _) (keeps_bind keeps_options fun o ↦ ?_)
  extract_lets current
  exact keeps_ite (keeps_pure _) (keeps_bind (keeps_promptFor _) fun _ ↦
    keeps_ite (keeps_refuse _) (keeps_pure _))

theorem keeps_directory : KeepsScene P directory := keeps_bind keeps_options fun _ ↦ keeps_pure _

theorem keeps_load (file : Text) : KeepsScene P (load file) := by
  refine keeps_bind keeps_directory fun d ↦ keeps_bind (keeps_noteRequest rfl) fun _ ↦
    keeps_bind keeps_get fun s ↦ ?_
  cases s.host.storage.read? file d with
  | none => exact keeps_throw _
  | some content => exact keeps_pure _

theorem keeps_guardChanges (question : Text) (force : Bool) :
    KeepsScene P (guardChanges question force) :=
  keeps_bind keeps_get fun _ ↦ keeps_ite (keeps_bind (keeps_note rfl) fun _ ↦
    keeps_ite (keeps_throw _) (keeps_pure _)) (keeps_pure _)

theorem keeps_quit (force : Bool) : KeepsScene P (quit force) :=
  keeps_bind (keeps_guardChanges _ _) fun _ ↦ keeps_note rfl

end

/-! ## Walking through the history -/

/-- Walking is the step through the history, if there is one, and an aside. -/
theorem aside_walk (step : Document → Option (Bounds × Document)) (s : Scene) :
    (((step s.document).map (·.2)).getD s.document).Aside ((walk step).run s).2.document := by
  change Document.Aside _ (s.withDocument _).document
  cases hstep : step s.document with
  | none =>
    simp only [hstep]
    exact .told _
  | some r =>
    simp only [hstep]
    exact (Document.Aside.moveTo r.2 s.range r.1).trans (.told _)

/-! ## Commands that edit lines -/

section

variable [EditFrame P]

theorem keeps_editDocument {f : Document → Document} (h : ∀ d : Document, d.Edited (f d)) :
    KeepsScene P (modifyDocument f) :=
  keeps_modifyDocument fun s ↦ EditFrame.edited (h s.document)

theorem keeps_editAt {f : Document → RangeId → Document}
    (h : ∀ (d : Document) id, d.Edited (f d id)) : KeepsScene P (modifyAt f) :=
  keeps_modifyAt fun s ↦ EditFrame.edited (h s.document s.range)

theorem keeps_insertBehind (after neighbour : Nat) (body : Text) (flip : Bool) :
    KeepsScene P (insertBehind after neighbour body flip) :=
  keeps_bind (keeps_indentLike _ _) fun _ ↦ keeps_editAt fun d id ↦ d.edited_insertLines id _ _ _

theorem keeps_change (span : Span) (body : Text) (bang : Bool) :
    KeepsScene P (change span body bang) :=
  keeps_bind keeps_text fun _ ↦ keeps_bind (keeps_store _ _) fun _ ↦
    keeps_bind (keeps_indentLike _ _) fun _ ↦
      keeps_editAt fun d id ↦ d.edited_changeLines id _ _ _ _

theorem keeps_put (span : Span) (parameter : Text) (before : Bool) :
    KeepsScene P (put span parameter before) := by
  unfold put
  extract_lets after insertOf
  have hinsert : ∀ register, KeepsScene P (insertOf register) := by
    refine fun register ↦ keeps_bind keeps_session fun s ↦ ?_
    cases s.registers.get? register with
    | none => exact keeps_throw _
    | some t => exact keeps_editAt fun d id ↦ d.edited_insertLines id _ _ _
  have hcounted : ∀ p, KeepsScene P
      (do insertOf (← pure (← registerAndCount p).1) : Run Unit) := fun p ↦
    keeps_bind (keeps_registerAndCount p) fun _ ↦ keeps_bind (keeps_pure _) hinsert
  split
  · exact keeps_ite (keeps_bind (keeps_pure _) hinsert) (hcounted _)
  · exact hcounted _

theorem keeps_deleteOrYank (span : Span) (parameter : Text) (remove : Bool) :
    KeepsScene P (deleteOrYank span parameter remove) := by
  refine keeps_bind (keeps_registerAndCount _) fun _ ↦ keeps_bind keeps_text fun _ ↦
    keeps_bind (keeps_store _ _) fun _ ↦ ?_
  refine keeps_guard (keeps_editDocument fun d ↦ d.edited_deleteLines _ _) fun _ ↦ ?_
  exact keeps_bind keeps_text fun _ ↦ keeps_moveToLine _

theorem keeps_join (span : Span) (parameter : Text) (verbatim : Bool) :
    KeepsScene P (join span parameter verbatim) :=
  keeps_bind (keeps_registerAndCount _) fun _ ↦ keeps_bind keeps_text fun _ ↦
    keeps_ite (keeps_editAt fun d id ↦ d.edited_joinLines id _ _ _) (keeps_pure _)

theorem keeps_transfer (span : Span) (parameter : Text) (remove : Bool) :
    KeepsScene P (transfer span parameter remove) := by
  unfold transfer
  extract_lets first last transferTo
  have htransfer : ∀ tokens, KeepsScene P (transferTo tokens) := by
    refine fun tokens ↦ keeps_bind (keeps_resolve tokens) fun target ↦ ?_
    cases target with
    | none => exact keeps_refuse _
    | some target =>
      exact keeps_ite (keeps_editAt fun d id ↦ d.edited_moveLines id _ _ _)
        (keeps_bind keeps_text fun _ ↦ keeps_editAt fun d id ↦ d.edited_insertLines id _ _ _)
  split
  · exact keeps_bind (keeps_pure _) htransfer
  · exact keeps_bind (keeps_refuse _) htransfer

theorem keeps_shift (span : Span) (parameter : Text) (times : Nat) (right : Bool) :
    KeepsScene P (shift span parameter times right) :=
  keeps_bind (keeps_registerAndCount _) fun _ ↦ keeps_bind keeps_text fun _ ↦
    keeps_editAt fun d id ↦ d.edited_shiftLines id _ _ _ _

theorem keeps_substitute (span : Span) (command : CommandName) (parameter : Text) :
    KeepsScene P (substitute span command parameter) := by
  refine keeps_bind (keeps_substitutionOf _ _) fun s ↦ keeps_bind keeps_options fun o ↦ ?_
  extract_lets f replaceWith
  have hreplace : ∀ flags, KeepsScene P (replaceWith flags) := by
    refine fun flags ↦ keeps_bind keeps_text fun t ↦ keeps_bind (keeps_orFail _) fun m ↦ ?_
    -- the document looked at is the one that the replacements are made in
    refine keeps_document_bind fun scene ↦ ?_
    extract_lets result finish
    have hresult : scene.document.Edited result.document :=
      scene.document.edited_substituteLines _ _ _
    have hfinish : ∀ u, KeepsScene P (finish u) := by
      refine fun _ ↦ keeps_bind (keeps_modifySession fun _ ↦ rfl) fun _ ↦ ?_
      cases result.line? with
      | none => exact keeps_pure _
      | some n => exact keeps_bind keeps_text fun _ ↦ keeps_moveToLine _
    refine holds_bind (EditFrame.edited hresult) fun _ ↦
      keeps_bind (keeps_modifySession fun _ ↦ rfl) fun _ ↦ keeps_ite ?_ (hfinish ())
    exact keeps_bind keeps_session fun _ ↦
      keeps_ite (keeps_pure _) (keeps_bind (keeps_throw _) hfinish)
  split
  · exact keeps_bind (keeps_pure _) hreplace
  · exact keeps_bind (keeps_refuse _) hreplace

theorem keeps_read (span : Span) (parameter : Text) : KeepsScene P (read span parameter) :=
  keeps_bind (keeps_fileName _) fun _ ↦ keeps_bind (keeps_load _) fun _ ↦
    keeps_editAt fun d id ↦ d.edited_insertLines id _ _ _

end

end Run

/-! ## All commands -/

namespace CommandName

/-- The command runs other commands. -/
def isGlobal : CommandName → Bool
  | global | notglobal => true
  | _ => false

/-- The command stores the text or loads another one. -/
def isStoring : CommandName → Bool
  | write | wq | xit | edit => true
  | _ => false

/-- A command that runs others does not walk through the history itself. -/
theorem walksHistory_of_isGlobal {name : CommandName} (h : name.isGlobal = true) :
    name.walksHistory = false := by
  cases name with
  | undo | redo => exact absurd h Bool.false_ne_true
  | _ => rfl

/-- A command that walks through the history runs no others. -/
theorem isGlobal_of_walksHistory {name : CommandName} (h : name.walksHistory = true) :
    name.isGlobal = false := by
  cases name with
  | undo | redo => rfl
  | _ => exact absurd h Bool.false_ne_true

end CommandName

namespace Run

/-- A command that neither runs others nor steps through the history nor stores only edits. -/
theorem keeps_dispatch [EditFrame P] (runLine : Text → Run Unit) {name : CommandName} (c : Command)
    (span : Span) (hglobal : name.isGlobal = false) (hwalk : name.walksHistory = false)
    (hstore : name.isStoring = false) : KeepsScene P (dispatch runLine name c span) := by
  cases name with
  | append | insert => exact keeps_insertBehind _ _ _ _
  | change => exact keeps_change _ _ _
  | delete | yank => exact keeps_deleteOrYank _ _ _
  | put => exact keeps_put _ _ _
  | join => exact keeps_join _ _ _
  | move | copy => exact keeps_transfer _ _ _
  | substitute | again | againWithSearch => exact keeps_substitute _ _ _
  | global | notglobal => exact absurd hglobal (by decide)
  | print | number => exact keeps_print _ _
  | lineNumber => exact keeps_lineNumber _
  | shiftLeft | shiftRight => exact keeps_shift _ _ _ _
  | mark => exact keeps_mark _ _
  | marks => exact keeps_marks
  | registers => exact keeps_registers
  | undo | redo => exact absurd hwalk (by decide)
  | set => exact keeps_set _
  | option o => exact keeps_option _ _ _
  | write | edit | wq | xit => exact absurd hstore (by decide)
  | read => exact keeps_read _ _
  | file => exact keeps_file _
  | quit => exact keeps_quit _

end Run

/-- Reporting how a line of commands ended is an aside. -/
theorem Scene.aside_perform (s : Scene) (line : Text) :
    ((Run.line line).run s).2.document.Aside (s.perform line).2.document := by
  unfold perform
  rcases (Run.line line).run s with ⟨⟨e⟩ | ⟨⟨⟩⟩, s'⟩
  · cases e <;> exact .refl _
  · exact .refl _

end LineEditor
