import LineEditor.Proofs.Document.Substituting
import LineEditor.Proofs.Session.Addressed
import LineEditor.Proofs.Session.Numbers
import LineEditor.Proofs.Session.Refusals

/-!
# What a failed command leaves behind

A command that fails, or that is dismissed, is not undone: what it has done stays done. So it must
not have done anything that matters. It may have put its own range on the lines addressed and the
mark `'` where the range was, remembered a pattern, asked for input, and set options. Everything
else it *spares*: the text, the history, the registers, the last substitution, what observers have
been told of edits, and all other ranges and marks. Only a text that a storage has refused leaves a
trace, in the save status.

Most commands fail at a glance. What is left are the commands that set options one after the other,
those that replace matches before they count them, and those that write. And whatever fails, the
group around it is closed, which records nothing if the text is as it was.
-/

namespace LineEditor

namespace Document

variable {stored : Prop} {d d' d₁ d₂ d₃ : Document} {working id : RangeId}

/-! ## Sparing -/

/-- A range that a command does nothing to unless it edits: it has been given a number, and it is
neither the one the command works at nor the mark at the lines addressed last. -/
def IsBystander (d : Document) (working id : RangeId) : Prop :=
  id < d.ranges.fresh ∧ id ≠ working ∧ d.marks.get? previousMark ≠ some id

/-- What a command leaves alone that works at a range and fails. -/
structure Spares (stored : Prop) (working : RangeId) (d d' : Document) : Prop where
  /-- The surface is the same, and with it the text. -/
  surface : d'.surface = d.surface
  /-- The history is the same. -/
  history : d'.history = d.history
  /-- The open group is the same. -/
  group : d'.group = d.group
  /-- So is the status, unless a text may have been handed to a storage. -/
  status : ¬ stored → d'.status = d.status
  /-- Other marks have the numbers that they had. -/
  marks : ∀ name, name ≠ previousMark → d'.marks.get? name = d.marks.get? name
  /-- Bystanders stay bystanders. -/
  bystander : ∀ id, d.IsBystander working id → d'.IsBystander working id
  /-- They are where they were. -/
  held : ∀ id, d.IsBystander working id → d'.ranges.held.get? id = d.ranges.held.get? id
  /-- They follow edits if they did. -/
  tracked : ∀ id, d.IsBystander working id → d'.ranges.isTracked id = d.ranges.isTracked id

namespace Spares

theorem of_eq (hsurface : d'.surface = d.surface) (hhistory : d'.history = d.history)
    (hgroup : d'.group = d.group) (hstatus : ¬ stored → d'.status = d.status)
    (hmarks : d'.marks = d.marks) (hranges : d'.ranges = d.ranges) :
    d.Spares stored working d' := by
  refine ⟨hsurface, hhistory, hgroup, hstatus, ?_, ?_, ?_, ?_⟩
  · exact fun _ _ ↦ by rw [hmarks]
  · exact fun _ h ↦ by rwa [IsBystander, hmarks, hranges]
  · exact fun _ _ ↦ by rw [hranges]
  · exact fun _ _ ↦ by rw [hranges]

theorem refl (d : Document) : d.Spares stored working d := .of_eq rfl rfl rfl (fun _ ↦ rfl) rfl rfl

theorem trans (h : d₁.Spares stored working d₂) (h' : d₂.Spares stored working d₃) :
    d₁.Spares stored working d₃ where
  surface := h'.surface.trans h.surface
  history := h'.history.trans h.history
  group := h'.group.trans h.group
  status hs := (h'.status hs).trans (h.status hs)
  marks name hname := (h'.marks name hname).trans (h.marks name hname)
  bystander id hid := h'.bystander id (h.bystander id hid)
  held id hid := (h'.held id (h.bystander id hid)).trans (h.held id hid)
  tracked id hid := (h'.tracked id (h.bystander id hid)).trans (h.tracked id hid)

theorem told (d : Document) : d.Spares stored working { d with notices := [] } :=
  .of_eq rfl rfl rfl (fun _ ↦ rfl) rfl rfl

theorem setStatus (hstored : stored) (d : Document) (status : SaveStatus) :
    d.Spares stored working { d with status := status } :=
  .of_eq rfl rfl rfl (fun h ↦ absurd hstored h) rfl rfl

theorem settleOptions (d : Document) (o : Options) (a : Answer) :
    d.Spares stored working (d.settleOptions o a) := by
  cases a <;> exact .of_eq rfl rfl rfl (fun _ ↦ rfl) rfl rfl

/-- The range to work at is no bystander. -/
theorem moveTo (d : Document) (b : Bounds) : d.Spares stored working (d.moveTo working b) := by
  refine ⟨rfl, rfl, rfl, fun _ ↦ rfl, fun _ _ ↦ rfl, fun _ ↦ id, fun id hid ↦ ?_, fun _ _ ↦ rfl⟩
  exact (MovesOnly.moveTo d working b).held id hid.2.1

/-- Neither is the mark that it leaves behind. -/
theorem setMark (d : Document) (b : Bounds) :
    d.Spares stored working (d.setMark previousMark b) := by
  refine ⟨rfl, rfl, rfl, fun _ ↦ rfl, fun name hname ↦ ?_, fun id hid ↦ ?_, fun id hid ↦ ?_,
    fun id hid ↦ ?_⟩
  · rw [get?_marks_setMark, if_neg hname.symm]
  · -- the mark takes the next number, which no bystander has
    obtain ⟨hlt, hworking, -⟩ := hid
    refine ⟨?_, hworking, ?_⟩
    · rw [fresh_setMark]
      exact Nat.lt_succ_of_lt hlt
    · rw [get?_marks_setMark, if_pos rfl]
      exact fun heq ↦ Nat.ne_of_gt hlt (Option.some.inj heq)
  · exact get?_held_setMark hid.1 hid.2.2 b
  · exact isTracked_setMark hid.1 hid.2.2 b

end Spares

/-- Every mark but the one that is left behind is spared, if marks have numbers of their own. -/
theorem Spares.mark?_eq (h : d.Spares stored working d') (hd : d.IsNumbered)
    (hworking : d.IsApart working) {name : Text} (hname : name ≠ previousMark) :
    d'.mark? name = d.mark? name := by
  rw [mark?, mark?, h.marks name hname]
  cases hid : d.marks.get? name with
  | none => rfl
  | some id =>
    have hbystander : d.IsBystander working id := by
      refine ⟨hd.marks_lt name id hid, ?_, fun hprevious ↦ ?_⟩
      · rintro rfl
        exact hworking.marks_ne name hid
      · exact hname (hd.marks_inj name previousMark id hid hprevious)
    have hget : d'.ranges.get id = d.ranges.get id :=
      congrArg (·.getD {}) (h.held id hbystander)
    have hlength : d'.length = d.length := congrArg Surface.length h.surface
    rw [Option.map_some, Option.map_some, hget, hlength]

theorem openGroup_eq (d : Document) : d.openGroup = { d with group := d.openGroup.group } := by
  unfold openGroup
  split <;> rfl

/-- A group in which the text has stayed as it was is closed without a trace. -/
theorem closeGroup_of_text_eq (hgroup : d'.group = d.openGroup.group) (htext : d'.text = d.text) :
    d'.closeGroup = { d' with group := d.group } := by
  unfold openGroup at hgroup
  unfold closeGroup
  cases hopen : d.group with
  | some g =>
    rw [hopen] at hgroup
    rw [hgroup]
  | none =>
    have hnothing : Edit.between d.text d'.text = none := Edit.between_eq_none_iff.mpr htext.symm
    rw [hopen] at hgroup
    rw [hgroup]
    simp only [hnothing]
    rfl

/-- What is spared inside a group is spared when the group has been closed. -/
theorem Spares.closeGroup (h : d.openGroup.Spares stored working d') :
    d.Spares stored working d'.closeGroup := by
  rw [openGroup_eq] at h
  rw [closeGroup_of_text_eq h.group (congrArg Surface.text h.surface)]
  exact ⟨h.surface, h.history, rfl, h.status, h.marks, h.bystander, h.held, h.tracked⟩

/-- What is an aside inside a group is one when the group has been closed. -/
theorem Aside.closeGroup (h : d.openGroup.Aside d') : d.Aside d'.closeGroup := by
  have hclosed := closeGroup_of_text_eq h.group (h.text.trans (d.openGroup_eq ▸ rfl))
  have hapart := d.keepsApart_openGroup.trans (h.apart.trans d'.keepsApart_closeGroup)
  have hopened := d.openGroup_eq
  refine ⟨?_, ?_, ?_, ?_, hapart⟩
  · rw [hclosed]
    exact h.surface.trans (hopened ▸ rfl)
  · rw [hclosed]
    exact h.history.trans (hopened ▸ rfl)
  · rw [hclosed]
  · rw [hclosed]
    exact h.status.trans (hopened ▸ rfl)

end Document

/-- What a command leaves alone that fails. -/
structure Scene.Spares (stored : Prop) (s s' : Scene) : Prop where
  /-- The document is the same, up to the range to work at and the mark it leaves behind. -/
  document : s.document.Spares stored s.range s'.document
  /-- The range to work at is the same one. -/
  range : s'.range = s.range
  /-- The registers are the same. -/
  registers : s'.session.registers = s.session.registers
  /-- The last substitution is the same. -/
  lastSubstitution : s'.session.lastSubstitution = s.session.lastSubstitution
  /-- Observers have been told the same. -/
  told : s'.told = s.told

namespace Scene

variable {stored : Prop} {s s' s₁ s₂ s₃ : Scene} {d : Document}

theorem Spares.trans (h : s₁.Spares stored s₂) (h' : s₂.Spares stored s₃) : s₁.Spares stored s₃ :=
  ⟨h.document.trans (h.range ▸ h'.document), h'.range.trans h.range,
    h'.registers.trans h.registers, h'.lastSubstitution.trans h.lastSubstitution,
    h'.told.trans h.told⟩

theorem Glance.spares (h : s.Glance s') : s.Spares stored s' :=
  ⟨h.document ▸ .refl _, h.range, h.registers, h.lastSubstitution, h.told⟩

instance : GlanceFrame (Spares stored) := ⟨Glance.spares, .trans⟩

theorem Spares.withDocument (h : s.document.Spares stored s.range d)
    (huntold : d.untold = s.document.untold) : s.Spares stored (s.withDocument d) := by
  refine ⟨h.trans (.told d), rfl, rfl, rfl, ?_⟩
  rw [told_withDocument, huntold]
  rfl

/-- What is spared inside a group is spared when the group has been closed. -/
theorem Spares.closed (h : s.opened.Spares stored s') : s.Spares stored s'.closed := by
  have hopened : s.opened.told = s.told := by
    have huntold : s.document.openGroup.untold = s.document.untold := by
      rw [Document.openGroup_eq]
      rfl
    rw [opened, told_withDocument, huntold]
    rfl
  have hclosed : s'.closed.told = s'.told := by
    have huntold : s'.document.closeGroup.untold = s'.document.untold := by
      unfold Document.closeGroup
      split <;> rfl
    rw [Scene.closed, told_withDocument, huntold]
    rfl
  have htold : s.document.openGroup.Spares stored s.range s.opened.document := .told _
  exact ⟨(htold.trans h.document).closeGroup.trans (.told _), h.range, h.registers,
    h.lastSubstitution, hclosed.trans (h.told.trans hopened)⟩

end Scene

namespace Run

open Scene (Spares)

variable {stored : Prop} {e : Error} {c : Command} {runLine : Text → Run Unit}

/-! ## Commands that are approached -/

theorem spares_moveToLines (first last : Nat) :
    KeepsScene (Spares stored) (moveToLines first last) :=
  keeps_modifyAt fun s ↦ .withDocument (.moveTo s.document _) rfl

theorem spares_bookmark : KeepsScene (Spares stored) (bookmark previousMark) :=
  keeps_modifyAt fun s ↦ .withDocument (.setMark s.document _) rfl

/-- To approach a command is to spare everything, if there is a command. -/
theorem spares_approach {name : CommandName} (hname : c.name = some name) :
    KeepsScene (Spares stored) (approach c) := by
  refine keeps_bind (keeps_resolve _) fun addressed ↦ ?_
  extract_lets place answerNone nameLines
  have hplace : KeepsScene (Spares stored) place := by
    cases addressed with
    | none => exact keeps_pure _
    | some span => exact spares_moveToLines _ _
  have hlines : ∀ u, KeepsScene (Spares stored) (nameLines u) := by
    intro u
    simp only [nameLines, hname]
    exact keeps_bind keeps_get fun s ↦ keeps_guard hplace fun _ ↦ keeps_pure _
  exact keeps_guard spares_bookmark hlines

/-! ## Commands that have begun -/

theorem spares_request (r : Options → Except OptionError (Options × Answer)) :
    KeepsScene (Spares stored) (request r) := by
  refine keeps_document_bind fun s ↦ ?_
  unfold Document.request
  cases r s.document.options with
  | error e => exact keeps_throw (.option e) s
  | ok answer =>
    have hquiet := Document.Quiet.settleOptions s.document answer.1 answer.2
    exact .withDocument (.settleOptions s.document answer.1 answer.2) hquiet.untold

/-- Options that have been set stay set when one of those behind them is refused. -/
theorem spares_set (parameter : Text) : FailsWith e (Spares stored) (set parameter) :=
  failsWith_bind (keeps_filterMapM (fun _ ↦ spares_request _) _) fun _ ↦
    failsWith_of_completes (completes_displayLines _)

theorem spares_option (o : OptionName) (parameter : Text) (bang : Bool) :
    FailsWith e (Spares stored) (option o parameter bang) := by
  refine failsWith_bind (spares_request _) fun shown ↦ ?_
  cases shown with
  | none => exact failsWith_of_completes (completes_pure _)
  | some t => exact failsWith_of_completes (completes_note _)

/-- A substitution is made before its matches are counted, but it fails only if there are none. -/
theorem spares_substitute (span : Span) (command : CommandName) (parameter : Text) :
    FailsWith e (Spares stored) (substitute span command parameter) := by
  refine failsWith_bind (keeps_substitutionOf _ _) fun s ↦ failsWith_bind keeps_options fun o ↦ ?_
  extract_lets f replaceWith
  have hreplace : ∀ flags, FailsWith e (Spares stored) (replaceWith flags) := by
    refine fun flags ↦ failsWith_bind keeps_text fun t ↦ failsWith_bind (keeps_orFail _) fun m ↦
      failsWith_document_bind fun scene s' hfail ↦ ?_
    extract_lets result finish at hfail
    have hfinish : ∀ u, Completes (finish u) := by
      refine fun _ ↦ completes_bind (completes_modifySession _) fun _ ↦ ?_
      cases result.line? with
      | none => exact completes_pure _
      | some n => exact completes_bind completes_text fun _ ↦ completes_moveToLine _
    rcases run_bind_eq_error.mp hfail with hmade | ⟨_, s₁, hmade, hrest⟩
    · exact absurd hmade ((completes_modifyDocument _).ne_error _ _)
    cases hmade
    -- without a match nothing has been replaced, and with one nothing fails any more
    by_cases hcount : result.count = 0
    · have hresult : scene.Spares stored (scene.withDocument result.document) := by
        rw [Document.document_substituteLines hcount]
        exact .withDocument (.refl _) rfl
      simp only [if_pos hcount] at hrest
      refine hresult.trans (failsWith_bind (keeps_searched _) (fun _ ↦ ?_) _ _ hrest)
      exact failsWith_bind keeps_session fun _ ↦
        failsWith_ite (failsWith_of_completes (completes_pure _)) <|
          failsWith_bind (keeps_throw _) fun u ↦ failsWith_of_completes (hfinish u)
    · simp only [if_neg hcount] at hrest
      exact absurd hrest ((completes_bind (completes_modifySession _) hfinish).ne_error _ _)
  split
  · exact failsWith_bind (keeps_pure _) hreplace
  · exact failsWith_bind (keeps_refuse _) hreplace

/-! ## Commands that write -/

theorem spares_write (hstored : stored) (span : Span) (parameter : Text) :
    FailsWith e (Spares stored) (write span parameter) := by
  have hname : KeepsScene (Spares stored) (fileName parameter) := keeps_fileName parameter
  have hstatus : ∀ status, KeepsScene (Spares stored) (setStatus status) := fun status ↦
    keeps_modifyDocument fun s ↦ .withDocument (.setStatus hstored s.document status) rfl
  intro s s' hfail
  rcases write_eq_error hfail with hearly | ⟨file, directory, content, s₁, hchosen, hlate⟩
  · exact hname.of_run hearly
  · have hsaved : s₁.Spares stored s' := (keeps_save hstatus file directory content).of_run hlate
    exact (hname.of_run hchosen).trans hsaved

/-! ## All commands -/

/-- Every command that runs no others spares everything if it fails. -/
theorem spares_dispatch {name : CommandName} (hglobal : name.isGlobal = false)
    (hwriting : name.isWriting = true → stored) (span : Span) :
    FailsWith e (Spares stored) (dispatch runLine name c span) := by
  cases name with
  | append | insert => exact failsWith_of_completes (completes_insertBehind _ _ _ _)
  | change => exact failsWith_of_completes (completes_change _ _ _)
  | delete | yank => exact failsWith_deleteOrYank _ _ _
  | put => exact failsWith_put _ _ _
  | join => exact failsWith_join _ _ _
  | move | copy => exact failsWith_transfer _ _ _
  | substitute | again | againWithSearch => exact spares_substitute _ _ _
  | global | notglobal => exact absurd hglobal.symm Bool.false_ne_true
  | print | number => exact failsWith_of_completes (completes_print _ _)
  | lineNumber => exact failsWith_of_completes (completes_note _)
  | shiftLeft | shiftRight => exact failsWith_shift _ _ _ _
  | mark => exact failsWith_mark _ _
  | marks => exact failsWith_of_completes completes_marks
  | registers => exact failsWith_of_completes completes_registers
  | undo | redo => exact failsWith_of_completes (completes_walk _)
  | set => exact spares_set _
  | option o => exact spares_option _ _ _
  | write | wq | xit =>
    exact failsWith_dispatch_of_isWriting runLine rfl (spares_write (hwriting rfl) _ _)
  | edit => exact failsWith_edit _ _
  | read => exact failsWith_read _ _
  | file => exact failsWith_of_completes (completes_file _)
  | quit => exact failsWith_of_keeps (keeps_quit _)

theorem spares_grouped {body : Run Unit} (h : FailsWith e (Spares stored) body) :
    FailsWith e (Spares stored) (grouped body) := by
  intro s s' hfail
  rw [run_grouped] at hfail
  obtain ⟨herror, rfl⟩ := Prod.mk.inj hfail
  exact (h s.opened _ (Prod.ext herror rfl)).closed

/-- A command fails when it is approached, or when it is carried out under its own name. -/
theorem executeWith_eq_error {s s' : Scene}
    (h : (executeWith runLine c).run s = (.error e, s')) :
    (approach c).run s = (.error e, s') ∨ ∃ name span s₁, c.name = some name ∧
      (approach c).run s = (.ok (some (name, span)), s₁) ∧
      (carryOut runLine name c span).run s₁ = (.error e, s') := by
  rcases run_bind_eq_error.mp h with hearly | ⟨approached, s₁, happroach, hlate⟩
  · exact .inl hearly
  · rcases approached with _ | ⟨name, span⟩
    · exact absurd hlate nofun
    · refine .inr ⟨name, span, s₁, (approach_eq_some happroach).1, happroach, ?_⟩
      rcases run_bind_eq_error.mp hlate with hcarried | ⟨_, s₂, -, hmark⟩
      · exact hcarried
      · exact absurd hmark ((completes_modifyAt _).ne_error _ _)

/-- So does a command with its addresses, and whatever is done around it. -/
theorem spares_executeWith (hglobal : ∀ name, c.name = some name → name.isGlobal = false)
    (hwriting : ∀ name, c.name = some name → name.isWriting = true → stored) :
    FailsWith e (Spares stored) (executeWith runLine c) := by
  intro s s' hfail
  rcases executeWith_eq_error hfail with hearly | ⟨name, span, s₁, hname, happroach, hlate⟩
  · exact failsWith_approach (failsWith_of_keeps (keeps_resolve _)) s s' hearly
  · have happroached : s.Spares stored s₁ := (spares_approach hname).of_run happroach
    have hdispatch : FailsWith e (Spares stored) (dispatch runLine name c span) :=
      spares_dispatch (hglobal name hname) (hwriting name hname) span
    exact happroached.trans (failsWith_ite hdispatch (spares_grouped hdispatch) s₁ s' hlate)

end Run

/-! ## What the save status tells -/

/-- A storage has not taken a text that it was handed. -/
def Error.isNotSaved : Error → Bool
  | notSaved _ => true
  | _ => false

/-- The status is as before, unless the error is that a storage has not taken a text. -/
def Scene.Reports (e : Error) (s s' : Scene) : Prop :=
  s'.document.status = if e.isNotSaved then .failed else s.document.status

namespace Run

open Scene (Reports)

variable {e : Error} {c : Command} {runLine : Text → Run Unit} {α : Type} {m : Run α}

/-- Whoever does not write leaves the status alone. -/
theorem reports_of_never (hkeeps : Keeps Document.Aside m)
    (hnever : ∀ file, Never (.notSaved file) m) : FailsWith e (Reports e) m := by
  intro s s' hfail
  have haside : s.document.Aside s'.document := hkeeps.of_run hfail
  cases e with
  | notSaved file => exact (hnever file s s' hfail).elim
  | _ => exact haside.status

theorem reports_save (file : Text) (directory : Option Text) (content : Text) :
    FailsWith e (Reports e) (save file directory content) := by
  intro s s' hfail
  have hspec := (save_spec file directory content s).2
  rw [hfail] at hspec
  split at hspec
  · exact absurd hspec.1 nofun
  · obtain ⟨herror, hstatus⟩ := hspec
    cases herror
    exact hstatus

theorem reports_write (span : Span) (parameter : Text) :
    FailsWith e (Reports e) (write span parameter) := by
  have hname : Keeps Document.Aside (fileName parameter) := keeps_fileName parameter
  intro s s' hfail
  rcases write_eq_error hfail with hearly | ⟨file, directory, content, s₁, hchosen, hlate⟩
  · exact reports_of_never hname (fun _ ↦ never_notSaved_fileName _) s s' hearly
  · have hfirst : s.document.Aside s₁.document := hname.of_run hchosen
    rw [Reports, ← hfirst.status]
    exact reports_save file directory content s₁ s' hlate

/-- Groups have nothing to do with the status. -/
theorem reports_grouped {body : Run Unit} (h : FailsWith e (Reports e) body) :
    FailsWith e (Reports e) (grouped body) := by
  intro s s' hfail
  rw [run_grouped] at hfail
  obtain ⟨herror, rfl⟩ := Prod.mk.inj hfail
  rw [Reports, Scene.status_closed, ← s.status_opened]
  exact h s.opened _ (Prod.ext herror rfl)

theorem reports_executeWith {name : CommandName} (hname : c.name = some name)
    (hwriting : name.isWriting = true) : FailsWith e (Reports e) (executeWith runLine c) := by
  intro s s' hfail
  rcases executeWith_eq_error hfail with hearly | ⟨own, span, s₁, hown, happroach, hlate⟩
  · exact reports_of_never (keeps_approach c) (fun _ ↦ never_notSaved_approach c) s s' hearly
  · obtain rfl : own = name := Option.some.inj (hown.symm.trans hname)
    have happroached : s.Aside s₁ := (keeps_approach c).of_run happroach
    have hdispatch : FailsWith e (Reports e) (dispatch runLine own c span) :=
      failsWith_dispatch_of_isWriting runLine hwriting (reports_write _ _)
    rw [Reports, ← happroached.document.status]
    exact failsWith_ite hdispatch (reports_grouped hdispatch) s₁ s' hlate

end Run

namespace Scene

variable {s s' : Scene} {c : Command} {e : Error} {runLine : Text → Run Unit}

/-- **A command that fails has done nothing.** If a command that runs no others fails, or is
dismissed, then observers have been told of no edit, and the surface with its text, the history, the
registers and the last substitution are as before. So is every range that follows edits, other than
the one the command works at, and every mark, other than the mark `'` and its range. The save status
is as before too, unless lines were to be written and the storage has not taken them; then it is
failed. All that is asked of the scene is that no range or mark has the number of another one, which
is so wherever lines of commands lead from an initial scene. It does not matter how a global command
would run its lines, so this holds inside of one as well. -/
theorem spared_of_error (hs : s.IsNumbered)
    (hc : ∀ name, c.name = some name → name.isGlobal = false)
    (h : (Run.executeWith runLine c).run s = (.error e, s')) :
    s'.told = s.told ∧ s'.document.surface = s.document.surface ∧
      s'.document.history = s.document.history ∧
      s'.session.registers = s.session.registers ∧
      s'.session.lastSubstitution = s.session.lastSubstitution ∧
      (∀ id, s.document.ranges.isTracked id → id ≠ s.range →
        s.document.marks.get? previousMark ≠ some id →
          s'.document.ranges.isTracked id ∧
            s'.document.ranges.held.get? id = s.document.ranges.held.get? id) ∧
      (∀ name, name ≠ previousMark → s'.document.mark? name = s.document.mark? name) ∧
      s'.document.status = if c.name.any CommandName.isWriting ∧ e.isNotSaved then .failed
        else s.document.status := by
  have hspares : s.Spares (c.name.any CommandName.isWriting = true) s' :=
    Run.spares_executeWith hc (fun name hname hwriting ↦ by rwa [hname]) s s' h
  refine ⟨hspares.told, hspares.document.surface, hspares.document.history, hspares.registers,
    hspares.lastSubstitution, fun id hid hrange hprevious ↦ ?_, fun name hname ↦ ?_, ?_⟩
  · have hbystander : s.document.IsBystander s.range id :=
      ⟨hs.document.tracked_lt id hid, hrange, hprevious⟩
    exact ⟨(hspares.document.tracked id hbystander).trans hid, hspares.document.held id hbystander⟩
  · exact hspares.document.mark?_eq hs.document hs.range hname
  · by_cases hwriting : c.name.any CommandName.isWriting = true
    · obtain ⟨name, hname, hwrites⟩ := (Option.any_eq_true _ _).mp hwriting
      have hreports : s.Reports e s' := Run.reports_executeWith hname hwrites s s' h
      simp only [hwriting, true_and]
      exact hreports
    · rw [if_neg fun hfailed ↦ hwriting hfailed.1]
      exact hspares.document.status hwriting

/-- With a line changed and another one marked, the text is to be written and the document left,
but the storage refuses. The mark, the step in the history and the text are still there. -/
theorem spared_of_error_refused_write :
    let lines := ["1s/a/c/".toList, "2kx".toList]
    let reached := (Cli.performAll (Cli.initial {} {} [] "a\nb".toList) lines).2
    let s : Scene := { reached with host := { storage := .shelf [] true } }
    let c : Command := ⟨[], some .wq, false, 1, "f".toList⟩
    ∃ s', (Run.execute c).run s = (.error (.notSaved "f".toList), s') ∧
      s'.document.status = .failed ∧ s'.document.text = "c\nb".toList ∧
      s'.document.history.position = 1 ∧ s'.document.mark? ['x'] = some ⟨2, 2⟩ := by
  intro lines reached s c
  have hreached : reached.IsNumbered := isNumbered_performAll (isNumbered_initial _ _ _ _) lines
  have hs : s.IsNumbered := ⟨hreached.range, hreached.document⟩
  have herror : ((Run.execute c).run s).1 = .error (.notSaved "f".toList) := rfl
  have hrun : (Run.execute c).run s = (.error (.notSaved "f".toList), ((Run.execute c).run s).2) :=
    Prod.ext herror rfl
  obtain ⟨-, hsurface, hhistory, -, -, -, hmarks, hstatus⟩ :=
    spared_of_error hs (by rintro name ⟨⟩; rfl) hrun
  refine ⟨_, hrun, hstatus.trans (if_pos ⟨rfl, rfl⟩), ?_, ?_, ?_⟩
  · exact (congrArg Surface.text hsurface).trans (by decide +kernel)
  · exact (congrArg History.position hhistory).trans (by decide +kernel)
  · exact (hmarks ['x'] (by decide)).trans (by decide +kernel)

end Scene

end LineEditor
