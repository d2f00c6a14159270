import LineEditor.Proofs.Session.Failing
import LineEditor.Proofs.Session.Files

/-!
# Commands that fail at a glance

A command can fail because its addresses mean no lines, because its parameter cannot be read,
because a register cannot be used or a file cannot be had, or because a question is not answered as
it should be. Most commands find all of this out at a glance, before they do anything: what holds
across glances holds across such a command if it fails. Others cannot fail at all once they know
their lines.

Where a text is to be written, the storage is the last to refuse it, and nobody else says so by the
error `notSaved`.
-/

namespace LineEditor.Run

variable {P : Scene → Scene → Prop} {e : Error}

/-! ## Commands that never fail -/

theorem completes_insertBehind (after neighbour : Nat) (body : Text) (flip : Bool) :
    Completes (insertBehind after neighbour body flip) :=
  completes_bind (completes_bind completes_document fun _ ↦
    completes_ite (completes_pure _) (completes_pure _)) fun _ ↦ completes_modifyAt _

/-- Lines are put in place of others; the unnamed register takes every text. -/
theorem completes_change (span : Span) (body : Text) (bang : Bool) :
    Completes (change span body bang) :=
  completes_bind completes_text fun _ ↦
    completes_bind (completes_bind completes_session fun _ ↦ completes_modifySession _) fun _ ↦
      completes_bind (completes_bind completes_document fun _ ↦
        completes_ite (completes_pure _) (completes_pure _)) fun _ ↦ completes_modifyAt _

theorem completes_print (span : Span) (numbered : Bool) : Completes (print span numbered) :=
  completes_bind completes_text fun _ ↦ completes_bind (completes_note _) fun _ ↦
    completes_moveToLine _

theorem completes_marks : Completes marks :=
  completes_bind completes_document fun _ ↦ completes_displayLines _

theorem completes_registers : Completes registers :=
  completes_bind completes_session fun _ ↦ completes_displayLines _

/-- At the end of the history there is no step to make. -/
theorem completes_walk (step : Document → Option (Bounds × Document)) : Completes (walk step) :=
  completes_modifyAt _

theorem completes_file (parameter : Text) : Completes (file parameter) :=
  completes_ite (completes_modifyDocument _)
    (completes_bind completes_document fun _ ↦ completes_note _)

/-! ## Commands that look before they act -/

section

variable [GlanceFrame P]

theorem failsWith_store (register : Option Char) (t : Text) :
    FailsWith e P (store register t) := by
  refine failsWith_bind keeps_session fun s ↦ ?_
  cases s.registers.store? register t with
  | none => exact failsWith_of_keeps (keeps_refuse _)
  | some registers => exact failsWith_of_completes (completes_modifySession _)

theorem failsWith_deleteOrYank (span : Span) (parameter : Text) (remove : Bool) :
    FailsWith e P (deleteOrYank span parameter remove) := by
  refine failsWith_bind (keeps_registerAndCount _) fun _ ↦ failsWith_bind keeps_text fun _ ↦
    failsWith_bind_completes (failsWith_store _ _) fun _ ↦ ?_
  exact completes_guard (completes_modifyDocument _) fun _ ↦
    completes_bind completes_text fun _ ↦ completes_moveToLine _

theorem failsWith_put (span : Span) (parameter : Text) (before : Bool) :
    FailsWith e P (put span parameter before) := by
  unfold put
  extract_lets after insertOf
  have hinsert : ∀ register, FailsWith e P (insertOf register) := by
    refine fun register ↦ failsWith_bind keeps_session fun s ↦ ?_
    cases s.registers.get? register with
    | none => exact failsWith_of_keeps (keeps_throw _)
    | some t => exact failsWith_of_completes (completes_modifyAt _)
  have hcounted : ∀ p, FailsWith e P
      (do insertOf (← pure (← registerAndCount p).1) : Run Unit) := fun p ↦
    failsWith_bind (keeps_registerAndCount p) fun _ ↦ failsWith_bind (keeps_pure _) hinsert
  split
  · exact failsWith_ite (failsWith_bind (keeps_pure _) hinsert) (hcounted _)
  · exact hcounted _

theorem failsWith_join (span : Span) (parameter : Text) (verbatim : Bool) :
    FailsWith e P (join span parameter verbatim) :=
  failsWith_bind (keeps_registerAndCount _) fun _ ↦ failsWith_of_completes <|
    completes_bind completes_text fun _ ↦ completes_ite (completes_modifyAt _) (completes_pure _)

theorem failsWith_transfer (span : Span) (parameter : Text) (remove : Bool) :
    FailsWith e P (transfer span parameter remove) := by
  unfold transfer
  extract_lets first last transferTo
  have htransfer : ∀ tokens, FailsWith e P (transferTo tokens) := by
    refine fun tokens ↦ failsWith_bind (keeps_resolve tokens) fun target ↦ ?_
    cases target with
    | none => exact failsWith_of_keeps (keeps_refuse _)
    | some target =>
      exact failsWith_of_completes <| completes_ite (completes_modifyAt _) <|
        completes_bind completes_text fun _ ↦ completes_modifyAt _
  split
  · exact failsWith_bind (keeps_pure _) htransfer
  · exact failsWith_bind (keeps_refuse _) htransfer

theorem failsWith_shift (span : Span) (parameter : Text) (times : Nat) (right : Bool) :
    FailsWith e P (shift span parameter times right) :=
  failsWith_bind (keeps_registerAndCount _) fun _ ↦ failsWith_of_completes <|
    completes_bind completes_text fun _ ↦ completes_modifyAt _

theorem failsWith_mark (span : Span) (parameter : Text) : FailsWith e P (mark span parameter) := by
  unfold mark
  extract_lets name
  refine failsWith_guard (keeps_refuse _) fun _ ↦ failsWith_of_completes ?_
  exact completes_bind completes_text fun _ ↦ completes_modifyDocument _

theorem failsWith_read (span : Span) (parameter : Text) : FailsWith e P (read span parameter) :=
  failsWith_bind (keeps_fileName _) fun _ ↦ failsWith_bind (keeps_load _) fun _ ↦
    failsWith_of_completes (completes_modifyAt _)

theorem failsWith_edit (parameter : Text) (force : Bool) :
    FailsWith e P (edit parameter force) :=
  failsWith_bind (keeps_guardChanges _ _) fun _ ↦ failsWith_bind (keeps_fileName _) fun _ ↦
    failsWith_bind (keeps_load _) fun _ ↦ failsWith_of_completes <|
      completes_bind (completes_modifyDocument _) fun _ ↦ completes_moveToLine _

end

/-- Once its addresses mean lines, every command comes to being carried out. -/
theorem failsWith_approach {c : Command} (h : FailsWith e P (resolve c.addresses)) :
    FailsWith e P (approach c) := by
  refine failsWith_bind_completes h fun addressed ↦ ?_
  extract_lets place answerNone nameLines
  have hplace : Completes place := by
    cases addressed with
    | none => exact completes_pure _
    | some span => exact completes_modifyAt _
  have hname : ∀ u, Completes (nameLines u) := by
    intro u
    dsimp only [nameLines, answerNone]
    cases c.name with
    | none =>
      exact completes_bind hplace fun _ ↦ completes_guard (completes_modifyAt _) fun _ ↦
        completes_pure _
    | some name =>
      exact completes_bind completes_get fun s ↦ completes_guard hplace fun _ ↦ completes_pure _
  exact completes_guard (completes_modifyAt _) hname

/-! ## Commands that write -/

/-- Writing lines fails where the file is chosen, or where it is handed to the storage. -/
theorem write_eq_error {span : Span} {parameter : Text} {s s' : Scene}
    (h : (write span parameter).run s = (.error e, s')) :
    (fileName parameter).run s = (.error e, s') ∨
      ∃ file directory content s₁, (fileName parameter).run s = (.ok file, s₁) ∧
        (save file directory content).run s₁ = (.error e, s') := by
  rcases run_bind_eq_error.mp h with hname | ⟨file, s₁, hname, h⟩
  · exact .inl hname
  -- what to write, and where, is looked up without failing
  rcases run_bind_eq_error.mp h with hdirectory | ⟨directory, s₂, hdirectory, h⟩
  · cases hdirectory
  cases hdirectory
  rcases run_bind_eq_error.mp h with htext | ⟨t, s₂, htext, h⟩
  · cases htext
  cases htext
  rcases run_bind_eq_error.mp h with hsave | ⟨_, s₂, -, hend⟩
  · exact .inr ⟨file, _, _, s₁, hname, hsave⟩
  · refine absurd hend (Completes.ne_error ?_ _ _)
    exact completes_bind completes_options fun _ ↦
      completes_guard (completes_modifyDocument _) fun _ ↦ completes_note _

/-- A text that the storage takes leaves the document clean. -/
theorem status_of_write_ok {span : Span} {parameter : Text} {s s' : Scene}
    (h : (write span parameter).run s = (.ok (), s')) : s'.document.status = .clean := by
  obtain ⟨file, s₁, -, h⟩ := run_bind_eq_ok.mp h
  obtain ⟨directory, s₂, -, h⟩ := run_bind_eq_ok.mp h
  obtain ⟨t, s₃, -, h⟩ := run_bind_eq_ok.mp h
  obtain ⟨_, s₄, hsave, h⟩ := run_bind_eq_ok.mp h
  have hclean : s₄.document.status = .clean := by
    obtain ⟨-, hspec⟩ := save_spec file directory (writtenText t span) s₃
    rw [hsave] at hspec
    split at hspec
    · exact hspec.2
    · exact absurd hspec.1 nofun
  have hend : Keeps Document.Aside (do
      if (← options).file = [] then modifyDocument (·.setFile file)
      display (writtenMessage file (writtenText t span)) : Run Unit) :=
    keeps_bind keeps_options fun _ ↦ keeps_guard
      (keeps_modifyDocument fun s ↦ StepFrame.quiet (.settleOptions s.document _ _)) fun _ ↦
        keeps_display _
  exact (hend.of_run h).status.trans hclean

/-- Nobody is asked whether a clean document may be left. -/
theorem run_quit_of_clean {s : Scene} (h : s.document.status = .clean) (force : Bool) :
    (quit force).run s = (.ok (), s.note .quit) := by
  have hdirty : ¬ (s.document.status.isDirty ∧ !force) := by
    rw [h]
    exact fun hdirty ↦ Bool.false_ne_true hdirty.1
  have hguard : (guardChanges "Quit without saving?".toList force).run s = (.ok (), s) := by
    unfold guardChanges
    rw [run_bind]
    change (if _ then _ else _ : Run Unit).run s = _
    rw [if_neg hdirty]
    rfl
  rw [quit, run_bind, hguard]
  rfl

end LineEditor.Run

namespace LineEditor

/-- The command writes lines to a file. -/
def CommandName.isWriting : CommandName → Bool
  | write | wq | xit => true
  | _ => false

namespace Run

variable {P : Scene → Scene → Prop} {e : Error}

/-- A command that writes fails only where its writing fails: a document that has been written can
be left, and so can one that need not be written. -/
theorem failsWith_dispatch_of_isWriting (runLine : Text → Run Unit) {name : CommandName}
    {c : Command} {span : Span} (hname : name.isWriting = true)
    (h : FailsWith e P (write span c.parameter)) :
    FailsWith e P (dispatch runLine name c span) := by
  have hleave : FailsWith e P (write span c.parameter >>= fun _ ↦ quit c.bang) := by
    intro s s' hfail
    rcases run_bind_eq_error.mp hfail with hwrite | ⟨_, s₁, hwrite, hquit⟩
    · exact h s s' hwrite
    · -- the document has just been written, so nobody is asked whether to leave it
      rw [run_quit_of_clean (status_of_write_ok hwrite)] at hquit
      exact absurd hquit nofun
  cases name with
  | write => exact h
  | wq => exact hleave
  | xit =>
    intro s s' hfail
    change (if s.document.status.isDirty then _ else _ : Run Unit).run s = _ at hfail
    split at hfail
    · exact hleave s s' hfail
    · next hclean =>
      have hstatus : s.document.status = .clean := by simpa [SaveStatus.isDirty] using hclean
      have hquit := run_quit_of_clean hstatus c.bang
      exact absurd (hquit.symm.trans hfail) nofun
  | _ => exact absurd hname Bool.false_ne_true

/-! ### Who says that a text has not been saved -/

variable {file : Text}

theorem never_notSaved_patternOrLast (pattern : Text) :
    Never (.notSaved file) (patternOrLast pattern) := by
  refine failsWith_ite (failsWith_of_completes (completes_pure _)) ?_
  refine never_bind (failsWith_of_completes completes_session) fun s ↦ ?_
  split
  · exact failsWith_of_completes (completes_pure _)
  · exact never_throw nofun

theorem never_notSaved_baseLine (current : Nat) (lines : Nat × Nat) (base : AddressBase) :
    Never (.notSaved file) (baseLine current lines base) := by
  refine never_bind (failsWith_of_completes completes_document) fun d ↦ ?_
  cases base with
  | current | empty | last | whole | currentRange | line =>
    exact failsWith_of_completes (completes_pure _)
  | mark name =>
    simp only
    split
    · exact failsWith_of_completes (completes_pure _)
    · exact never_throw nofun
  | search pattern letters backward =>
    have hflags : d.searchFlags letters ≠ .error (.notSaved file) := by
      unfold Document.searchFlags
      split <;> nofun
    have hmatcher (f : SearchFlags) (pattern : Text) :
        Document.matcher f pattern ≠ .error (.notSaved file) := by
      unfold Document.matcher
      split <;> nofun
    refine never_bind (never_notSaved_patternOrLast pattern) fun pattern ↦
      never_bind (never_orFail hflags) fun f ↦
        never_bind (never_orFail (hmatcher f pattern)) fun m ↦ ?_
    split
    · exact failsWith_of_completes
        (completes_bind (completes_modifySession _) fun _ ↦ completes_pure _)
    · exact never_throw nofun

theorem never_notSaved_foundLines (alone : Bool) (lines : Nat × Nat) (tokens : List AddressToken)
    (current : Nat) (found : List Nat) :
    Never (.notSaved file) (foundLines alone lines tokens current found) := by
  induction tokens generalizing current found with
  | nil => exact failsWith_of_completes (completes_pure _)
  | cons token rest ih =>
    cases token with
    | comma => exact ih _ _
    | semicolon => exact ih _ _
    | address a =>
      have hambiguous : Error.ambiguousAddress "%%".toList ≠ .notSaved file := by rintro ⟨⟩
      rw [foundLines]
      exact never_guard (never_throw hambiguous) fun _ ↦
        never_bind (failsWith_of_completes completes_text) fun _ ↦
          never_bind (never_notSaved_baseLine _ _ _) fun _ ↦ ih _ _

/-- Addresses are not to blame. -/
theorem never_notSaved_approach (c : Command) : Never (.notSaved file) (approach c) :=
  failsWith_approach <| never_bind (failsWith_of_completes completes_get) fun _ ↦
    never_bind (never_notSaved_foundLines _ _ _ _ _) fun _ ↦
      failsWith_of_completes (completes_pure _)

/-- Nor is the user who is asked for the file. -/
theorem never_notSaved_fileName (parameter : Text) :
    Never (.notSaved file) (fileName parameter) := by
  have hprompt (message : Text) : Never (.notSaved file) (promptFor message) := by
    refine never_bind (failsWith_of_completes completes_get) fun s ↦ ?_
    cases s.host.input with
    | none => exact never_throw nofun
    | some lines =>
      refine never_bind (failsWith_of_completes (completes_note _)) fun _ ↦ ?_
      cases lines with
      | nil => exact never_throw nofun
      | cons line later => exact failsWith_of_completes fun _ ↦ ⟨_, _, rfl⟩
  unfold fileName
  extract_lets name
  refine failsWith_ite (failsWith_of_completes (completes_pure _)) <|
    never_bind (failsWith_of_completes completes_options) fun o ↦ ?_
  extract_lets current
  exact failsWith_ite (failsWith_of_completes (completes_pure _)) <|
    never_bind (hprompt _) fun _ ↦
      failsWith_ite (never_throw nofun) (failsWith_of_completes (completes_pure _))

end Run

end LineEditor
