import LineEditor.Proofs.Session.Commands

/-!
# What storing, loading and leaving do

Writing hands a text to the storage and makes the document clean if the storage takes it; editing a
file makes it clean if it comes to loading. Neither says by itself what text that is: it depends on
the lines and the file, which may have to be asked for. `written?` and `loaded?` say it.

Leaving without insisting on it looks at the status only, so whoever leaves without being asked has
a clean document.
-/

namespace LineEditor

namespace Run

variable {α β : Type}

/-! ## Storing and loading -/

/-- The text that writing lines hands to the storage, if the storage takes it. -/
def written? (span : Span) (parameter : Text) (s : Scene) : Option Text :=
  match ((do return (← fileName parameter, ← directory)) : Run (Text × Option Text)).run s with
  | (.ok (file, directory), s) =>
    let content := writtenText s.document.text span
    (s.host.storage.write? file directory content).map fun _ ↦ content
  | (.error _, _) => none

/-- The text that editing a file loads, if it comes to that. -/
def loaded? (parameter : Text) (force : Bool) (s : Scene) : Option Text :=
  match ((do
    guardChanges "Discard unsaved changes?".toList force
    load (← fileName parameter)) : Run Text).run s with
  | (.ok content, _) => some content
  | (.error _, _) => none

theorem run_noteRequest (e : Event) (s : Scene) :
    (noteRequest e).run s = (.ok (), if s.host.storage.isPresent then s.note e else s) := by
  unfold noteRequest
  change (if _ then _ else _ : Run Unit).run s = _
  split <;> rfl

/-- Handing a text to the storage leaves that of the document alone; the document is clean if the
storage takes it, and else failed. -/
theorem save_spec (file : Text) (directory : Option Text) (content : Text) (s : Scene) :
    ((save file directory content).run s).2.document.text = s.document.text ∧
      match s.host.storage.write? file directory content with
      | some _ => ((save file directory content).run s).1 = .ok () ∧
        ((save file directory content).run s).2.document.status = .clean
      | none => ((save file directory content).run s).1 = .error (.notSaved file) ∧
        ((save file directory content).run s).2.document.status = .failed := by
  -- what comes before asking the storage changes neither it nor the text
  obtain ⟨s₁, hnote, hhost, htext⟩ : ∃ s₁,
      (do setStatus .pending; noteRequest (.write file directory content) : Run Unit).run s
          = (.ok (), s₁) ∧ s₁.host = s.host ∧ s₁.document.text = s.document.text := by
    rw [run_bind]
    refine ⟨_, run_noteRequest _ _, ?_⟩
    split <;> exact ⟨rfl, rfl⟩
  have hsave : (save file directory content).run s
      = (match s₁.host.storage.write? file directory content with
        | some storage => do
          modify fun s ↦ { s with host := { s.host with storage := storage } }
          setStatus .clean
        | none => do
          setStatus .failed
          throw (.notSaved file) : Run Unit).run s₁ := by
    unfold save
    rw [← bind_assoc, run_bind, hnote]
    rfl
  rw [hsave, hhost]
  cases s.host.storage.write? file directory content with
  | none => exact ⟨htext, rfl, rfl⟩
  | some storage => exact ⟨htext, rfl, rfl⟩

/-- Writing lines leaves the text alone. The document is clean if the storage takes what it is
handed; else its status stays as it is or becomes failed. -/
theorem write_spec (span : Span) (parameter : Text) (s : Scene) :
    let s' := ((write span parameter).run s).2
    s'.document.text = s.document.text ∧
      match written? span parameter s with
      | some _ => s'.document.status = .clean
      | none => s'.document.status = s.document.status ∨ s'.document.status = .failed := by
  have haside : s.document.Aside ((fileName parameter).run s).2.document :=
    keeps_fileName (P := Scene.On Document.Aside) parameter s
  unfold write written?
  rw [run_bind, run_bind]
  generalize (fileName parameter).run s = r at haside
  rcases r with ⟨e | file, s₁⟩
  · exact ⟨haside.text, .inl haside.status⟩
  · let directory := (some s₁.document.options.directory).filter (· ≠ [])
    let content := writtenText s₁.document.text span
    have hend : ((save file directory content).run s₁).2.document.Aside
        ((do
          save file directory content
          if (← options).file = [] then modifyDocument (·.setFile file)
          display (writtenMessage file content) : Run Unit).run s₁).2.document :=
      aside_run_bind (fun _ ↦ keeps_bind keeps_options fun _ ↦ keeps_guard
        (keeps_modifyDocument fun s ↦ StepFrame.quiet (.settleOptions s.document _ _)) fun _ ↦
          keeps_display _) s₁
    obtain ⟨htext, hsave⟩ := save_spec file directory content s₁
    refine ⟨(hend.text.trans htext).trans haside.text, ?_⟩
    change match (s₁.host.storage.write? file directory content).map fun _ ↦ content with
      | some _ => _
      | none => _
    cases hwrite : s₁.host.storage.write? file directory content with
    | none =>
      rw [hwrite] at hsave
      exact .inr (hend.status.trans hsave.2)
    | some storage =>
      rw [hwrite] at hsave
      exact hend.status.trans hsave.2

/-- What is written are lines of the text as it is. -/
theorem eq_writtenText_of_written? {span : Span} {parameter x : Text} {s : Scene}
    (h : written? span parameter s = some x) : x = writtenText s.document.text span := by
  have haside : s.document.Aside ((fileName parameter).run s).2.document :=
    keeps_fileName (P := Scene.On Document.Aside) parameter s
  unfold written? at h
  rw [run_bind] at h
  generalize (fileName parameter).run s = r at haside h
  rcases r with ⟨e | file, s₁⟩
  · exact absurd h nofun
  · obtain ⟨storage, -, hx⟩ := Option.map_eq_some_iff.mp h
    rw [← hx, ← haside.text]

/-- Editing a file makes the document clean if it comes to loading, and a flat one then holds the
text loaded; else it leaves the document alone. -/
theorem edit_spec (parameter : Text) (force : Bool) (s : Scene) :
    let s' := ((edit parameter force).run s).2
    match loaded? parameter force s with
    | some x => s'.document.status = .clean ∧
      (s.document.surface.IsFlat → s'.document.text = x)
    | none => s.document.Aside s'.document := by
  have hguard : s.document.Aside
    ((guardChanges "Discard unsaved changes?".toList force).run s).2.document :=
      keeps_guardChanges (P := Scene.On Document.Aside) _ _ s
  unfold edit loaded?
  rw [run_bind, run_bind]
  generalize (guardChanges "Discard unsaved changes?".toList force).run s = r at hguard
  rcases r with ⟨e | _, s₁⟩
  · exact hguard
  simp only
  have hname : s₁.document.Aside ((fileName parameter).run s₁).2.document :=
    keeps_fileName (P := Scene.On Document.Aside) _ s₁
  rw [run_bind, run_bind]
  generalize (fileName parameter).run s₁ = r at hname
  rcases r with ⟨e | file, s₂⟩
  · exact hguard.trans hname
  simp only
  have hload : s₂.document.Aside ((load file).run s₂).2.document :=
    keeps_load (P := Scene.On Document.Aside) _ s₂
  rw [run_bind]
  generalize (load file).run s₂ = r at hload
  rcases r with ⟨e | content, s₃⟩
  · exact (hguard.trans hname).trans hload
  · -- from here on nothing fails; moving to the first line is an aside
    let edited := (s₃.document.replace 0 s₃.document.length content .command).2
    let update : Document → Document := fun d ↦
      let d := (d.replace 0 d.length content .command).2.clearHistory
      { d with status := .clean }.setFile file
    have htold : (update s₃.document).Aside ((modifyDocument update).run s₃).2.document := .told _
    have hend : (update s₃.document).Aside
        ((modifyDocument update >>= fun _ ↦ moveToLine 1).run s₃).2.document :=
      htold.trans (aside_run_bind (fun _ ↦ keeps_moveToLine 1) s₃)
    refine ⟨hend.status, fun hflat ↦ ?_⟩
    have hflat' : s₃.document.surface.IsFlat := by
      rw [hload.surface, hname.surface, hguard.surface]
      exact hflat
    have hsurface : (update s₃.document).surface = edited.surface := rfl
    exact (hend.text.trans (congrArg Surface.text hsurface)).trans
      (Document.text_replace_all hflat' content)

section

variable {P : Scene → Scene → Prop}

/-- Handing a text to the storage touches the document for its status only. -/
theorem keeps_save [GlanceFrame P] (hstatus : ∀ status, KeepsScene P (setStatus status))
    (file : Text) (directory : Option Text) (content : Text) :
    KeepsScene P (save file directory content) := by
  refine keeps_bind (hstatus _) fun _ ↦ keeps_bind (keeps_noteRequest rfl) fun _ ↦
    keeps_get_bind fun s ↦ ?_
  cases hwrite : s.host.storage.write? file directory content with
  | none => exact keeps_bind (hstatus _) (fun _ ↦ keeps_throw _) s
  | some storage =>
    have hstored : s.Glance { s with host := { s.host with storage := storage } } :=
      ⟨rfl, rfl, rfl, rfl, rfl, rfl, .write hwrite⟩
    have hstore : P s ((modify fun s ↦
        { s with host := { s.host with storage := storage } } : Run Unit).run s).2 :=
      GlanceFrame.glance hstored
    exact holds_bind hstore fun _ ↦ hstatus _

/-- So does writing lines. -/
theorem keeps_write [StepFrame P] (hstatus : ∀ status, KeepsScene P (setStatus status))
    (span : Span) (parameter : Text) : KeepsScene P (write span parameter) :=
  keeps_bind (keeps_fileName _) fun _ ↦ keeps_bind keeps_directory fun _ ↦
    keeps_bind keeps_text fun _ ↦ keeps_bind (keeps_save hstatus _ _ _) fun _ ↦
      keeps_bind keeps_options fun _ ↦
        keeps_guard (keeps_modifyDocument fun s ↦
          StepFrame.quiet (.settleOptions s.document _ _)) fun _ ↦ keeps_display _

/-- So do the commands that write lines and ask for the document to be closed. -/
theorem keeps_dispatch_write [StepFrame P]
    (hstatus : ∀ status, KeepsScene P (setStatus status)) (runLine : Text → Run Unit)
    {name : CommandName} (c : Command) (span : Span) (hname : name.isStoring = true)
    (hedit : name ≠ .edit) : KeepsScene P (dispatch runLine name c span) := by
  cases name with
  | edit => exact absurd rfl hedit
  | write => exact keeps_write hstatus _ _
  | wq => exact keeps_bind (keeps_write hstatus _ _) fun _ ↦ keeps_quit _
  | xit =>
    exact keeps_bind keeps_document fun _ ↦ keeps_guard (keeps_write hstatus _ _) fun _ ↦
      keeps_quit _
  | _ => exact absurd hname Bool.false_ne_true

end

/-! ## What waits for the open group -/

theorem waits_setStatus (status : SaveStatus) : Keeps Document.Waits (setStatus status) :=
  keeps_modifyDocument fun _ ↦ ⟨id, rfl, fun _ ↦ rfl⟩

/-- The edits of a command wait for the open group to be closed, unless it runs other commands,
steps through the history or loads another text. -/
theorem waits_dispatch (runLine : Text → Run Unit) {name : CommandName} (c : Command) (span : Span)
    (hglobal : name.isGlobal = false) (hwalk : name.walksHistory = false) (hedit : name ≠ .edit) :
    Keeps Document.Waits (dispatch runLine name c span) := by
  cases hstore : name.isStoring with
  | true => exact keeps_dispatch_write waits_setStatus runLine c span hstore hedit
  | false =>
    exact fun s ↦
      (keeps_dispatch (P := Scene.On Document.Mild) runLine c span hglobal hwalk hstore s).waits

end Run

/-! ## Leaving -/

/-- A question is answered. -/
def Event.isQuestion : Event → Bool
  | .asked .. => true
  | _ => false

namespace Run

variable {α β : Type}

/-- Whatever else can be noticed of a run, it does not close the document. -/
def StaysOpen (m : Run α) : Prop :=
  ∀ s, ∃ l, (m.run s).2.trace = s.trace ++ l ∧ .quit ∉ l

theorem staysOpen_of_trace_eq {m : Run α} (h : ∀ s, (m.run s).2.trace = s.trace) : StaysOpen m :=
  fun s ↦ ⟨[], by rw [h, List.append_nil], List.not_mem_nil⟩

theorem staysOpen_bind {m : Run α} {f : α → Run β} (hm : StaysOpen m) (hf : ∀ a, StaysOpen (f a)) :
    StaysOpen (m >>= f) := by
  intro s
  obtain ⟨l, hl, hquit⟩ := hm s
  rw [run_bind]
  generalize m.run s = r at hl
  rcases r with ⟨e | a, s'⟩
  · exact ⟨l, hl, hquit⟩
  · obtain ⟨l', hl', hquit'⟩ := hf a s'
    refine ⟨l ++ l', ?_, ?_⟩
    · rw [← List.append_assoc, ← hl]
      exact hl'
    · rw [List.mem_append]
      exact not_or.mpr ⟨hquit, hquit'⟩

theorem staysOpen_pure (a : α) : StaysOpen (pure a : Run α) := staysOpen_of_trace_eq fun _ ↦ rfl

theorem staysOpen_throw (e : Error) : StaysOpen (throw e : Run α) :=
  staysOpen_of_trace_eq fun _ ↦ rfl

theorem staysOpen_get : StaysOpen (get : Run Scene) := staysOpen_of_trace_eq fun _ ↦ rfl

theorem staysOpen_options : StaysOpen options := staysOpen_of_trace_eq fun _ ↦ rfl

theorem staysOpen_ite {p : Prop} [Decidable p] {m m' : Run α} (h : StaysOpen m)
    (h' : StaysOpen m') : StaysOpen (if p then m else m') := by
  split
  · exact h
  · exact h'

theorem staysOpen_note {e : Event} (h : e ≠ .quit) : StaysOpen (note e) :=
  fun _ ↦ ⟨[e], rfl, fun hmem ↦ h (List.mem_singleton.mp hmem).symm⟩

/-- Observers may be told of something, but not that the document is closed. -/
theorem staysOpen_modifyDocument (f : Document → Document) : StaysOpen (modifyDocument f) := by
  refine fun s ↦ ⟨(f s.document).notices.map .noticed, rfl, fun hmem ↦ ?_⟩
  obtain ⟨n, -, hn⟩ := List.mem_map.mp hmem
  exact absurd hn nofun

theorem staysOpen_fileName (parameter : Text) : StaysOpen (fileName parameter) := by
  have hprompt : StaysOpen (promptFor "File: ".toList) := by
    refine staysOpen_bind staysOpen_get fun s ↦ ?_
    cases s.host.input with
    | none => exact staysOpen_throw _
    | some lines =>
      refine staysOpen_bind (staysOpen_note nofun) fun _ ↦ ?_
      cases lines with
      | nil => exact staysOpen_throw _
      | cons line later => exact staysOpen_of_trace_eq fun _ ↦ rfl
  unfold fileName
  extract_lets name
  refine staysOpen_ite (staysOpen_pure _) (staysOpen_bind staysOpen_options fun o ↦ ?_)
  extract_lets current
  exact staysOpen_ite (staysOpen_pure _) (staysOpen_bind hprompt fun _ ↦
    staysOpen_ite (staysOpen_throw _) (staysOpen_pure _))

theorem staysOpen_save (file : Text) (directory : Option Text) (content : Text) :
    StaysOpen (save file directory content) := by
  have hrequest : StaysOpen (noteRequest (.write file directory content)) :=
    staysOpen_bind staysOpen_get fun _ ↦ staysOpen_ite (staysOpen_note nofun) (staysOpen_pure _)
  refine staysOpen_bind (staysOpen_modifyDocument _) fun _ ↦ staysOpen_bind hrequest fun _ ↦
    staysOpen_bind staysOpen_get fun s ↦ ?_
  cases s.host.storage.write? file directory content with
  | none => exact staysOpen_bind (staysOpen_modifyDocument _) fun _ ↦ staysOpen_throw _
  | some storage =>
    exact staysOpen_bind (staysOpen_of_trace_eq fun _ ↦ rfl) fun _ ↦ staysOpen_modifyDocument _

theorem staysOpen_write (span : Span) (parameter : Text) : StaysOpen (write span parameter) := by
  have hshow : ∀ t, StaysOpen (display t) := fun _ ↦ staysOpen_note nofun
  refine staysOpen_bind (staysOpen_fileName _) fun _ ↦
    staysOpen_bind (staysOpen_of_trace_eq fun _ ↦ rfl) fun _ ↦
      staysOpen_bind (staysOpen_of_trace_eq fun _ ↦ rfl) fun _ ↦
        staysOpen_bind (staysOpen_save _ _ _) fun _ ↦ staysOpen_bind staysOpen_options fun _ ↦ ?_
  exact staysOpen_ite (staysOpen_bind (staysOpen_modifyDocument _) fun _ ↦ hshow _) (hshow _)

/-- Leaving without insisting on it finds the document clean, or asks. -/
theorem quit_spec (s : Scene) :
    s.document.status = .clean ∨
      ∃ e l, e.isQuestion = true ∧ ((quit false).run s).2.trace = s.trace ++ e :: l := by
  by_cases hclean : s.document.status = .clean
  · exact .inl hclean
  · have hdirty : s.document.status.isDirty ∧ (!false) := ⟨decide_eq_true hclean, rfl⟩
    have hguard : guardChanges "Quit without saving?".toList false = (do
        let s ← get
        if s.document.status.isDirty ∧ !false then
          note (.asked "Quit without saving?".toList s.host.consents)
          if !s.host.consents then throw .unsavedChanges : Run Unit) := rfl
    have hrun : (guardChanges "Quit without saving?".toList false).run s = (do
        note (.asked "Quit without saving?".toList s.host.consents)
        if !s.host.consents then throw .unsavedChanges : Run Unit).run s := by
      rw [hguard, run_bind]
      change (if _ then _ else _ : Run Unit).run s = _
      rw [if_pos hdirty]
    unfold quit
    rw [run_bind, hrun]
    refine .inr ⟨.asked "Quit without saving?".toList s.host.consents, ?_⟩
    cases hconsents : s.host.consents with
    | true => exact ⟨[.quit], rfl, List.append_assoc _ _ _⟩
    | false => exact ⟨[], rfl, rfl⟩

/-- A run that leaves without insisting on it and asks no question ends with a clean document. -/
theorem clean_of_quit {m : Run Unit} (hm : StaysOpen m) {s : Scene} {l : List Event}
    (hl : ((m >>= fun _ ↦ quit false).run s).2.trace.drop s.trace.length = l)
    (hquit : .quit ∈ l) (hasked : ∀ e ∈ l, ¬ e.isQuestion) :
    ((m >>= fun _ ↦ quit false).run s).2.document.status = .clean := by
  obtain ⟨l₁, hl₁, hopen⟩ := hm s
  rw [run_bind] at hl ⊢
  generalize m.run s = r at hl₁ hl ⊢
  rcases r with ⟨e | _, s₁⟩
  · simp only at hl hl₁
    rw [hl₁, List.drop_left] at hl
    exact absurd (hl ▸ hquit) hopen
  · simp only at hl hl₁ ⊢
    rcases quit_spec s₁ with hclean | ⟨e, l₂, he, hl₂⟩
    · have haside : s₁.document.Aside ((quit false).run s₁).2.document :=
        keeps_quit (P := Scene.On Document.Aside) false s₁
      exact haside.status.trans hclean
    · rw [hl₂, hl₁, List.append_assoc, List.drop_left] at hl
      have hmem : e ∈ l := by rw [← hl]; simp
      exact absurd he (hasked e hmem)

end Run

end LineEditor
