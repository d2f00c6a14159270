import LineEditor.Cli
import LineEditor.Proofs.Command.Segments
import LineEditor.Proofs.Session.Copying
import LineEditor.Proofs.Session.SaveStatus

/-!
# Saving at the end

Asked to save, the program runs the line `w` behind all others if the document is dirty then. Nobody
answers its questions, so this line ends in one of three ways: the disk takes the text, the disk
refuses it, or the document belongs to no file and the question for one is dismissed. The exit code
tells the second way from the first, but not the third. Commands can bring it about: the name of the
file is an option like any other.

Everything else about the end depends on the host being what it was at the start, a disk and nobody
to ask, through all lines of commands.
-/

namespace LineEditor

/-! ## The host through lines of commands -/

/-- The host answers as before. -/
def Scene.Serves (s s' : Scene) : Prop := s.host.Serves s'.host

instance : LineFrame Scene.Serves where
  aside h := h.host
  trans := Host.Serves.trans
  handled _ := .refl _

/-! ## The line that writes -/

theorem SaveStatus.isDirty_eq_true_iff {status : SaveStatus} :
    status.isDirty = true ↔ status ≠ .clean := decide_eq_true_iff

namespace Run

variable {s : Scene}

/-- The line `w` writes the whole text, as one step of the history. -/
theorem run_line_write (s : Scene) :
    (line ['w']).run s = (do
      grouped (write ⟨1, s.document.text.lineCount⟩ [])
      bookmark currentMark : Run Unit).run s := by
  let c : Command := ⟨[], some .write, false, 1, []⟩
  have hscan : (Command.scan ['w']).toOption = some (c, []) := by decide +kernel
  unfold line lineWith
  rw [Command.commands_of_scan hscan rfl]
  change (execute c >>= fun _ ↦ pure ⟨⟩ : Run PUnit).run s = _
  rw [bind_pure_unit, execute, executeWith, run_bind, run_approach rfl rfl]
  rfl

theorem writtenText_whole (t : Text) : writtenText t ⟨1, t.lineCount⟩ = t :=
  if_pos ⟨Nat.le_refl 1, Nat.le_refl _⟩

/-- Without a parameter the file is that of the document. -/
theorem run_fileName_nil (hfile : s.document.options.file ≠ []) :
    (fileName []).run s = (.ok s.document.options.file, s) := by
  have hget : options.run s = (.ok s.document.options, s) := rfl
  have htrim : ¬ Text.trim [] ≠ [] := fun h ↦ h rfl
  rw [fileName, if_neg htrim, run_bind, hget]
  simp only [hfile, ne_eq, not_false_iff, if_true]
  rfl

/-- If the document belongs to no file and there is nobody to ask, there is none. -/
theorem run_fileName_nil_of_nameless (hfile : s.document.options.file = [])
    (hinput : s.host.input = none) : (fileName []).run s = (.error .cancelled, s) := by
  have hget : options.run s = (.ok s.document.options, s) := rfl
  have htrim : ¬ Text.trim [] ≠ [] := fun h ↦ h rfl
  have hscene : (get : Run Scene).run s = (.ok s, s) := rfl
  have hprompt : (promptFor "File: ".toList).run s = (.error .cancelled, s) := by
    rw [promptFor, run_bind, hscene]
    simp only [hinput]
    rfl
  rw [fileName, if_neg htrim, run_bind, hget]
  simp only [hfile, ne_eq, not_true, if_false]
  rw [run_bind, hprompt]

/-- If writing fails, the line fails with it. -/
theorem run_line_write_of_error {e : Error} {s₁ : Scene}
    (h : (write ⟨1, s.document.text.lineCount⟩ []).run s.opened = (.error e, s₁)) :
    (line ['w']).run s = (.error e, s₁.closed) := by
  rw [run_line_write, run_bind, run_grouped, h]

/-- If the storage takes the text, the line is completed and the document clean. -/
theorem exists_perform_write {storage : Storage} (hfile : s.document.options.file ≠ [])
    (h : s.host.storage.write? s.document.options.file (directoryOf s.document.options)
      s.document.text = some storage) :
    ∃ s', s.perform ['w'] = (.completed, s') ∧ s'.document.text = s.document.text ∧
      s'.document.status = .clean ∧ s'.host.storage = storage := by
  have hopened := s.stays_opened
  rw [← hopened.options] at hfile h
  rw [← hopened.text, ← writtenText_whole s.opened.document.text] at h
  obtain ⟨s₁, hwrite, hsurface, hstatus, -, hstorage⟩ :=
    exists_run_write (run_fileName_nil hfile) h
  obtain ⟨s₂, hmark, hmarked⟩ := stays_bookmark currentMark s₁.closed
  have haside : s₁.closed.Aside s₂ := (keeps_bookmark currentMark).of_run hmark
  have hline : (line ['w']).run s = (.ok (), s₂) := by
    rw [run_line_write, run_bind, run_grouped, ← hopened.text, hwrite]
    exact hmark
  have hperform : s.perform ['w'] = (.completed, s₂) := by rw [Scene.perform, hline]
  refine ⟨s₂, hperform, ?_, ?_, ?_⟩
  · rw [hmarked.text, s₁.stays_closed.text, Document.text, hsurface]
    exact hopened.text
  · rw [haside.document.status, s₁.status_closed, hstatus]
  · cases hmark
    exact hstorage

/-- Writing lines fails if the storage refuses them. -/
theorem exists_run_write_of_refused {parameter file : Text} {span : Span}
    (hname : (fileName parameter).run s = (.ok file, s))
    (h : s.host.storage.write? file (directoryOf s.document.options)
      (writtenText s.document.text span) = none) :
    ∃ s', (write span parameter).run s = (.error (.notSaved file), s') := by
  obtain ⟨-, hsave⟩ := save_spec file (directoryOf s.document.options)
    (writtenText s.document.text span) s
  rw [h] at hsave
  rw [run_write hname, run_bind]
  generalize (save _ _ _).run s = r at hsave
  obtain ⟨result, s₁⟩ := r
  obtain ⟨rfl, -⟩ := hsave
  exact ⟨s₁, rfl⟩

/-- If the storage refuses the text, so does the line. -/
theorem exists_perform_write_of_refused (hfile : s.document.options.file ≠ [])
    (h : s.host.storage.write? s.document.options.file (directoryOf s.document.options)
      s.document.text = none) :
    ∃ s', s.perform ['w'] = (.failed (.notSaved s.document.options.file), s') := by
  have hopened := s.stays_opened
  rw [← hopened.options] at hfile h ⊢
  rw [← hopened.text, ← writtenText_whole s.opened.document.text] at h
  obtain ⟨s₁, hwrite⟩ := exists_run_write_of_refused (run_fileName_nil hfile) h
  rw [hopened.text] at hwrite
  rw [Scene.perform, run_line_write_of_error hwrite]
  exact ⟨_, rfl⟩

/-- If the document belongs to no file and there is nobody to ask, the line is cut short. -/
theorem exists_perform_write_of_nameless (hfile : s.document.options.file = [])
    (hinput : s.host.input = none) :
    ∃ s', s.perform ['w'] = (.cancelled, s') ∧ s'.document.status = s.document.status := by
  have hname : (fileName []).run s.opened = (.error .cancelled, s.opened) :=
    run_fileName_nil_of_nameless (s.stays_opened.options ▸ hfile) hinput
  have hwrite : (write ⟨1, s.document.text.lineCount⟩ []).run s.opened
      = (.error .cancelled, s.opened) := by
    rw [write, run_bind, hname]
  have hperform : s.perform ['w'] = (.cancelled, s.opened.closed) := by
    rw [Scene.perform, run_line_write_of_error hwrite]
  exact ⟨_, hperform, s.opened.status_closed.trans s.status_opened⟩

end Run

namespace Cli

variable {a : Arguments} {c : Config} {disk : Disk} {t : Text} {s s₁ : Scene}

/-! ## Runs of the program -/

/-- The lines of commands that the program runs. -/
def Arguments.lines (a : Arguments) : List Text := a.commands.filter fun line ↦ Text.trim line ≠ []

/-- The text that the program starts with, `none` if it refuses to start. -/
def startText? (a : Arguments) (disk : Disk) : Option Text :=
  match a.file with
  | none => if a.save then none else some []
  | some file =>
    match disk.entry? file with
    | some .directory | some .binary => none
    | some (.file t) => some t
    | none => some []

/-- Whether all is well in the end of a run that starts with a text, and the scene then. -/
def ending (a : Arguments) (c : Config) (disk : Disk) (t : Text) : Bool × Scene :=
  performAndSave (initial a c disk t) a.lines a.save

/-- The exit code says whether all is well. -/
theorem exitCode_reportOn (a : Arguments) (ok : Bool) (s : Scene) :
    ((reportOn a ok s).exitCode = 0 ↔ ok = true) ∧
      ((reportOn a ok s).exitCode = 1 ↔ ok = false) := by
  cases ok <;> simp [reportOn]

/-- A run of the program fails at once or is a report on its end. -/
theorem runWith_spec (a : Arguments) (c : Config) (disk : Disk) :
    match startText? a disk with
    | some t => runWith a c disk = reportOn a (ending a c disk t).1 (ending a c disk t).2
    | none => (runWith a c disk).exitCode = 1 := by
  unfold startText? runWith
  cases a.file with
  | none =>
    by_cases hsave : a.save = true
    · simp only [if_pos hsave]
      rfl
    · simp only [if_neg hsave]
      rfl
  | some file =>
    simp only
    cases disk.entry? file with
    | none => rfl
    | some entry => cases entry <;> rfl

/-- All lines are run, unless one closes the document or is not completed. -/
theorem performAll_spec {lines : List Text} {ok : Option Bool}
    (h : performAll s lines = (ok, s₁)) :
    (ok = none → s₁ = s.performAll lines) ∧ (ok = some true → .quit ∈ s₁.trace) := by
  have hsome : ∀ b : Bool, some b ≠ none := Option.some_ne_none
  have hfails : some false ≠ some true := fun h ↦ Bool.false_ne_true (Option.some.inj h)
  induction lines generalizing s with
  | nil =>
    cases h
    exact ⟨fun _ ↦ rfl, fun h ↦ absurd h.symm (hsome true)⟩
  | cons line rest ih =>
    rw [performAll] at h
    rw [Scene.performAll, List.foldl_cons]
    generalize s.perform line = r at h
    rcases r with ⟨_ | _ | e, s'⟩
    · simp only at h
      split at h
      · next hquit =>
        cases h
        exact ⟨fun h ↦ absurd h (hsome true), fun _ ↦ List.contains_iff_mem.mp hquit⟩
      · exact ih h
    · cases h
      exact ⟨fun h ↦ absurd h (hsome false), fun h ↦ absurd h hfails⟩
    · cases h
      exact ⟨fun h ↦ absurd h (hsome false), fun h ↦ absurd h hfails⟩

/-- If all is well and nothing has closed the document, all lines have been run. -/
theorem fst_performAll_eq_none {lines : List Text} {save : Bool}
    (hwell : (performAndSave s lines save).1 = true)
    (hquit : .quit ∉ (performAndSave s lines save).2.trace) : (performAll s lines).1 = none := by
  rcases h : performAll s lines with ⟨_ | ok, s₁⟩
  · rfl
  · rw [performAndSave, h] at hwell hquit
    simp only at hwell hquit
    subst hwell
    exact absurd ((performAll_spec h).2 rfl) hquit

/-! ## Saving -/

theorem performAndSave_of_clean {lines : List Text} (h : performAll s lines = (none, s₁))
    (hclean : s₁.document.status.isDirty = false) (save : Bool) :
    performAndSave s lines save = (true, s₁) := by
  rw [performAndSave, h]
  simp only [hclean, Bool.and_false, Bool.false_eq_true, if_false]

/-- A dirty document is saved in one of three ways: there is no file to write it to and nobody to
ask for one, and all is well nevertheless; the disk refuses it; or the disk takes it. -/
theorem performAndSave_ways {lines : List Text} (h : performAll s lines = (none, s₁))
    (hdirty : s₁.document.status.isDirty = true) (hinput : s₁.host.input = none)
    (hdisk : s₁.host.storage = .disk disk false) :
    let file := s₁.document.options.file
    let outcome := (s₁.perform ['w']).1
    let r := performAndSave s lines true
    (file = [] ∧ outcome = .cancelled ∧ r.1 = true ∧ r.2.document.status.isDirty = true) ∨
    (file ≠ [] ∧ outcome ≠ .completed ∧ r.1 = false) ∨
    (file ≠ [] ∧ outcome = .completed ∧ r.1 = true ∧ r.2.document.status = .clean ∧
      r.2.document.text = s₁.document.text ∧
      (diskOf r.2.host.storage).read?
        (Disk.inDirectory (Run.directoryOf s₁.document.options) file) = some s₁.document.text) := by
  intro file outcome r
  dsimp only [outcome, r]
  rw [performAndSave, h]
  simp only [hdirty, Bool.and_self, if_true]
  by_cases hfile : s₁.document.options.file = []
  · obtain ⟨s', hperform, hstatus⟩ := Run.exists_perform_write_of_nameless hfile hinput
    rw [hperform]
    exact .inl ⟨hfile, rfl, rfl, hstatus ▸ hdirty⟩
  · cases hwrite : s₁.host.storage.write? file (Run.directoryOf s₁.document.options)
      s₁.document.text with
    | none =>
      obtain ⟨s', hperform⟩ := Run.exists_perform_write_of_refused hfile hwrite
      rw [hperform]
      exact .inr (.inl ⟨hfile, nofun, rfl⟩)
    | some storage =>
      obtain ⟨s', hperform, htext, hstatus, hstorage⟩ := Run.exists_perform_write hfile hwrite
      rw [hdisk] at hwrite
      obtain ⟨disk', rfl, hread⟩ := Storage.read?_disk_of_write? hwrite
      rw [hperform]
      refine .inr (.inr ⟨hfile, rfl, rfl, hstatus, htext, ?_⟩)
      rw [hstorage]
      exact hread

/-- Not all is well whenever the text is not written, exactly if the document belongs to a file. -/
theorem tells_iff {lines : List Text} (h : performAll s lines = (none, s₁))
    (hdirty : s₁.document.status.isDirty = true) (hinput : s₁.host.input = none)
    (hdisk : s₁.host.storage = .disk disk false) :
    ((s₁.perform ['w']).1 ≠ .completed → (performAndSave s lines true).1 = false) ↔
      s₁.document.options.file ≠ [] := by
  rcases performAndSave_ways h hdirty hinput hdisk with
    ⟨hfile, houtcome, hok, -⟩ | ⟨hfile, -, hok⟩ | ⟨hfile, houtcome, -⟩
  · refine iff_of_false (fun h ↦ ?_) fun h ↦ h hfile
    rw [houtcome, hok] at h
    exact absurd (h nofun) nofun
  · exact iff_of_true (fun _ ↦ hok) hfile
  · exact iff_of_true (fun h ↦ absurd houtcome h) hfile

/-- If all is well and nothing has closed the document, it is clean exactly if it was clean behind
all lines or belonged to a file then, and what it holds has been written or kept. -/
theorem clean_iff_of_well {lines : List Text} {k : Text}
    (hwell : (performAndSave s lines true).1 = true)
    (hquit : .quit ∉ (performAndSave s lines true).2.trace)
    (hinput : (performAll s lines).2.host.input = none)
    (hdisk : (performAll s lines).2.host.storage = .disk disk false)
    (hk : s.document.IsFaithful k) :
    let d := (performAll s lines).2.document
    let s' := (performAndSave s lines true).2
    (s'.document.status = .clean ↔ (d.status.isDirty → d.options.file ≠ [])) ∧
    (s'.document.status = .clean →
      if d.status.isDirty then
        s'.document.text = d.text ∧
          (diskOf s'.host.storage).read?
            (Disk.inDirectory (Run.directoryOf d.options) d.options.file) = some d.text
      else
        (∀ turn ∈ s.turns lines, turn.IsWhole) →
          s'.document.text = keptAfter k (s.turns lines)) := by
  intro d s'
  have hreached : performAll s lines = (none, (performAll s lines).2) :=
    Prod.ext (fst_performAll_eq_none hwell hquit) rfl
  by_cases hdirty : d.status.isDirty = true
  · rw [if_pos hdirty]
    rcases performAndSave_ways hreached hdirty hinput hdisk with
      ⟨hfile, -, -, hends⟩ | ⟨-, -, hfails⟩ | ⟨hfile, -, -, hclean, htext, hread⟩
    · have hends := SaveStatus.isDirty_eq_true_iff.mp hends
      exact ⟨iff_of_false hends fun h ↦ h hdirty hfile, fun hclean ↦ absurd hclean hends⟩
    · exact absurd (hfails.symm.trans hwell) nofun
    · exact ⟨iff_of_true hclean fun _ ↦ hfile, fun _ ↦ ⟨htext, hread⟩⟩
  · have hclean : d.status = .clean :=
      Decidable.byContradiction fun h ↦ hdirty (SaveStatus.isDirty_eq_true_iff.mpr h)
    have hs' : s' = (performAll s lines).2 :=
      congrArg Prod.snd (performAndSave_of_clean hreached (eq_false_of_ne_true hdirty) true)
    have hcourse := s.course_performAll lines
    rw [← (performAll_spec hreached).1 rfl] at hcourse
    rw [if_neg hdirty, hs']
    exact ⟨iff_of_true hclean fun h ↦ absurd h hdirty,
      fun _ hwhole ↦ (hcourse.areSafe hwhole hk).2 hclean⟩

theorem text_initial (a : Arguments) (c : Config) (disk : Disk) (t : Text) :
    (initial a c disk t).document.text = t := by
  unfold initial
  cases a.file <;> rfl

/-- **Saving at the end.** Suppose the program is asked to save, and not to write for show only. If
it ends well and nothing has closed the document, the document is clean exactly if it was clean
behind all lines of commands, or belonged to a file then. If it was dirty then, all of it has been
written to that file. If it was clean, it holds the text that was written or loaded last, or the one
it started with, as long as every text that was exchanged was a whole one. Whenever the text is to
be written and that does not complete, the exit code tells it, exactly if the document belongs to a
file. -/
theorem saves_at_end (hsave : a.save = true) (hdry : a.dryRun = false) (c : Config) (disk : Disk) :
    let report := runWith a c disk
    (report.exitCode = 0 → ∃ t, startText? a disk = some t) ∧
    ∀ t, startText? a disk = some t →
      let s₀ := initial a c disk t
      let reached := performAll s₀ a.lines
      let d := reached.2.document
      let s := (ending a c disk t).2
      (report.exitCode = 0 → .quit ∉ s.trace →
        (s.document.status = .clean ↔ (d.status.isDirty → d.options.file ≠ [])) ∧
        (s.document.status = .clean →
          if d.status.isDirty then
            s.document.text = d.text ∧
              report.disk.read? (Disk.inDirectory (Run.directoryOf d.options) d.options.file)
                = some d.text
          else
            (∀ turn ∈ s₀.turns a.lines, turn.IsWhole) →
              s.document.text = keptAfter t (s₀.turns a.lines))) ∧
      (reached.1 = none → d.status.isDirty →
        (((reached.2.perform ['w']).1 ≠ .completed → report.exitCode = 1) ↔
          d.options.file ≠ [])) := by
  intro report
  have hspec := runWith_spec a c disk
  refine ⟨fun hexit ↦ ?_, fun t ht ↦ ?_⟩
  · cases hstart : startText? a disk with
    | some t => exact ⟨t, rfl⟩
    | none =>
      rw [hstart] at hspec
      exact absurd (hexit.symm.trans hspec) nofun
  rw [ht] at hspec
  intro s₀ reached d s
  -- the host is the same kind of host as at the start
  have hserves : s₀.host.Serves reached.2.host := Scene.holds_performAll (P := Scene.Serves) s₀ _
  have hinput : reached.2.host.input = none := hserves.input rfl
  obtain ⟨disk', hdisk⟩ := hserves.storage disk a.dryRun rfl
  rw [hdry] at hdisk
  have hending : ending a c disk t = performAndSave s₀ a.lines true := by rw [ending, hsave]
  have hreport : report = reportOn a (ending a c disk t).1 s := hspec
  obtain ⟨hwell, hfails⟩ := exitCode_reportOn a (ending a c disk t).1 s
  have hread : report.disk = diskOf s.host.storage := congrArg Report.disk hreport
  rw [hread, hreport, hwell, hfails]
  dsimp only [s]
  rw [hending]
  refine ⟨fun hok hquit ↦ ?_, fun hnone hdirty ↦ ?_⟩
  · exact clean_iff_of_well hok hquit hinput hdisk fun _ ↦ text_initial a c disk t
  · exact tells_iff (Prod.ext hnone rfl) hdirty hinput hdisk

/-- A line is deleted and the rest is written. -/
theorem saves_at_end_of_deleted_line :
    let a : Arguments :=
      { file := some "n.txt".toList, commands := ["1d".toList], save := true }
    let disk : Disk := Disk.place [] ["n.txt".toList] (.file "One\nTwo\n".toList)
    (runWith a {} disk).exitCode = 0 ∧
      (runWith a {} disk).disk.read? "n.txt".toList = some "Two\n".toList := by
  intro a disk
  let d := (performAll (initial a {} disk "One\nTwo\n".toList) a.lines).2.document
  have hexit : (runWith a {} disk).exitCode = 0 := by decide +kernel
  obtain ⟨-, hsaves⟩ := saves_at_end (a := a) rfl rfl {} disk
  obtain ⟨hwell, -⟩ := hsaves "One\nTwo\n".toList (by decide +kernel)
  obtain ⟨hclean, hsaved⟩ := hwell hexit (by decide +kernel)
  have hread := hsaved (hclean.mpr fun _ ↦ by decide +kernel)
  rw [if_pos (by decide +kernel)] at hread
  have hplace : Disk.inDirectory (Run.directoryOf d.options) d.options.file = "n.txt".toList := by
    decide +kernel
  have htext : d.text = "Two\n".toList := by decide +kernel
  rw [hplace, htext] at hread
  exact ⟨hexit, hread.2⟩

/-- Without a file to write to, the change is lost, and the exit code does not tell it. -/
theorem not_saves_at_end :
    let a : Arguments :=
      { file := some "n.txt".toList, commands := ["1d".toList, "set file=".toList], save := true }
    let disk : Disk := Disk.place [] ["n.txt".toList] (.file "One\nTwo\n".toList)
    let s := (ending a {} disk "One\nTwo\n".toList).2
    startText? a disk = some "One\nTwo\n".toList ∧ (runWith a {} disk).exitCode = 0 ∧
      (runWith a {} disk).disk = disk ∧ .quit ∉ s.trace ∧ s.document.status ≠ .clean ∧
      s.document.text = "Two\n".toList := by
  decide +kernel

end Cli

end LineEditor
