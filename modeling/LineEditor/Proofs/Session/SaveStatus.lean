import LineEditor.Proofs.Document.Chain
import LineEditor.Proofs.Session.Files
import LineEditor.Proofs.Session.Turns

/-!
# When a document counts as stored

A document that is clean is meant to hold the text it was stored with or loaded from last, so that
it can be left without losing anything. Along the turns of a session that text, the *kept* one, is
what the last storage took or gave, and the initial text before that.

Every change makes a document dirty, and a failed attempt to write makes it failed; only storing and
loading make it clean. So the promise is kept exactly if each text exchanged with a storage is the
text of the document right then. Storing a part of the lines is where it is not.
-/

namespace LineEditor

/-- If the document is clean, it holds this text. -/
def Document.IsFaithful (d : Document) (k : Text) : Prop := d.status = .clean → d.text = k

namespace Turn

/-- Lines are written in the turn. -/
def writes (t : Turn) : Bool :=
  match t.name with
  | .write | .wq => true
  | .xit => t.before.document.status.isDirty
  | _ => false

/-- The text exchanged with the storage in a turn, if there is one. -/
def exchanged? (t : Turn) : Option Text :=
  if t.writes then Run.written? t.span t.command.parameter t.before
  else if t.name = .edit then Run.loaded? t.command.parameter t.command.bang t.before
  else none

/-- The text kept after a turn, if `k` was kept before. -/
def kept (t : Turn) (k : Text) : Text := t.exchanged?.getD k

/-- What can be noticed in a turn. -/
def events (t : Turn) : List Event := t.after.trace.drop t.before.trace.length

/-- The document is closed in a turn without insisting on it, and without a question. -/
def QuitsSilently (t : Turn) : Prop :=
  (t.name = .quit ∨ t.name = .wq ∨ t.name = .xit) ∧ t.command.bang = false ∧
    .quit ∈ t.events ∧ ∀ e ∈ t.events, ¬ e.isQuestion

/-- In the end of a turn, a clean document holds the text kept, and so does one that has been
closed silently. -/
def IsSafe (t : Turn) (k : Text) : Prop :=
  t.after.document.IsFaithful k ∧ (t.QuitsSilently → t.after.document.text = k)

/-- The text exchanged in a turn, if there is one, is that of the document. -/
def IsWhole (t : Turn) : Prop := ∀ x, t.exchanged? = some x → x = t.after.document.text

end Turn

/-- The text kept after turns. -/
def keptAfter (k : Text) (ts : List Turn) : Text := ts.foldl (fun k t ↦ t.kept k) k

/-- All turns are safe with the text kept then. -/
def AreSafe : Text → List Turn → Prop
  | _, [] => True
  | k, t :: ts => t.IsSafe (t.kept k) ∧ AreSafe (t.kept k) ts

theorem areSafe_append {k : Text} {l l' : List Turn} :
    AreSafe k (l ++ l') ↔ AreSafe k l ∧ AreSafe (keptAfter k l) l' := by
  induction l generalizing k with
  | nil => exact (true_and _).symm.to_iff
  | cons t l ih => rw [List.cons_append, AreSafe, AreSafe, ih, and_assoc]; rfl

theorem keptAfter_append (k : Text) (l l' : List Turn) :
    keptAfter k (l ++ l') = keptAfter (keptAfter k l) l' := List.foldl_append

/-! ## What a turn does to the status -/

namespace Document

theorem dirties_replay (d : Document) (kind : EditKind) (e : Edit) :
    d.Dirties (d.replay kind e).2 := by
  rw [replay, Dirties, text_select, status_select]
  exact (d.mild_replace _ _ _ _).dirties

theorem dirties_undoStep (d : Document) : d.Dirties (d.undoStep.getD d) := by
  rw [undoStep, undo?]
  cases d.history.back? with
  | none => exact .inl ⟨rfl, rfl⟩
  | some p => exact dirties_replay { d with history := p.2 } .undo p.1.edit.inverse

theorem dirties_redoStep (d : Document) : d.Dirties (d.redoStep.getD d) := by
  rw [redoStep, redo?]
  cases d.history.forward? with
  | none => exact .inl ⟨rfl, rfl⟩
  | some p => exact dirties_replay { d with history := p.2 } .redo p.1.edit

theorem Dirties.aside {d d₁ d₂ : Document} (h : d.Dirties d₁) (haside : d₁.Aside d₂) :
    d.Dirties d₂ := by
  rw [Dirties, haside.text, haside.status]
  exact h

/-- What a turn comes to: the document is clean and something has been exchanged with the storage,
or nothing has, and the document is as clean as before only if its text is the same. -/
def Settles (d : Document) (exchanged : Option Text) (d' : Document) : Prop :=
  match exchanged with
  | some _ => d'.status = .clean
  | none => (d'.text = d.text ∧ d'.status = d.status) ∨ d'.status ≠ .clean

theorem Dirties.settles {d d' : Document} (h : d.Dirties d') : d.Settles none d' :=
  h.imp_right fun hdirty ↦ by rw [hdirty]; exact nofun

theorem Settles.aside {d d₁ d₂ : Document} {o : Option Text} (h : d.Settles o d₁)
    (haside : d₁.Aside d₂) : d.Settles o d₂ := by
  unfold Settles at *
  rw [haside.text, haside.status]
  exact h

end Document

namespace Run

theorem settles_write (span : Span) (parameter : Text) (s : Scene) :
    s.document.Settles (written? span parameter s) ((write span parameter).run s).2.document := by
  obtain ⟨htext, hstatus⟩ := write_spec span parameter s
  unfold Document.Settles
  cases hw : written? span parameter s with
  | some x =>
    rw [hw] at hstatus
    exact hstatus
  | none =>
    rw [hw] at hstatus
    rcases hstatus with hsame | hfailed
    · exact .inl ⟨htext, hsame⟩
    · exact .inr (by rw [hfailed]; exact nofun)

theorem settles_edit (parameter : Text) (force : Bool) (s : Scene) :
    s.document.Settles (loaded? parameter force s) ((edit parameter force).run s).2.document := by
  have hedit := edit_spec parameter force s
  unfold Document.Settles
  cases hl : loaded? parameter force s with
  | some x =>
    rw [hl] at hedit
    exact hedit.1
  | none =>
    rw [hl] at hedit
    exact .inl ⟨hedit.text, hedit.status⟩

end Run

namespace Turn

variable {t : Turn} {k x : Text}

/-- A turn that writes does nothing else to the document. -/
theorem exists_of_writes (hrun : t.IsRun) (h : t.writes = true) :
    ∃ f : Unit → Run Unit, (∀ u, Run.Keeps Document.Aside (f u)) ∧
      t.after = ((Run.write t.span t.command.parameter >>= f).run t.before).2 := by
  obtain ⟨runLine, hafter⟩ := hrun
  have hquit : ∀ u : Unit, Run.Keeps Document.Aside (Run.quit t.command.bang) :=
    fun _ ↦ Run.keeps_quit _
  rw [hafter]
  unfold writes at h
  cases hname : t.name with
  | write => exact ⟨pure, fun _ ↦ Run.keeps_pure _, by rw [bind_pure]; rfl⟩
  | wq => exact ⟨_, hquit, rfl⟩
  | xit =>
    rw [hname] at h
    refine ⟨_, hquit, ?_⟩
    change ((if t.before.document.status.isDirty then _ else _ : Run Unit).run t.before).2 = _
    rw [if_pos h]
  | _ => rw [hname] at h; exact absurd h Bool.false_ne_true

/-- A turn that exchanges nothing makes the document dirty if it changes its text. -/
theorem dirties (hrun : t.IsRun) (hglobal : t.name.isGlobal = false) (hwrites : t.writes = false)
    (hedit : t.name ≠ .edit) : t.before.document.Dirties t.after.document := by
  obtain ⟨runLine, hafter⟩ := hrun
  rw [hafter]
  unfold writes at hwrites
  cases hname : t.name with
  | write | wq => rw [hname] at hwrites; exact absurd hwrites.symm Bool.false_ne_true
  | edit => exact absurd hname hedit
  | xit =>
    rw [hname] at hwrites
    change t.before.document.Dirties
      ((if t.before.document.status.isDirty then _ else _ : Run Unit).run t.before).2.document
    rw [if_neg (ne_true_of_eq_false hwrites)]
    exact (Document.Aside.mild (Run.keeps_quit (P := Scene.On Document.Aside) _ t.before)).dirties
  | undo => exact t.before.document.dirties_undoStep.aside (Run.aside_walk _ _)
  | redo => exact t.before.document.dirties_redoStep.aside (Run.aside_walk _ _)
  | global | notglobal => rw [hname] at hglobal; exact absurd hglobal.symm Bool.false_ne_true
  | _ =>
    exact (Run.keeps_dispatch (P := Scene.On Document.Mild) runLine t.command t.span rfl rfl rfl
      t.before).dirties

/-- Every turn that runs no other commands settles. -/
theorem settles (hrun : t.IsRun) (hglobal : t.name.isGlobal = false) :
    t.before.document.Settles t.exchanged? t.after.document := by
  unfold exchanged?
  split
  · next hwrites =>
    obtain ⟨f, hf, hafter⟩ := exists_of_writes hrun hwrites
    rw [hafter]
    exact (Run.settles_write _ _ _).aside (Run.aside_run_bind hf _)
  · next hwrites =>
    split
    · next hedit =>
      obtain ⟨runLine, hafter⟩ := hrun
      rw [hafter, hedit]
      exact Run.settles_edit _ _ _
    · next hedit => exact (dirties hrun hglobal (eq_false_of_ne_true hwrites) hedit).settles

/-- On a flat surface, what is loaded is always whole, and what is written is if the lines written
are all of the text. -/
theorem isWhole_iff (hrun : t.IsRun) (hflat : t.before.document.surface.IsFlat) :
    t.IsWhole ↔ t.exchanged? = none ∨ t.name = .edit ∨
      Run.writtenText t.before.document.text t.span = t.before.document.text := by
  unfold IsWhole
  cases hx : t.exchanged? with
  | none => exact iff_of_true (fun x hx ↦ absurd hx nofun) (.inl rfl)
  | some y =>
    rw [or_iff_right nofun]
    unfold exchanged? at hx
    split at hx
    · next hwrites =>
      obtain ⟨f, hf, hafter⟩ := exists_of_writes hrun hwrites
      have hname : t.name ≠ .edit := by
        rintro hname
        rw [writes, hname] at hwrites
        exact absurd hwrites Bool.false_ne_true
      have htext : t.after.document.text = t.before.document.text := by
        rw [hafter]
        exact (Run.aside_run_bind hf _).text.trans (Run.write_spec _ _ t.before).1
      rw [or_iff_right hname, ← Run.eq_writtenText_of_written? hx, htext]
      exact ⟨fun h ↦ h y rfl, fun h z hz ↦ Option.some.inj hz ▸ h⟩
    · next hwrites =>
      split at hx
      · next hedit =>
        refine iff_of_true (fun z hz ↦ ?_) (.inl hedit)
        obtain ⟨runLine, hafter⟩ := hrun
        have hspec := Run.edit_spec t.command.parameter t.command.bang t.before
        rw [hx] at hspec
        rw [hafter, hedit, ← Option.some.inj hz]
        exact (hspec.2 hflat).symm
      · exact absurd hx nofun

/-- A global command exchanges nothing itself. -/
theorem exchanged?_of_isGlobal (h : t.name.isGlobal = true) : t.exchanged? = none := by
  unfold exchanged? writes
  cases hname : t.name with
  | write | wq | xit | edit => rw [hname] at h; exact absurd h Bool.false_ne_true
  | _ => rfl

/-- A command that leaves does so at its end, and may write before that. -/
theorem exists_of_leaves (hrun : t.IsRun) (hname : t.name = .quit ∨ t.name = .wq ∨ t.name = .xit) :
    ∃ m : Run Unit, Run.StaysOpen m ∧
      t.after = ((m >>= fun _ ↦ Run.quit t.command.bang).run t.before).2 := by
  obtain ⟨runLine, hafter⟩ := hrun
  have hwrite := Run.staysOpen_write t.span t.command.parameter
  rw [hafter]
  rcases hname with hname | hname | hname
  · exact ⟨_, Run.staysOpen_pure (), by rw [hname]; rfl⟩
  · exact ⟨_, hwrite, by rw [hname]; rfl⟩
  · refine ⟨_, Run.staysOpen_ite (p := t.before.document.status.isDirty) hwrite
      (Run.staysOpen_pure ()), ?_⟩
    rw [hname]
    change ((if t.before.document.status.isDirty then _ else _ : Run Unit).run t.before).2 = _
    split <;> rfl

/-- Whoever closes a document silently leaves it clean. -/
theorem status_of_quitsSilently (hrun : t.IsRun) (h : t.QuitsSilently) :
    t.after.document.status = .clean := by
  obtain ⟨hname, hbang, hquit, hasked⟩ := h
  obtain ⟨m, hm, hafter⟩ := exists_of_leaves hrun hname
  unfold events at hquit hasked
  rw [hafter, hbang] at hquit hasked ⊢
  exact Run.clean_of_quit hm rfl hquit hasked

/-- A turn that exchanges whole texts only is safe if the one before it has been. -/
theorem isSafe_of_isWhole (hrun : t.IsRun) (hglobal : t.name.isGlobal = false)
    (hwhole : t.IsWhole) (hk : t.before.document.IsFaithful k) : t.IsSafe (t.kept k) := by
  have hfaithful : t.after.document.IsFaithful (t.kept k) := by
    intro hclean
    have hsettles := settles hrun hglobal
    unfold Document.Settles at hsettles
    unfold kept
    cases hx : t.exchanged? with
    | some x => exact (hwhole x hx).symm
    | none =>
      rw [hx] at hsettles
      rcases hsettles with ⟨htext, hstatus⟩ | hchanged
      · exact htext.trans (hk (hstatus.symm.trans hclean))
      · exact absurd hclean hchanged
  exact ⟨hfaithful, fun h ↦ hfaithful (status_of_quitsSilently hrun h)⟩

/-- A turn that is safe exchanges whole texts only. -/
theorem isWhole_of_isSafe (hrun : t.IsRun) (h : t.IsSafe (t.kept k)) :
    t.IsWhole := by
  intro x hx
  have hglobal : t.name.isGlobal = false := by
    rw [← Bool.not_eq_true]
    intro h
    rw [exchanged?_of_isGlobal h] at hx
    exact absurd hx nofun
  have hclean := settles hrun hglobal
  rw [hx] at hclean
  have htext := h.1 hclean
  rw [kept, hx] at htext
  exact htext.symm

end Turn

/-! ## What a course does to the status -/

namespace Document

theorem isFaithful_congr {d d' : Document} {k : Text} (htext : d'.text = d.text)
    (hstatus : d'.status = d.status) (h : d.IsFaithful k) : d'.IsFaithful k :=
  fun hclean ↦ htext.trans (h (hstatus.symm.trans hclean))

theorem isFaithful_openGroup {d : Document} {k : Text} (h : d.IsFaithful k) :
    d.openGroup.IsFaithful k := by
  unfold openGroup
  split <;> exact h

theorem isFaithful_closeGroup {d : Document} {k : Text} (h : d.IsFaithful k) :
    d.closeGroup.IsFaithful k := by
  unfold closeGroup
  split <;> exact h

end Document

namespace Course

variable {s s' : Scene} {l : List Turn}

/-- The turns of a course are commands carried out. -/
theorem isRun (h : Course s l s') {t : Turn} (ht : t ∈ l) : t.IsRun := by
  induction h with
  | aside => exact absurd ht List.not_mem_nil
  | trans _ _ ih ih' => exact (List.mem_append.mp ht).elim ih ih'
  | walk _ hrun => exact List.mem_singleton.mp ht ▸ hrun
  | single _ _ _ hrun => exact List.mem_singleton.mp ht ▸ hrun
  | global _ _ hrun _ ih =>
    rcases List.mem_append.mp ht with ht | ht
    · exact ih ht
    · exact List.mem_singleton.mp ht ▸ hrun

/-- Along a course on which only whole texts are exchanged, a clean document stays faithful to the
text kept. -/
theorem areSafe (h : Course s l s') (hwhole : ∀ t ∈ l, t.IsWhole) {k : Text}
    (hk : s.document.IsFaithful k) : AreSafe k l ∧ s'.document.IsFaithful (keptAfter k l) := by
  induction h generalizing k with
  | aside h => exact ⟨trivial, Document.isFaithful_congr h.text h.status hk⟩
  | trans _ _ ih ih' =>
    obtain ⟨hwhole₁, hwhole₂⟩ := List.forall_mem_append.mp hwhole
    obtain ⟨hsafe, hk'⟩ := ih hwhole₁ hk
    obtain ⟨hsafe', hk''⟩ := ih' hwhole₂ hk'
    rw [areSafe_append, keptAfter_append]
    exact ⟨⟨hsafe, hsafe'⟩, hk''⟩
  | @walk t hwalk hrun =>
    have hglobal := CommandName.isGlobal_of_walksHistory hwalk
    have hsafe := Turn.isSafe_of_isWhole hrun hglobal (hwhole t (List.mem_singleton_self t)) hk
    exact ⟨⟨hsafe, trivial⟩, hsafe.1⟩
  | @single t s hbefore hwalk hglobal hrun =>
    have hopened : t.before.document.IsFaithful k := hbefore ▸ Document.isFaithful_openGroup hk
    have hsafe := Turn.isSafe_of_isWhole hrun hglobal (hwhole t (List.mem_singleton_self t)) hopened
    exact ⟨⟨hsafe, trivial⟩, Document.isFaithful_closeGroup hsafe.1⟩
  | @global t s l hbefore hglobal hrun _ ih =>
    have hopened : t.before.document.IsFaithful k := hbefore ▸ Document.isFaithful_openGroup hk
    -- it exchanges nothing itself, so the text kept is that of the turns inside it
    obtain ⟨hsafe, hk'⟩ := ih (List.forall_mem_append.mp hwhole).1 hopened
    have hkept : t.exchanged? = none := Turn.exchanged?_of_isGlobal hglobal
    have hquits : ¬ t.QuitsSilently := by
      rintro ⟨hname | hname | hname, -⟩ <;> rw [hname] at hglobal <;>
        exact absurd hglobal Bool.false_ne_true
    have hlast : keptAfter k (l ++ [t]) = keptAfter k l := by
      rw [keptAfter_append]
      change t.exchanged?.getD _ = _
      rw [hkept, Option.getD_none]
    have hone : AreSafe (keptAfter k l) [t] := by
      refine ⟨?_, trivial⟩
      rw [Turn.kept, hkept]
      exact ⟨hk', fun h ↦ absurd h hquits⟩
    rw [hlast, areSafe_append]
    exact ⟨⟨hsafe, hone⟩, Document.isFaithful_closeGroup hk'⟩

end Course

theorem AreSafe.isWhole {k : Text} {l : List Turn} (h : AreSafe k l) (hrun : ∀ t ∈ l, t.IsRun) :
    ∀ t ∈ l, t.IsWhole := by
  induction l generalizing k with
  | nil => exact fun _ ht ↦ absurd ht List.not_mem_nil
  | cons t l ih =>
    intro t' ht'
    rcases List.mem_cons.mp ht' with rfl | ht'
    · exact Turn.isWhole_of_isSafe (hrun _ List.mem_cons_self) h.1
    · exact ih h.2 (fun t ht ↦ hrun t (List.mem_cons_of_mem _ ht)) t' ht'

/-- Every turn of a session is safe, and a clean document holds the text kept in the end, exactly if
every text exchanged with the storage is that of the document. -/
theorem Scene.areSafe_turns_iff (s : Scene) (lines : List Text) :
    (AreSafe s.document.text (s.turns lines) ∧
        (s.performAll lines).document.IsFaithful (keptAfter s.document.text (s.turns lines))) ↔
      ∀ t ∈ s.turns lines, t.IsWhole := by
  have hcourse := s.course_performAll lines
  constructor
  · intro ⟨hsafe, _⟩
    exact hsafe.isWhole fun t ht ↦ hcourse.isRun ht
  · intro hwhole
    -- the initial text counts as kept, so nothing is asked of the status to start with
    exact hcourse.areSafe hwhole fun _ ↦ rfl

/-! ## Writing a part of the lines -/

instance (d : Document) (k : Text) : Decidable (d.IsFaithful k) :=
  inferInstanceAs (Decidable (_ → _))

instance (t : Turn) : Decidable t.QuitsSilently := inferInstanceAs (Decidable (_ ∧ _))

/-- With two lines of which the first one is changed and then written, the document counts as
clean, and it is closed without a question although the second line has not been stored. -/
theorem exists_quitsSilently_of_partial_write :
    let s : Scene :=
      { document := .ofSurface (.ofField "a\nb".toList) {}, range := 0,
        host := { storage := .shelf [] false } }
    let lines := ["s/a/x/".toList, "1w f".toList, "q".toList]
    let k := keptAfter s.document.text (s.turns lines)
    ¬ (s.performAll lines).document.IsFaithful k ∧
      ∃ t ∈ s.turns lines, t.QuitsSilently ∧ t.after.document.text ≠ k := by
  decide +kernel

end LineEditor
