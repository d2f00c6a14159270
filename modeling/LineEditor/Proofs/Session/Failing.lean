import LineEditor.Proofs.Session.Keeps

/-!
# Runs that fail

What a run keeps, it keeps whether it succeeds or fails. When a command fails, more may be kept than
that: it has not come to what it would have done last. `Run.FailsWith e P m` says that `P` holds
across `m` whenever `m` fails with the error `e`, and `Run.Completes m` that `m` never fails. What
is done at the end of a run, by steps that never fail, is done by a run that succeeds.
-/

namespace LineEditor.Run

variable {P : Scene → Scene → Prop} {e : Error} {α β : Type} {m : Run α} {f : α → Run β}

/-- Whenever the run fails with the error, the relation holds between the scene before it and the
scene after it. -/
def FailsWith (e : Error) (P : Scene → Scene → Prop) (m : Run α) : Prop :=
  ∀ s s', m.run s = (.error e, s') → P s s'

/-- The run never fails. -/
def Completes (m : Run α) : Prop := ∀ s, ∃ a s', m.run s = (.ok a, s')

theorem run_bind_eq_error {s s' : Scene} :
    (m >>= f).run s = (.error e, s') ↔
      m.run s = (.error e, s') ∨ ∃ a s₁, m.run s = (.ok a, s₁) ∧ (f a).run s₁ = (.error e, s') := by
  rw [run_bind]
  generalize m.run s = r
  rcases r with ⟨e' | a, s₁⟩
  · constructor
    · intro h
      cases h
      exact .inl rfl
    · rintro (h | ⟨_, _, hm, -⟩)
      · cases h
        rfl
      · cases hm
  · constructor
    · exact fun h ↦ .inr ⟨a, s₁, rfl, h⟩
    · rintro (h | ⟨_, _, hm, h⟩)
      · cases h
      · cases hm
        exact h

/-! ## Runs that never fail -/

theorem Completes.ne_error (h : Completes m) (s s' : Scene) : m.run s ≠ (.error e, s') := by
  obtain ⟨a, s₁, hrun⟩ := h s
  rw [hrun]
  nofun

theorem completes_pure (a : α) : Completes (pure a : Run α) := fun s ↦ ⟨a, s, rfl⟩

theorem completes_bind (hm : Completes m) (hf : ∀ a, Completes (f a)) : Completes (m >>= f) := by
  intro s
  obtain ⟨a, s₁, hrun⟩ := hm s
  rw [run_bind, hrun]
  exact hf a s₁

theorem completes_ite {p : Prop} [Decidable p] {m' : Run α} (h : Completes m)
    (h' : Completes m') : Completes (if p then m else m') := by
  split
  · exact h
  · exact h'

theorem completes_guard {p : Prop} [Decidable p] {m : Run PUnit} {f : PUnit → Run β}
    (hm : Completes m) (hf : ∀ a, Completes (f a)) :
    Completes (if p then m >>= f else f ⟨⟩) := completes_ite (completes_bind hm hf) (hf ⟨⟩)

theorem completes_get : Completes (get : Run Scene) := fun _ ↦ ⟨_, _, rfl⟩

theorem completes_text : Completes text := fun _ ↦ ⟨_, _, rfl⟩

theorem completes_document : Completes document := fun _ ↦ ⟨_, _, rfl⟩

theorem completes_options : Completes options := fun _ ↦ ⟨_, _, rfl⟩

theorem completes_session : Completes session := fun _ ↦ ⟨_, _, rfl⟩

theorem completes_modifyDocument (f : Document → Document) : Completes (modifyDocument f) :=
  fun _ ↦ ⟨_, _, rfl⟩

theorem completes_modifyAt (f : Document → RangeId → Document) : Completes (modifyAt f) :=
  fun _ ↦ ⟨_, _, rfl⟩

theorem completes_moveToLines (first last : Nat) : Completes (moveToLines first last) :=
  completes_modifyAt _

theorem completes_moveToLine (n : Nat) : Completes (moveToLine n) := completes_moveToLines n n

theorem completes_modifySession (f : Session → Session) : Completes (modifySession f) :=
  fun _ ↦ ⟨_, _, rfl⟩

theorem completes_note (e : Event) : Completes (note e) := fun _ ↦ ⟨_, _, rfl⟩

theorem completes_displayLines (ls : List Text) : Completes (displayLines ls) :=
  completes_ite (completes_pure ()) (completes_note _)

/-! ## Runs that may fail -/

theorem failsWith_of_keeps (h : KeepsScene P m) : FailsWith e P m :=
  fun _ _ hfail ↦ h.of_run hfail

theorem failsWith_of_completes (h : Completes m) : FailsWith e P m :=
  fun s s' hfail ↦ absurd hfail (h.ne_error s s')

/-- What comes after a run is not done when the run fails. -/
theorem failsWith_bind_completes (hm : FailsWith e P m) (hf : ∀ a, Completes (f a)) :
    FailsWith e P (m >>= f) := by
  intro s s' h
  rcases run_bind_eq_error.mp h with hfail | ⟨a, s₁, -, hfail⟩
  · exact hm s s' hfail
  · exact absurd hfail ((hf a).ne_error s₁ s')

theorem failsWith_ite {p : Prop} [Decidable p] {m' : Run α} (h : FailsWith e P m)
    (h' : FailsWith e P m') : FailsWith e P (if p then m else m') := by
  split
  · exact h
  · exact h'

/-- A run that keeps the relation may come before one that keeps it when it fails. -/
theorem failsWith_bind [GlanceFrame P] (hm : KeepsScene P m) (hf : ∀ a, FailsWith e P (f a)) :
    FailsWith e P (m >>= f) := by
  intro s s' h
  rcases run_bind_eq_error.mp h with hfail | ⟨a, s₁, hrun, hfail⟩
  · exact hm.of_run hfail
  · exact GlanceFrame.trans (hm.of_run hrun) (hf a s₁ s' hfail)

/-- A run that starts by looking at the document knows in which state it is. -/
theorem failsWith_document_bind {f : Document → Run β}
    (h : ∀ s s', (f s.document).run s = (.error e, s') → P s s') :
    FailsWith e P (document >>= f) := h

theorem failsWith_guard [GlanceFrame P] {p : Prop} [Decidable p] {m : Run PUnit}
    {f : PUnit → Run β} (hm : KeepsScene P m) (hf : ∀ a, FailsWith e P (f a)) :
    FailsWith e P (if p then m >>= f else f ⟨⟩) := failsWith_ite (failsWith_bind hm hf) (hf ⟨⟩)

/-! ## Runs that never fail with a given error -/

/-- The run never fails with the error. -/
abbrev Never (e : Error) (m : Run α) : Prop := FailsWith e (fun _ _ ↦ False) m

theorem never_bind (hm : Never e m) (hf : ∀ a, Never e (f a)) : Never e (m >>= f) := by
  intro s s' h
  rcases run_bind_eq_error.mp h with hfail | ⟨a, s₁, -, hfail⟩
  · exact hm s s' hfail
  · exact hf a s₁ s' hfail

theorem never_guard {p : Prop} [Decidable p] {m : Run PUnit} {f : PUnit → Run β}
    (hm : Never e m) (hf : ∀ a, Never e (f a)) : Never e (if p then m >>= f else f ⟨⟩) :=
  failsWith_ite (never_bind hm hf) (hf ⟨⟩)

theorem never_throw {e' : Error} (h : e' ≠ e) : Never e (throw e' : Run α) := by
  intro s s' hfail
  cases hfail
  exact h rfl

theorem never_orFail {r : Except Error α} (h : r ≠ .error e) : Never e (orFail r) := by
  cases r with
  | ok a => exact failsWith_of_completes (completes_pure a)
  | error e' => exact never_throw fun heq ↦ h (congrArg Except.error heq)

end LineEditor.Run
