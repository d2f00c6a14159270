import LineEditor.Proofs.Session.Lines

/-!
# Following a session by what is told

Inside a line of commands the document goes through many states, and its observers are told in
pieces: what a document has to tell is passed on whenever it changes. What has been told and what is
still to be told make up one list, however much of it has been passed on.

Along this list an observer follows the text of the document through whole lines of commands, as it
does through single operations: through edits, groups and global commands, steps through the
history, texts loaded, and lines that fail half way.
-/

namespace LineEditor

variable {o : Nat}

namespace Scene

variable {s s' s₁ s₂ s₃ : Scene} {d : Document}

/-- An observer that is told of every edit once is kept posted by what happens in a scene. -/
def KeepsPosted (o : Nat) (s s' : Scene) : Prop :=
  s.document.surface.IsFlat → s.document.observers.count o = 1 →
    Document.Posted o s.document s.told s'.document s'.told

theorem KeepsPosted.aside (h : s.Aside s') : s.KeepsPosted o s' := fun hflat _ ↦ by
  rw [h.told]
  exact .of_text_eq (h.document.surface ▸ hflat) h.observers h.document.text

theorem KeepsPosted.trans (h : s₁.KeepsPosted o s₂) (h' : s₂.KeepsPosted o s₃) :
    s₁.KeepsPosted o s₃ := fun hflat ho ↦
  have hposted := h hflat ho
  hposted.trans (h' hposted.flat (hposted.observers ▸ ho))

/-- A document keeps an observer posted whatever it has been told before. -/
theorem posted_passedOn (h : s.document.KeepsPosted o d) (hflat : s.document.surface.IsFlat)
    (ho : s.document.observers.count o = 1) :
    Document.Posted o s.document s.told d (s.passedOn ++ d.untold) := by
  obtain ⟨hflat', hobservers, new, huntold, hfollow⟩ := h hflat ho
  refine ⟨hflat', hobservers, new, ?_, hfollow⟩
  rw [told, huntold, List.append_assoc]

theorem keepsPosted_withDocument (h : s.document.KeepsPosted o d) :
    s.KeepsPosted o (s.withDocument d) := fun hflat ho ↦ by
  have hposted := posted_passedOn h hflat ho
  rw [← told_withDocument] at hposted
  exact ⟨hposted.flat, hposted.observers, hposted.follow⟩

end Scene

/-- Commands keep observers posted by the way they edit. -/
theorem Document.Edited.keepsPosted {d d' : Document} (h : d.Edited d') : d.KeepsPosted o d' := by
  induction h with
  | quiet h => exact .of_surface_eq h.aside.surface h.observers h.untold
  | replace d start stop piece kind => exact keepsPosted_replace o d start stop piece kind
  | trans _ _ ih ih' => exact ih.trans ih'

/-- So they do by all the ways in which they handle documents. -/
theorem Document.Handled.keepsPosted {d d' : Document} (h : d.Handled d') :
    d.KeepsPosted o d' := by
  induction h with
  | edited h => exact h.keepsPosted
  | setStatus d status => exact .of_surface_eq rfl rfl rfl
  | clearHistory d => exact keepsPosted_clearHistory o d
  | openGroup d => exact keepsPosted_openGroup o d
  | closeGroup d => exact keepsPosted_closeGroup o d
  | undo h => exact stepKeepsPosted_undo? o _ _ h
  | redo h => exact stepKeepsPosted_redo? o _ _ h
  | trans _ _ ih ih' => exact ih.trans ih'

instance : SceneFrame (Scene.KeepsPosted o) := ⟨.aside, .trans⟩

instance : LineFrame (Scene.KeepsPosted o) :=
  ⟨fun h ↦ Scene.keepsPosted_withDocument h.keepsPosted⟩

namespace Scene

/-! ## Sessions -/

/-- A scene can be reached by operations on its document and whole lines of commands, in any
order. -/
inductive Reaches (s₀ : Scene) : Scene → Prop
  | start : Reaches s₀ s₀
  /-- Something is done to the text of the document. -/
  | operation {s : Scene} (h : Reaches s₀ s) (op : Operation) (hop : op.StaysFlat s.document) :
    Reaches s₀ { s with document := op.perform s.document }
  /-- A line of commands is run. -/
  | line {s : Scene} (h : Reaches s₀ s) (line : Text) : Reaches s₀ (s.perform line).2

/-- An observer is kept posted by whatever happens. -/
theorem Reaches.keepsPosted {s₀ s : Scene} (h : Reaches s₀ s) (o : Nat) : s₀.KeepsPosted o s := by
  induction h with
  | start => exact .aside (.refl s₀)
  | operation _ op hop ih =>
    exact ih.trans (posted_passedOn (Document.keepsPosted_perform o _ hop))
  | line _ l ih => exact ih.trans (holds_perform _ l)

/-- An observer that is added is told of every edit once. -/
theorem count_observe {d : Document} (hfresh : d.nextObserver ∉ d.observers) :
    d.observe.2.observers.count d.observe.1 = 1 := by
  have hnone : d.observers.count d.nextObserver = 0 := List.count_eq_zero.mpr hfresh
  simp [Document.observe, hnone]

/-- **An observer has the text of the document.** When an observer is added to a document on a flat
surface, then after any operations and lines of commands what it has been told leads from the text
at which it was added to the text that the document has. Of each replacement it is told before and
after, the least edit that makes it, and of nothing that leaves the text as it is. -/
theorem follow_of_reaches {s : Scene} (hflat : s.document.surface.IsFlat)
    (hfresh : s.document.nextObserver ∉ s.document.observers) :
    let o := s.document.observe.1
    let start : Scene := { s with document := s.document.observe.2 }
    (∀ s', start.Reaches s' → s'.document.Informs o ∧
      ∃ new, s'.told = start.told ++ new ∧ Notice.follow o new s.document.text = s'.document.text) ∧
    ∀ d : Document, d.surface.IsFlat → d.observers.count o = 1 → d.Informs o := by
  intro o start
  have ho : start.document.observers.count o = 1 := count_observe hfresh
  refine ⟨fun s' h ↦ ?_, fun d ↦ Document.informs⟩
  have hposted := h.keepsPosted o hflat ho
  exact ⟨Document.informs hposted.flat (hposted.observers ▸ ho), hposted.follow⟩

/-- Typing, a line of two commands of which the second one fails, and stepping back: an observer is
told of three edits, before and after each. -/
theorem follow_of_reaches_failing_line :
    let s : Scene := { document := .ofSurface (.ofField "a\nb".toList) {}, range := 0 }
    let start : Scene := { s with document := s.document.observe.2 }
    ∃ s', start.Reaches s' ∧ s'.document.text = "xa\nb".toList ∧ s'.told.length = 6 ∧
      Notice.follow 0 s'.told "a\nb".toList = s'.document.text := by
  intro s start
  have hstart : start.Reaches start := .start
  have hreaches := ((hstart.operation (.replace 0 0 ['x'] .typing) trivial).line
    "1d|s/z/y/".toList).operation .undo trivial
  obtain ⟨-, new, htold, hfollow⟩ :=
    (follow_of_reaches (s := s) trivial List.not_mem_nil).1 _ hreaches
  have hnothing : start.told = [] := rfl
  rw [hnothing, List.nil_append] at htold
  exact ⟨_, hreaches, by decide +kernel, by decide +kernel, htold ▸ hfollow⟩

end Scene

end LineEditor
