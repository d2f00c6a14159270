import LineEditor.Proofs.Document.Chain

/-!
# Runs of operations on a document

Whoever holds a document may edit it, let the host edit it, open and close groups, step through the
history and clear it, in any order. Two things are promised: what is edited in the name of the
history is edited by the history only, and it is not stepped through while a group is open.

However such a run goes, the history is a chain of texts that meets the basis of the document. The
basis is described here from the run alone: it is the current text, but while a group is open it is
the text at which the outermost group was opened, or at which the history was cleared last.
-/

namespace LineEditor

/-- What can be done to the text of a document. -/
inductive Operation where
  /-- The text between two offsets is replaced. -/
  | replace (start stop : Nat) (piece : Text) (kind : EditKind)
  /-- A text is written through a range. -/
  | write (id : RangeId) (piece : Text) (kind : EditKind) (indent : Text)
  /-- The host edits the surface when it is told to. -/
  | editNative (kind : EditKind) (edit : Surface → Surface)
  /-- The host has edited the surface. -/
  | absorb (s : Surface) (kind : EditKind) (caret : Option Nat)
  /-- A group of edits is opened. -/
  | openGroup
  /-- The group opened last is closed. -/
  | closeGroup
  /-- All edits are forgotten. -/
  | clearHistory
  /-- The last edit is taken back, if there is one. -/
  | undo
  /-- The edit taken back last is made again, if there is one. -/
  | redo

namespace Operation

/-- The document after an operation. -/
def perform (op : Operation) (d : Document) : Document :=
  match op with
  | replace start stop piece kind => (d.replace start stop piece kind).2
  | write id piece kind indent => (d.write id piece kind indent).2
  | editNative kind edit => (d.editNative kind edit).2
  | absorb s kind caret => (d.absorb s kind caret).2
  | openGroup => d.openGroup
  | closeGroup => d.closeGroup
  | clearHistory => d.clearHistory
  | undo => d.undoStep.getD d
  | redo => d.redoStep.getD d

/-- Edits are not made in the name of the history, the host leaves a flat surface flat, and the
history is not stepped through while a group is open. -/
def IsAllowed (op : Operation) (d : Document) : Prop :=
  match op with
  | replace _ _ _ kind => kind.isReplay = false
  | write _ _ kind _ => kind.isReplay = false
  | editNative kind edit => kind.isReplay = false ∧ (edit d.surface).IsFlat
  | absorb s kind _ => kind.isReplay = false ∧ s.IsFlat
  | openGroup | closeGroup | clearHistory => True
  | undo | redo => d.group = none

/-- The basis of a document after an operation, if it was `b` before. -/
def basis (op : Operation) (d : Document) (b : Text) : Text :=
  match op with
  | clearHistory => d.text
  | op => if d.group.isSome ∧ (op.perform d).group.isSome then b else (op.perform d).text

end Operation

namespace Document

variable {d d₀ d' : Document} {kind : EditKind} {e? : Option Edit} {s t u b : Text}

/-- A document can be reached by operations, with a basis that stays where it is while a group is
open and the history is not cleared, and else follows the text. -/
inductive Reaches (d₀ : Document) : Document → Text → Prop
  | start : Reaches d₀ d₀ d₀.text
  | step {d : Document} {b : Text} (h : Reaches d₀ d b) (op : Operation) (hop : op.IsAllowed d) :
    Reaches d₀ (op.perform d) (op.basis d b)

/-! ## What an operation keeps -/

/-- What every operation keeps: the surface is flat and the history is a chain that fits. -/
structure Sound (d : Document) (capacity : Nat) : Prop where
  /-- The surface is flat. -/
  flat : d.surface.IsFlat
  /-- The history is a chain that meets the basis. -/
  chain : ∃ s u, d.history.Chain s d.basis u
  /-- There are no more records than there may be. -/
  fits : d.history.Fits
  /-- The capacity stays the same. -/
  capacity : d.history.capacity = capacity

theorem sound_ofSurface {s : Surface} (hs : s.IsFlat) (c : Config) :
    (ofSurface s c).Sound (max c.historyDepth 1) :=
  ⟨hs, ⟨s.text, s.text, History.Chain.ofCapacity _ _⟩, History.Fits.ofCapacity _, rfl⟩

private theorem Makes.sound {n : Nat} (h : d.Makes kind e? d') (hkind : kind.isReplay = false)
    (hflat : d'.surface.IsFlat) (hd : d.Sound n) : d'.Sound n := by
  obtain ⟨s, u, hc⟩ := hd.chain
  obtain ⟨s', u', hc', -⟩ := h.chain hkind hc
  exact ⟨hflat, ⟨s', u', hc'⟩, h.fits hd.fits, h.capacity.trans hd.capacity⟩

private theorem sound_step {n : Nat} {step : Document → Option Document}
    {turn : History → Option (Record × History)} {edit : Record → Edit}
    (hw : Walks id step turn edit) (hg : d.group = none) (hd : d.Sound n) :
    ((step d).getD d).Sound n := by
  cases hstep : step d with
  | none => exact hd
  | some d' =>
    obtain ⟨s, u, hc⟩ := hd.chain
    rw [basis_of_group_eq_none hg] at hc
    obtain ⟨r, (hturn : turn d.history = some (r, d'.history)),
      (htext : d'.text = (edit r).apply d.text), (hg' : d'.group = d.group), hflat⟩ :=
      hw.exists_of_step hd.flat hstep
    have hc' := hw.isStep.chain hc hturn
    rw [← htext, ← basis_of_group_eq_none (hg'.trans hg)] at hc'
    exact ⟨hflat, ⟨s, u, hc'⟩, hw.isStep.fits hd.fits hturn,
      (hw.isStep.capacity hturn).trans hd.capacity⟩

/-- Every operation keeps a document sound. -/
theorem Sound.perform {n : Nat} (hd : d.Sound n) {op : Operation} (hop : op.IsAllowed d) :
    (op.perform d).Sound n := by
  cases op with
  | replace start stop piece kind =>
    exact (makes_replace hd.flat start stop piece kind).sound hop
      (isFlat_replace hd.flat start stop piece kind) hd
  | write id piece kind indent =>
    exact (makes_write hd.flat id piece kind indent).sound hop
      (isFlat_write hd.flat id piece kind indent) hd
  | editNative kind edit =>
    refine (d.makes_editNative kind edit).sound hop.1 ?_ hd
    rw [surface_editNative]
    exact hop.2
  | absorb s kind caret =>
    refine (d.makes_absorb s kind caret).sound hop.1 ?_ hd
    rw [surface_absorb]
    exact hop.2
  | openGroup =>
    obtain ⟨hhistory, hbasis, hsurface⟩ := d.openGroup_spec
    refine ⟨?_, ?_, ?_, ?_⟩
    · rw [Operation.perform, hsurface]
      exact hd.flat
    · rw [Operation.perform, hhistory, hbasis]
      exact hd.chain
    · rw [Operation.perform, hhistory]
      exact hd.fits
    · rw [Operation.perform, hhistory]
      exact hd.capacity
  | closeGroup =>
    obtain ⟨s, u, hc⟩ := hd.chain
    obtain ⟨s', u', hc', -⟩ := chain_closeGroup hc
    refine ⟨?_, ⟨s', u', hc'⟩, fits_closeGroup hd.fits, d.capacity_closeGroup.trans hd.capacity⟩
    rw [Operation.perform, surface_closeGroup]
    exact hd.flat
  | clearHistory =>
    exact ⟨hd.flat, ⟨d.text, d.text, d.chain_clearHistory⟩, .clear d.history, hd.capacity⟩
  | undo => exact sound_step walks_undoStep hop hd
  | redo => exact sound_step walks_redoStep hop hd

/-! ## The basis in a run -/

private theorem basis_of_group_eq (h : d'.group = d.group) :
    d'.basis = if d.group.isSome ∧ d'.group.isSome then d.basis else d'.text := by
  unfold basis
  cases hg : d.group with
  | none => rw [h, hg]; rfl
  | some g => rw [h, hg]; rfl

/-- The basis of a document is what the run says. -/
theorem Sound.basis_perform {n : Nat} (hd : d.Sound n) {op : Operation} (hop : op.IsAllowed d) :
    (op.perform d).basis = op.basis d d.basis := by
  cases op with
  | replace start stop piece kind => exact basis_of_group_eq (makes_replace hd.flat _ _ _ _).group
  | write id piece kind indent => exact basis_of_group_eq (makes_write hd.flat _ _ _ _).group
  | editNative kind edit => exact basis_of_group_eq (d.makes_editNative kind edit).group
  | absorb s kind caret => exact basis_of_group_eq (d.makes_absorb s kind caret).group
  | openGroup =>
    cases hg : d.group <;> simp [Operation.basis, Operation.perform, openGroup, basis, hg, text]
  | closeGroup =>
    rcases hg : d.group with - | ⟨- | inner, before⟩ <;>
      simp [Operation.basis, Operation.perform, closeGroup, basis, hg, text]
  | clearHistory =>
    cases hg : d.group <;> simp [Operation.basis, Operation.perform, clearHistory, basis, hg, text]
  | undo =>
    refine basis_of_group_eq ?_
    rw [Operation.perform]
    cases hstep : d.undoStep with
    | none => rfl
    | some d' => exact (walks_undoStep.exists_of_step hd.flat hstep).choose_spec.2.2.1
  | redo =>
    refine basis_of_group_eq ?_
    rw [Operation.perform]
    cases hstep : d.redoStep with
    | none => rfl
    | some d' => exact (walks_redoStep.exists_of_step hd.flat hstep).choose_spec.2.2.1

/-- A run that starts from a sound document without an open group leads to sound documents only,
and says what their basis is. -/
theorem Reaches.sound {n : Nat} (h : Reaches d₀ d b) (hd : d₀.Sound n) (hg : d₀.group = none) :
    d.Sound n ∧ d.basis = b := by
  induction h with
  | start => exact ⟨hd, basis_of_group_eq_none hg⟩
  | step _ op hop ih =>
    obtain ⟨hsound, hbasis⟩ := ih
    exact ⟨hsound.perform hop, hbasis ▸ hsound.basis_perform hop⟩

/-! ## The history along a run -/

/-- The history of a document is a chain of texts that meets the text `b`. -/
structure IsChained (d : Document) (b : Text) (capacity : Nat) : Prop where
  /-- The history stands somewhere in it. -/
  position_le : d.history.position ≤ d.history.length
  /-- There are no more records than there may be. -/
  length_le : d.history.length ≤ capacity
  /-- Each record leads from one text to the next, there and back, and the history stands at `b`.
  Without an open group this is the text of the document, and undoing until nothing is left and then
  redoing until nothing is left ends at the last of the texts. -/
  texts : ∃ T : Nat → Text,
    (∀ i (hi : i < d.history.records.length),
      d.history.records[i].edit.apply (T i) = T (i + 1) ∧
        d.history.records[i].edit.inverse.apply (T (i + 1)) = T i) ∧
    T d.history.position = b ∧
    (d.group = none → d.text = b ∧
      ∃ d₁ d₂, Exhausts undoStep d d₁ ∧ Exhausts redoStep d₁ d₂ ∧
        d₁.text = T 0 ∧ d₂.text = T d.history.length)

theorem Sound.isChained {n : Nat} (h : d.Sound n) : d.IsChained d.basis n := by
  obtain ⟨first, last, hc⟩ := h.chain
  refine ⟨Nat.le_add_right _ _, h.capacity ▸ h.fits,
    fun i ↦ History.replayed (d.history.records.take i) first, fun i hi ↦ ?_, hc.replayed_position,
    fun hg ↦ ?_⟩
  · have hleads := hc.records.leads_getElem hi
    exact ⟨hleads.apply_eq, hleads.inverse_apply_eq⟩
  · rw [basis_of_group_eq_none hg] at hc ⊢
    obtain ⟨d₁, hundo, hfirst, -, hrecords, hflat⟩ := walks_undoStep.exists_exhausts_back h.flat
    obtain ⟨d₂, hredo, hlast⟩ := walks_redoStep.exists_exhausts_forward hflat
    have hfirst' : d₁.text = first := hfirst.trans hc.rewound_done
    have hlast' : d₂.text = last :=
      hlast.trans (hrecords ▸ hfirst' ▸ hc.records.replayed_eq)
    exact ⟨rfl, d₁, d₂, hundo, hredo, hfirst', hlast'.trans hc.replayed_length.symm⟩

/-- **The history is a chain of texts along every run.** On a flat surface, whatever operations a
document has been through, its history is a chain that meets the text which the run gives as its
basis, and keeps no more records than the configuration allows. -/
theorem Reaches.isChained_history {s : Surface} (hs : s.IsFlat) {c : Config}
    (h : Reaches (ofSurface s c) d b) : d.IsChained b (max c.historyDepth 1) := by
  obtain ⟨hsound, rfl⟩ := h.sound (sound_ofSurface hs c) rfl
  exact hsound.isChained

/-- Typing in a group that is still open, after typing that was taken back. -/
theorem isChained_history_typing_in_group :
    ∃ d b, Reaches (ofSurface (.ofField ['a']) {}) d b ∧ d.text = ['y', 'a'] ∧ b = ['a'] ∧
      d.history.length = 1 ∧ d.IsChained b 100 := by
  have h₁ : Reaches (ofSurface (.ofField ['a']) {}) _ _ :=
    Reaches.start.step (.replace 1 1 ['x'] .typing) rfl
  have h₂ := ((h₁.step .undo rfl).step .openGroup trivial).step (.replace 0 0 ['y'] .typing) rfl
  exact ⟨_, _, h₂, by decide +kernel, by decide +kernel, by decide +kernel,
    h₂.isChained_history (Surface.isFlat_ofField ['a'])⟩

end Document

end LineEditor
