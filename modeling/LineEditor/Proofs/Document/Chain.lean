import LineEditor.Proofs.Document.Edits

/-!
# The history of a document

The history of a document is a chain that meets a certain text of it, its *basis*: the text as it
is, or, while a group is open, the text from which the group will be recorded as one edit. Each
operation on a document keeps the chain, with one lemma for each. The first text of the chain moves
only when something is recorded and there is no room for it.

Undoing until nothing is left leads to the first text of the chain, and redoing to the last one.
-/

namespace LineEditor

/-- Taking a step again and again until none is left. -/
inductive Exhausts {σ : Type} (step : σ → Option σ) : σ → σ → Prop
  | stop {s : σ} (h : step s = none) : Exhausts step s s
  | next {s t u : σ} (h : step s = some t) (hu : Exhausts step t u) : Exhausts step s u

/-- There is only one way to exhaust the steps. -/
theorem Exhausts.unique {σ : Type} {step : σ → Option σ} {s t u : σ} (ht : Exhausts step s t)
    (hu : Exhausts step s u) : t = u := by
  induction ht with
  | stop h =>
    cases hu with
    | stop => rfl
    | next h' => rw [h] at h'; exact absurd h' (by simp)
  | next h _ ih =>
    cases hu with
    | stop h' => rw [h] at h'; exact absurd h' (by simp)
    | next h' hu =>
      rw [h] at h'
      exact ih (Option.some.inj h' ▸ hu)

namespace Document

variable {d d' : Document} {kind : EditKind} {e? : Option Edit} {s t u : Text}

/-- The text that the history of a document leads to. -/
def basis (d : Document) : Text := d.group.elim d.text (·.before)

theorem basis_of_group_eq_none (h : d.group = none) : d.basis = d.text := by
  rw [basis, h, Option.elim_none]

/-- One step back through the history, without the bounds of the text put in. -/
def undoStep (d : Document) : Option Document := d.undo?.map (·.2)

/-- One step forward through the history, without the bounds of the text put in. -/
def redoStep (d : Document) : Option Document := d.redo?.map (·.2)

/-! ## Editing and groups -/

/-- What edits a document continues its chain. -/
theorem Makes.chain (h : d.Makes kind e? d') (hkind : kind.isReplay = false)
    (hc : d.history.Chain s d.basis u) :
    ∃ s' u', d'.history.Chain s' d'.basis u' ∧
      (d.history.done.length < d.history.capacity → s' = s) := by
  cases hg : d.group with
  | some g =>
    have hhistory : d'.history = d.history := by rw [h.history, hg]; rfl
    have hbasis : d'.basis = d.basis := by rw [basis, basis, h.group, hg]; rfl
    rw [hhistory, hbasis]
    exact ⟨s, u, hc, fun _ ↦ rfl⟩
  | none =>
    have hhistory : d'.history = d.history.recordOption kind e? := by rw [h.history, hg]; rfl
    rw [basis_of_group_eq_none hg] at hc
    rw [hhistory, basis_of_group_eq_none (h.group.trans hg)]
    exact hc.recordOption hkind h.leads fun hnone ↦ (h.text_of_none hnone).symm

theorem Makes.fits (h : d.Makes kind e? d') (hfits : d.history.Fits) : d'.history.Fits := by
  rw [h.history]
  split
  · exact hfits
  · exact hfits.recordOption kind e?

theorem Makes.capacity (h : d.Makes kind e? d') : d'.history.capacity = d.history.capacity := by
  rw [h.history]
  split
  · rfl
  · exact d.history.capacity_recordOption kind e?

/-- Opening a group changes neither the history nor the text it leads to. -/
theorem openGroup_spec (d : Document) :
    d.openGroup.history = d.history ∧ d.openGroup.basis = d.basis ∧
      d.openGroup.surface = d.surface := by
  unfold openGroup basis
  cases d.group with
  | none => exact ⟨rfl, rfl, rfl⟩
  | some g => exact ⟨rfl, rfl, rfl⟩

/-- Closing an inner group changes nothing; closing the outermost one records what led from the
text before it to the text as it is. -/
theorem closeGroup_cases (d : Document) :
    (d.closeGroup.history = d.history ∧ d.closeGroup.basis = d.basis) ∨
      (d.closeGroup.history = d.history.recordOption .command (Edit.between d.basis d.text) ∧
        d.closeGroup.basis = d.text) := by
  unfold closeGroup basis
  split
  · next hg => exact .inl ⟨rfl, rfl⟩
  · next hg => rw [hg]; exact .inl ⟨rfl, rfl⟩
  · next hg => rw [hg]; exact .inr ⟨rfl, rfl⟩

theorem surface_closeGroup (d : Document) : d.closeGroup.surface = d.surface := by
  unfold closeGroup
  split <;> rfl

theorem chain_closeGroup (hc : d.history.Chain s d.basis u) :
    ∃ s' u', d.closeGroup.history.Chain s' d.closeGroup.basis u' ∧
      (d.history.done.length < d.history.capacity → s' = s) := by
  rcases d.closeGroup_cases with ⟨hhistory, hbasis⟩ | ⟨hhistory, hbasis⟩
  · rw [hhistory, hbasis]
    exact ⟨s, u, hc, fun _ ↦ rfl⟩
  · rw [hhistory, hbasis]
    exact hc.recordOption rfl (fun _ ↦ Edit.leads_of_between) Edit.between_eq_none_iff.mp

theorem fits_closeGroup (hfits : d.history.Fits) : d.closeGroup.history.Fits := by
  rcases d.closeGroup_cases with ⟨hhistory, -⟩ | ⟨hhistory, -⟩
  · rw [hhistory]
    exact hfits
  · rw [hhistory]
    exact hfits.recordOption _ _

theorem capacity_closeGroup (d : Document) :
    d.closeGroup.history.capacity = d.history.capacity := by
  rcases d.closeGroup_cases with ⟨hhistory, -⟩ | ⟨hhistory, -⟩
  · rw [hhistory]
  · rw [hhistory, History.capacity_recordOption]

/-- With the edits all that the chain led through is forgotten; it starts over at the text. -/
theorem chain_clearHistory (d : Document) :
    d.clearHistory.history.Chain d.text d.clearHistory.basis d.text := by
  have hbasis : d.clearHistory.basis = d.text := by
    unfold clearHistory basis
    cases d.group with
    | none => rfl
    | some g => rfl
  rw [hbasis]
  exact History.Chain.clear d.history d.text

/-! ## Steps through the history -/

/-- The step makes an edit of the history: the one that belongs to the record at which `turn`
stands, if there is one. Documents may be part of something larger. -/
structure Walks {σ : Type} (document : σ → Document) (step : σ → Option σ)
    (turn : History → Option (Record × History)) (edit : Record → Edit) : Prop where
  /-- It is a step through the history. -/
  isStep : History.IsStep turn edit
  /-- Without a record there is no step. -/
  stop : ∀ x, turn (document x).history = none → step x = none
  /-- With a record its edit is applied to the text. -/
  next : ∀ x, (document x).surface.IsFlat → ∀ r h, turn (document x).history = some (r, h) →
    ∃ y, step x = some y ∧ (document y).text = (edit r).apply (document x).text ∧
      (document y).history = h ∧ (document y).group = (document x).group ∧
      (document y).surface.IsFlat

theorem walks_undoStep : Walks id undoStep History.back? (·.edit.inverse) := by
  refine ⟨History.isStep_back, fun d hd ↦ ?_, fun d hd r h hback ↦ ?_⟩
  · rw [undoStep, undo?, id_eq] at *
    rw [hd]
    rfl
  · have hkind : EditKind.undo.isReplay := rfl
    obtain ⟨htext, hhistory, hgroup, hflat⟩ :=
      replay_apply (d := { d with history := h }) hd hkind r.edit.inverse
    refine ⟨_, ?_, htext, hhistory, hgroup, hflat⟩
    rw [undoStep, undo?, show d.history.back? = some (r, h) from hback]
    rfl

theorem walks_redoStep : Walks id redoStep History.forward? (·.edit) := by
  refine ⟨History.isStep_forward, fun d hd ↦ ?_, fun d hd r h hforward ↦ ?_⟩
  · rw [redoStep, redo?, id_eq] at *
    rw [hd]
    rfl
  · have hkind : EditKind.redo.isReplay := rfl
    obtain ⟨htext, hhistory, hgroup, hflat⟩ :=
      replay_apply (d := { d with history := h }) hd hkind r.edit
    refine ⟨_, ?_, htext, hhistory, hgroup, hflat⟩
    rw [redoStep, redo?, show d.history.forward? = some (r, h) from hforward]
    rfl

namespace Walks

variable {σ : Type} {document : σ → Document} {step : σ → Option σ} {x y : σ}
  {turn : History → Option (Record × History)} {edit : Record → Edit}

/-- A step that is made belongs to a record. -/
theorem exists_of_step (hw : Walks document step turn edit) (hx : (document x).surface.IsFlat)
    (h : step x = some y) :
    ∃ r, turn (document x).history = some (r, (document y).history) ∧
      (document y).text = (edit r).apply (document x).text ∧
      (document y).group = (document x).group ∧ (document y).surface.IsFlat := by
  cases hturn : turn (document x).history with
  | none => exact absurd (h.symm.trans (hw.stop x hturn)) nofun
  | some p =>
    obtain ⟨y', hy', htext, hhistory, hgroup, hflat⟩ := hw.next x hx p.1 p.2 hturn
    obtain rfl := Option.some.inj (h.symm.trans hy')
    exact ⟨p.1, by rw [hhistory], htext, hgroup, hflat⟩

/-- With or without a record, a flat surface stays flat. -/
theorem isFlat_getD (hw : Walks document step turn edit) (hx : (document x).surface.IsFlat) :
    (document ((step x).getD x)).surface.IsFlat := by
  cases hstep : step x with
  | none => exact hx
  | some y =>
    obtain ⟨r, -, -, -, hflat⟩ := hw.exists_of_step hx hstep
    exact hflat

/-- Stepping back until nothing is left takes back all records, whether or not they still belong to
the text. -/
theorem exists_exhausts_back (hw : Walks document step History.back? (·.edit.inverse))
    (hx : (document x).surface.IsFlat) :
    ∃ y, Exhausts step x y ∧
      (document y).text = History.rewound (document x).history.done (document x).text ∧
      (document y).history.done = [] ∧ (document y).history.undone = (document x).history.records ∧
      (document y).surface.IsFlat := by
  induction hdone : (document x).history.done generalizing x with
  | nil =>
    have hstop : step x = none := hw.stop x (by rw [History.back?, hdone])
    refine ⟨x, .stop hstop, rfl, hdone, ?_, hx⟩
    rw [History.records, hdone, List.reverse_nil, List.nil_append]
  | cons r older ih =>
    -- the record taken back is the first to be made again, so the records stay in order
    have hback : (document x).history.back? = some (r, { (document x).history with
        done := older, undone := r :: (document x).history.undone, isSealed := true }) := by
      rw [History.back?, hdone]
    obtain ⟨x', hstep, htext, hhistory, -, hflat⟩ := hw.next x hx _ _ hback
    obtain ⟨y, hy, htext', hdone', hundone', hflat'⟩ := ih hflat (by rw [hhistory])
    refine ⟨y, .next hstep hy, ?_, hdone', ?_, hflat'⟩
    · rw [htext', htext]
      rfl
    · rw [hundone', hhistory, History.records, History.records, hdone, List.reverse_cons,
        List.append_assoc, List.singleton_append]

/-- Stepping forward until nothing is left makes all records again. -/
theorem exists_exhausts_forward (hw : Walks document step History.forward? (·.edit))
    (hx : (document x).surface.IsFlat) :
    ∃ y, Exhausts step x y ∧
      (document y).text = History.replayed (document x).history.undone (document x).text := by
  induction hundone : (document x).history.undone generalizing x with
  | nil => exact ⟨x, .stop (hw.stop x (by rw [History.forward?, hundone])), rfl⟩
  | cons r later ih =>
    have hforward : (document x).history.forward? = some (r, { (document x).history with
        done := r :: (document x).history.done, undone := later, isSealed := true }) := by
      rw [History.forward?, hundone]
    obtain ⟨x', hstep, htext, hhistory, -, hflat⟩ := hw.next x hx _ _ hforward
    obtain ⟨y, hy, htext'⟩ := ih hflat (by rw [hhistory])
    exact ⟨y, .next hstep hy, by rw [htext', htext]; rfl⟩

end Walks

end Document

end LineEditor
