import LineEditor.Proofs.Document.Chain
import LineEditor.Proofs.Session.Commands

/-!
# Tracking the records of a document

While commands run, a document is edited, groups are opened and closed in it, and its history is
stepped through, also while a group is open. `Tracks` is what all of this keeps: the records are a
chain that starts at a certain text. Where the chain stands is another matter. Without an open group
it stands at the text of the document; a step through the history moves it along, and with an open
group edits leave it behind. It is when an outermost group is closed that the two have to meet
again, and `closeGroup_outermost` and `replayed_of_chain_closeGroup` say when they do.
-/

namespace LineEditor

namespace Document

/-- The records lead on from the text `t`; they are at most `n`, of `m` that may be. Without an open
group they stand at the text of the document. -/
structure Tracks (d : Document) (g : Option Group) (t : Text) (n m : Nat) : Prop where
  /-- The surface is flat. -/
  flat : d.surface.IsFlat
  /-- The open group. -/
  group : d.group = g
  /-- The records are a chain that starts at `t`. -/
  chain : ∃ x u, d.history.Chain t x u ∧ (g = none → x = d.text)
  /-- There are no more records than `n`. -/
  length_le : d.history.length ≤ n
  /-- There is room for `m` records. -/
  capacity : d.history.capacity = m

namespace Tracks

variable {d d' : Document} {g : Option Group} {t b : Text} {n m i : Nat}

/-- The text matters only while no group is open. -/
theorem congr (h : d.Tracks g t n m) (hflat : d'.surface.IsFlat) (hgroup : d'.group = d.group)
    (hhistory : d'.history = d.history) (htext : g = none → d'.text = d.text) :
    d'.Tracks g t n m := by
  obtain ⟨x, u, hc, hx⟩ := h.chain
  refine ⟨hflat, hgroup.trans h.group, ⟨x, u, hhistory ▸ hc, fun hnone ↦ ?_⟩, ?_, ?_⟩
  · rw [hx hnone, htext hnone]
  · rw [hhistory]
    exact h.length_le
  · rw [hhistory]
    exact h.capacity

theorem aside (h : d.Tracks g t n m) (haside : d.Aside d') : d'.Tracks g t n m :=
  h.congr (haside.surface ▸ h.flat) haside.group haside.history fun _ ↦ haside.text

/-- While a group is open, edits that wait for its end change nothing. -/
theorem waits (h : d.Tracks (some ⟨i, b⟩) t n m) (hwaits : d.Waits d') :
    d'.Tracks (some ⟨i, b⟩) t n m :=
  h.congr (hwaits.flat h.flat) hwaits.group (hwaits.history (by rw [h.group]; rfl)) nofun

/-- A step through the history moves along the chain, and the text goes with it. With an open group
the text may be another one than that of the chain, and then it goes elsewhere. -/
theorem step {step : Document → Option Document} {turn : History → Option (Record × History)}
    {edit : Record → Edit} (hw : Walks id step turn edit) (h : d.Tracks g t n m) :
    ((step d).getD d).Tracks g t n m := by
  cases hstep : step d with
  | none => exact h
  | some d' =>
    obtain ⟨x, u, hc, hx⟩ := h.chain
    obtain ⟨r, hturn, (htext : d'.text = _), (hgroup : d'.group = d.group), hflat⟩ :=
      hw.exists_of_step h.flat hstep
    refine ⟨hflat, hgroup.trans h.group, ⟨_, u, hw.isStep.chain hc hturn, fun hnone ↦ ?_⟩, ?_, ?_⟩
    · rw [Option.getD_some, htext, id_eq, hx hnone]
    · exact Nat.le_trans (Nat.le_of_eq (hw.isStep.length hturn)) h.length_le
    · exact (hw.isStep.capacity hturn).trans h.capacity

/-! ## Groups -/

/-- With another open group the chain is the same. -/
theorem regroup (h : d.Tracks g t n m) (g' : Group) :
    Tracks { d with group := some g' } (some g') t n m := by
  obtain ⟨x, u, hc, -⟩ := h.chain
  exact ⟨h.flat, rfl, ⟨x, u, hc, nofun⟩, h.length_le, h.capacity⟩

theorem openGroup_inner (h : d.Tracks (some ⟨i, b⟩) t n m) :
    d.openGroup.Tracks (some ⟨i + 1, b⟩) t n m := by
  unfold openGroup
  rw [h.group]
  exact h.regroup _

theorem openGroup_outermost (h : d.Tracks none t n m) :
    d.openGroup.Tracks (some ⟨0, d.text⟩) t n m := by
  unfold openGroup
  rw [h.group]
  exact h.regroup _

theorem closeGroup_inner (h : d.Tracks (some ⟨i + 1, b⟩) t n m) :
    d.closeGroup.Tracks (some ⟨i, b⟩) t n m := by
  unfold closeGroup
  rw [h.group]
  exact h.regroup _

/-- At the end of an outermost group the chain goes on if the records done lead to the text from
which the group is recorded. -/
theorem closeGroup_outermost (h : d.Tracks (some ⟨0, b⟩) t n m)
    (hback : History.replayed d.history.done.reverse t = b) (hroom : n < m) :
    d.closeGroup.Tracks none t (n + if d.text = b then 0 else 1) m := by
  obtain ⟨x, u, hc, -⟩ := h.chain
  have hclose : d.closeGroup = { d with
      group := none
      history := d.history.recordOption .command (Edit.between b d.text) } := by
    unfold closeGroup
    rw [h.group]
  rw [hc.done.replayed_eq] at hback
  subst hback
  have hkind : EditKind.command.isReplay = false := rfl
  obtain ⟨t', u', hc', ht'⟩ := hc.recordOption hkind
    (fun e (he : Edit.between x d.text = some e) ↦ Edit.leads_of_between he)
    Edit.between_eq_none_iff.mp
  have hlen := h.length_le
  have hcap := h.capacity
  have hdone : d.history.done.length < d.history.capacity := by
    rw [History.length] at hlen
    omega
  obtain rfl := ht' hdone
  rw [hclose]
  refine ⟨h.flat, rfl, ⟨d.text, u', hc', fun _ ↦ rfl⟩, ?_, ?_⟩
  · change (d.history.recordOption .command (Edit.between x d.text)).length ≤ _
    split
    · next heq =>
      rw [Edit.between_eq_none_iff.mpr heq.symm]
      exact hlen
    · cases Edit.between x d.text with
      | none => exact Nat.le_succ_of_le hlen
      | some e =>
        have hrecord := d.history.length_record_le .command e
        exact Nat.le_trans hrecord (Nat.succ_le_succ hlen)
  · exact (d.history.capacity_recordOption _ _).trans h.capacity

/-- The chain goes on only if they do. -/
theorem replayed_of_chain_closeGroup (h : d.Tracks (some ⟨0, b⟩) t n m) (hroom : n < m) {u : Text}
    (hc : d.closeGroup.history.Chain t d.text u) :
    History.replayed d.history.done.reverse t = b := by
  have hclose : d.closeGroup.history
      = d.history.recordOption .command (Edit.between b d.text) := by
    unfold closeGroup
    rw [h.group]
  have hlen := h.length_le
  have hcap := h.capacity
  rw [History.length] at hlen
  rw [hclose] at hc
  cases hbetween : Edit.between b d.text with
  | none =>
    rw [hbetween] at hc
    rw [Edit.between_eq_none_iff.mp hbetween]
    exact hc.done.replayed_eq
  | some e =>
    rw [hbetween, History.recordOption, Option.elim_some, History.record_command] at hc
    exact hc.replayed_of_add (Edit.leads_of_between hbetween) (by omega)

/-- The records done lead to the text, as long as no group is open. -/
theorem replayed_done (h : d.Tracks none t n m) :
    History.replayed d.history.done.reverse t = d.text := by
  obtain ⟨x, u, hc, hx⟩ := h.chain
  rw [hc.done.replayed_eq, hx rfl]

end Tracks

end Document

end LineEditor
