import LineEditor.Document.Range
import LineEditor.Proofs.History.Chain
import LineEditor.Proofs.Surface.Flat

/-!
# What editing a document does

All ways to change the text of a document do the same with it: the text moves along an edit, which
may be absent, the history records the edit unless a group is open, and the document counts as
changed if there is an edit. `Document.Makes` says this once, and each way to edit has one lemma
that it does so. The rest of the theory never looks into the operations again.

On structured content only taking over what the host did is known to do this; `replace` does so on
flat surfaces, where the surface puts the new text where it is told to.
-/

namespace LineEditor.Document

variable {d d' : Document} {kind : EditKind} {e? : Option Edit} {s t u : Text}

/-- An edit, which may be absent, is all that happens between two states of a document. -/
structure Makes (d : Document) (kind : EditKind) (e? : Option Edit) (d' : Document) : Prop where
  /-- The edit leads from the old text to the new one. -/
  leads : ∀ e, e? = some e → e.Leads d.text d'.text
  /-- Without an edit the text stays as it is. -/
  text_of_none : e? = none → d'.text = d.text
  /-- The edit is recorded unless a group is open. -/
  history : d'.history = if d.group.isSome then d.history else d.history.recordOption kind e?
  /-- Groups stay as they are. -/
  group : d'.group = d.group
  /-- The document counts as changed if there is an edit. -/
  status : d'.status = if e?.isSome then .dirty else d.status

/-- What follows an edit leaves the text where the surface has put it. -/
theorem makes_settle {e : Edit} (h : e.Leads t d.text) (ht : d'.text = t)
    (hhistory : d.history = d'.history) (hgroup : d.group = d'.group) :
    d'.Makes kind (some e) (d.settle kind e) := by
  refine ⟨?_, by simp, ?_, hgroup, rfl⟩
  · intro f hf
    obtain rfl := Option.some.inj hf
    rw [ht]
    exact h
  · rw [← hhistory, ← hgroup]
    rfl

/-- Where nothing is edited nothing happens. -/
theorem makes_none (htext : d'.text = d.text) (hhistory : d'.history = d.history)
    (hgroup : d'.group = d.group) (hstatus : d'.status = d.status) : d.Makes kind none d' := by
  refine ⟨by simp, fun _ ↦ htext, ?_, hgroup, hstatus⟩
  rw [hhistory]
  split <;> rfl

/-! ## The ways to edit -/

/-- The edit worked out from a stretch of a text and what is put in its place leads there. -/
theorem leads_of_between_slice {start stop : Nat} {piece : Text} {e : Edit}
    (h : Edit.between (t.slice start stop) piece = some e) (hle : start ≤ stop)
    (hstop : stop ≤ t.length) :
    (e.shift start).Leads t (t.take start ++ piece ++ t.drop stop) := by
  have hshift := (Edit.leads_of_between h).shift (t.take start) (t.drop stop)
  rwa [List.length_take_of_le (Nat.le_trans hle hstop), t.take_append_slice_append_drop hle]
    at hshift

theorem makes_replace (hd : d.surface.IsFlat) (start stop : Nat) (piece : Text)
    (kind : EditKind) :
    d.Makes kind (d.replace start stop piece kind).1 (d.replace start stop piece kind).2 := by
  have hle := (Bounds.mk start stop).clamp_start_le d.length
  have hstop := (Bounds.mk start stop).clamp_stop_le d.length
  unfold replace
  extract_lets b
  cases hb : Edit.between (d.text.slice b.start b.stop) piece with
  | none => exact makes_none rfl rfl rfl rfl
  | some e =>
    have hleads := leads_of_between_slice hb hle hstop
    have hmade : (e.shift b.start).Leads d.text
        (d.surface.replace (e.shift b.start).start (e.shift b.start).oldEnd
          (e.shift b.start).inserted).text := by
      rw [hd.text_replace_of_leads hleads]
      exact hleads
    exact makes_settle hmade rfl rfl rfl

/-- The edit that `replace` makes, which depends on the text alone. -/
theorem fst_replace (d : Document) (start stop : Nat) (piece : Text) (kind : EditKind) :
    (d.replace start stop piece kind).1
      = (Edit.between (d.text.slice (Bounds.clamp ⟨start, stop⟩ d.length).start
          (Bounds.clamp ⟨start, stop⟩ d.length).stop) piece).map
        (·.shift (Bounds.clamp ⟨start, stop⟩ d.length).start) := by
  unfold replace
  extract_lets b
  cases Edit.between (d.text.slice b.start b.stop) piece <;> rfl

/-- A call that makes no edit does nothing. -/
theorem replace_of_none {start stop : Nat} {piece : Text}
    (h : (d.replace start stop piece kind).1 = none) : (d.replace start stop piece kind).2 = d := by
  rw [fst_replace] at h
  simp only [replace, h]

/-- A call that makes an edit tells of it, makes it, and does what follows. -/
theorem replace_of_some {start stop : Nat} {piece : Text} {e : Edit}
    (h : (d.replace start stop piece kind).1 = some e) :
    (d.replace start stop piece kind).2
      = { d.tell .before kind e with
          surface := d.surface.replace e.start e.oldEnd e.inserted }.settle kind e := by
  rw [fst_replace] at h
  simp only [replace, h]
  rfl

/-- Replacing does the same to documents with the same surface. -/
theorem surface_replace_congr (h : d'.surface = d.surface) (start stop : Nat) (piece : Text)
    (kind : EditKind) :
    (d'.replace start stop piece kind).2.surface = (d.replace start stop piece kind).2.surface := by
  have he : (d'.replace start stop piece kind).1 = (d.replace start stop piece kind).1 := by
    rw [fst_replace, fst_replace, Document.text, length, h]
    rfl
  cases hd : (d.replace start stop piece kind).1 with
  | none => rw [replace_of_none hd, replace_of_none (he.trans hd), h]
  | some e =>
    rw [replace_of_some hd, replace_of_some (he.trans hd)]
    exact congrArg (Surface.replace · e.start e.oldEnd e.inserted) h

/-- The text that `replace` makes. -/
theorem text_replace (hd : d.surface.IsFlat) (start stop : Nat) (piece : Text) (kind : EditKind) :
    (d.replace start stop piece kind).2.text
      = d.text.take (Bounds.clamp ⟨start, stop⟩ d.length).start ++ piece
        ++ d.text.drop (Bounds.clamp ⟨start, stop⟩ d.length).stop := by
  have hle := (Bounds.mk start stop).clamp_start_le d.length
  have hstop := (Bounds.mk start stop).clamp_stop_le d.length
  unfold replace
  extract_lets b
  cases hb : Edit.between (d.text.slice b.start b.stop) piece with
  | none =>
    rw [← Edit.between_eq_none_iff.mp hb]
    exact (d.text.take_append_slice_append_drop hle).symm
  | some e => exact hd.text_replace_of_leads (leads_of_between_slice hb hle hstop)

/-- Putting a text in place of all of a flat document makes it the text of the document. -/
theorem text_replace_all (hd : d.surface.IsFlat) (content : Text) :
    (d.replace 0 d.length content kind).2.text = content := by
  have hclamp : (Bounds.mk 0 d.length).clamp d.length = ⟨0, d.length⟩ :=
    Bounds.clamp_of_le (Nat.zero_le _) (Nat.le_refl _)
  rw [text_replace hd, hclamp, List.take_zero, List.nil_append]
  change content ++ d.text.drop d.text.length = content
  rw [List.drop_length, List.append_nil]

theorem isFlat_replace (hd : d.surface.IsFlat) (start stop : Nat) (piece : Text)
    (kind : EditKind) : (d.replace start stop piece kind).2.surface.IsFlat := by
  unfold replace
  extract_lets b
  cases Edit.between (d.text.slice b.start b.stop) piece with
  | none => exact hd
  | some e => exact hd.replace _ _ _

/-- Nothing is taken over only where the host has left the text as it was. -/
theorem fst_absorb_eq_none_iff {s : Surface} {caret : Option Nat} :
    (d.absorb s kind caret).1 = none ↔ d.text = s.text := by
  cases caret with
  | none => exact Edit.between_eq_none_iff
  | some caret => exact Edit.betweenAt_eq_none_iff

/-- What the host has done is taken over whatever it is. -/
theorem makes_absorb (d : Document) (s : Surface) (kind : EditKind) (caret : Option Nat) :
    d.Makes kind (d.absorb s kind caret).1 (d.absorb s kind caret).2 := by
  have hsome : ∀ e, (d.absorb s kind caret).1 = some e → e.Leads d.text s.text := by
    intro e
    cases caret with
    | none => exact Edit.leads_of_between
    | some caret => exact Edit.leads_of_betweenAt
  have hdoc : (d.absorb s kind caret).2 = (d.absorb s kind caret).1.elim { d with surface := s }
      ({ d with surface := s }.settle kind) := rfl
  rw [hdoc]
  cases he : (d.absorb s kind caret).1 with
  | none => exact makes_none (fst_absorb_eq_none_iff.mp he).symm rfl rfl rfl
  | some e => exact makes_settle (hsome e he) rfl rfl rfl

theorem absorb_eq (d : Document) (s : Surface) (kind : EditKind) (caret : Option Nat) :
    (d.absorb s kind caret).2 = (d.absorb s kind caret).1.elim { d with surface := s }
      ({ d with surface := s }.settle kind) := rfl

theorem surface_absorb (d : Document) (s : Surface) (kind : EditKind) (caret : Option Nat) :
    (d.absorb s kind caret).2.surface = s := by
  unfold absorb
  extract_lets e? d'
  cases e? <;> rfl

theorem makes_editNative (d : Document) (kind : EditKind) (edit : Surface → Surface) :
    d.Makes kind (d.editNative kind edit).1 (d.editNative kind edit).2 := d.makes_absorb _ _ _

theorem surface_editNative (d : Document) (kind : EditKind) (edit : Surface → Surface) :
    (d.editNative kind edit).2.surface = edit d.surface := d.surface_absorb _ _ _

/-- Writing through a range is replacing its text and moving the range. -/
theorem write_eq (d : Document) (id : RangeId) (piece : Text) (kind : EditKind) (indent : Text) :
    let b := d.bounds id
    let written := Insertion.prepare d.text b.start indent piece
    let replaced := d.replace b.start b.stop written kind
    d.write id piece kind indent
      = (replaced.1, replaced.2.moveTo id ⟨b.start, b.start + written.length⟩) := rfl

theorem makes_write (hd : d.surface.IsFlat) (id : RangeId) (piece : Text) (kind : EditKind)
    (indent : Text) :
    d.Makes kind (d.write id piece kind indent).1 (d.write id piece kind indent).2 := by
  have h := makes_replace hd (d.bounds id).start (d.bounds id).stop
    (Insertion.prepare d.text (d.bounds id).start indent piece) kind
  rw [write_eq]
  exact ⟨h.leads, h.text_of_none, h.history, h.group, h.status⟩

theorem isFlat_write (hd : d.surface.IsFlat) (id : RangeId) (piece : Text) (kind : EditKind)
    (indent : Text) : (d.write id piece kind indent).2.surface.IsFlat := by
  rw [write_eq]
  exact isFlat_replace hd _ _ _ _

/-! ## Replaying -/

@[simp] theorem history_select (d : Document) (b : Bounds) : (d.select b).history = d.history := by
  unfold select
  split <;> rfl

@[simp] theorem group_select (d : Document) (b : Bounds) : (d.select b).group = d.group := by
  unfold select
  split <;> rfl

@[simp] theorem status_select (d : Document) (b : Bounds) : (d.select b).status = d.status := by
  unfold select
  split <;> rfl

@[simp] theorem text_select (d : Document) (b : Bounds) : (d.select b).text = d.text := by
  unfold select
  split
  · exact d.surface.text_select _
  · rfl

theorem isFlat_select (hd : d.surface.IsFlat) (b : Bounds) : (d.select b).surface.IsFlat := by
  unfold select
  split
  · exact hd.select _
  · exact hd

/-- Replaying leaves the history alone. -/
theorem history_replay (hkind : kind.isReplay) (e : Edit) :
    (d.replay kind e).2.history = d.history := by
  rw [replay, history_select]
  cases he : (d.replace e.start e.oldEnd e.inserted kind).1 with
  | none => rw [replace_of_none he]
  | some f =>
    rw [replace_of_some he]
    change (if d.group.isSome then d.history else d.history.recordOption kind (some f)) = _
    rw [History.recordOption_of_isReplay _ hkind, ite_self]

theorem isFlat_replay (hd : d.surface.IsFlat) (kind : EditKind) (e : Edit) :
    (d.replay kind e).2.surface.IsFlat :=
  isFlat_select (isFlat_replace hd _ _ _ _) _

/-- Replaying an edit applies it to the text, wherever that leads, and leaves the history alone. -/
theorem replay_apply (hd : d.surface.IsFlat) (hkind : kind.isReplay) (e : Edit) :
    (d.replay kind e).2.text = e.apply d.text ∧ (d.replay kind e).2.history = d.history ∧
      (d.replay kind e).2.group = d.group ∧ (d.replay kind e).2.surface.IsFlat := by
  have hmakes := makes_replace hd e.start e.oldEnd e.inserted kind
  have hle : e.start ≤ e.oldEnd := Nat.le_add_right _ _
  have hmin : min e.start d.text.length ≤ min e.oldEnd d.text.length := by omega
  have hclamp : (Bounds.mk e.start e.oldEnd).clamp d.length
      = ⟨min e.start d.text.length, min e.oldEnd d.text.length⟩ :=
    congrArg (Bounds.mk (min e.start d.text.length)) (Nat.max_eq_left hmin)
  refine ⟨?_, history_replay hkind e, ?_, isFlat_replay hd kind e⟩
  · rw [replay, text_select, text_replace hd, hclamp, Edit.apply, Text.splice,
      ← List.take_eq_take_min, ← List.drop_eq_drop_min]
  · rw [replay, group_select, hmakes.group]

end LineEditor.Document
