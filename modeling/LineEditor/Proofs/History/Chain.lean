import LineEditor.History
import LineEditor.Proofs.Edit.Leads

/-!
# The history as a chain of texts

The records of a history, oldest first, are those done and then those to redo. They form a *chain*
when each one leads on from the text at which the one before it ends: `Path` says this of a list of
records, `Chain` of the two halves of a history that meet at the text it stands at.

Stepping back and forth only moves the place where the halves meet. Recording is what has to be
looked at: it drops what was undone, may join the edit to the newest record, and drops the oldest
record when there is no room, which moves the first text of the chain. It stays where it is as
long as the history has room for one more record.
-/

namespace LineEditor.History

variable {e : Edit} {r : Record} {rs : List Record} {s t u v : Text}

/-- The edits of the records lead from one text to another, one after the other. -/
def Path : List Record → Text → Text → Prop
  | [], t, u => t = u
  | r :: rs, t, u => ∃ s, r.edit.Leads t s ∧ Path rs s u

/-- The text after the edits of the records have been made one after the other. -/
def replayed (rs : List Record) (t : Text) : Text := rs.foldl (fun t r ↦ r.edit.apply t) t

/-- The text after the edits of the records have been taken back one after the other. -/
def rewound (rs : List Record) (t : Text) : Text := rs.foldl (fun t r ↦ r.edit.inverse.apply t) t

namespace Path

@[simp] theorem nil_iff : Path [] t u ↔ t = u := Iff.rfl

theorem cons_iff : Path (r :: rs) t u ↔ ∃ s, r.edit.Leads t s ∧ Path rs s u := Iff.rfl

theorem append_iff {rs' : List Record} :
    Path (rs ++ rs') t u ↔ ∃ s, Path rs t s ∧ Path rs' s u := by
  induction rs generalizing t with
  | nil => simp
  | cons r rs ih =>
    simp only [List.cons_append, cons_iff, ih]
    constructor
    · rintro ⟨s, hr, v, hrs, hrs'⟩
      exact ⟨v, ⟨s, hr, hrs⟩, hrs'⟩
    · rintro ⟨v, ⟨s, hr, hrs⟩, hrs'⟩
      exact ⟨s, hr, v, hrs, hrs'⟩

theorem concat_iff : Path (rs ++ [r]) t u ↔ ∃ s, Path rs t s ∧ r.edit.Leads s u := by
  rw [append_iff]
  simp [cons_iff]

/-- A path says what its edits make of the first text. -/
theorem replayed_eq (h : Path rs t u) : replayed rs t = u := by
  induction rs generalizing t with
  | nil => exact h
  | cons r rs ih =>
    obtain ⟨s, hr, hrs⟩ := cons_iff.mp h
    rw [replayed, List.foldl_cons, hr.apply_eq]
    exact ih hrs

/-- Back along a path its edits lead to the first text. -/
theorem rewound_eq (h : Path rs t u) : rewound rs.reverse u = t := by
  induction rs generalizing t with
  | nil => exact h.symm
  | cons r rs ih =>
    obtain ⟨s, hr, hrs⟩ := cons_iff.mp h
    have hlast : rewound (r :: rs).reverse u = r.edit.inverse.apply (rewound rs.reverse u) := by
      rw [List.reverse_cons, rewound, List.foldl_append]
      rfl
    rw [hlast, ih hrs]
    exact hr.inverse_apply_eq

/-- The start of a path is a path. -/
theorem take (h : Path rs t u) (n : Nat) : Path (rs.take n) t (replayed (rs.take n) t) := by
  rw [← List.take_append_drop n rs, append_iff] at h
  obtain ⟨s, hs, -⟩ := h
  rw [hs.replayed_eq]
  exact hs

/-- The end of a path is a path. -/
theorem drop (h : Path rs t u) (n : Nat) : ∃ s, Path (rs.drop n) s u := by
  rw [← List.take_append_drop n rs, append_iff] at h
  obtain ⟨s, -, hs⟩ := h
  exact ⟨s, hs⟩

/-- Between the texts on a path lie its edits. -/
theorem leads_getElem (h : Path rs t u) {i : Nat} (hi : i < rs.length) :
    rs[i].edit.Leads (replayed (rs.take i) t) (replayed (rs.take (i + 1)) t) := by
  have hpath := h.take (i + 1)
  rw [List.take_succ_eq_append_getElem hi] at hpath ⊢
  obtain ⟨s, hs, hleads⟩ := concat_iff.mp hpath
  rw [hs.replayed_eq]
  exact hleads

end Path

variable {h h' : History} {kind : EditKind}

/-- All records, the oldest first. -/
def records (h : History) : List Record := h.done.reverse ++ h.undone

/-- Replayed edits are not recorded. -/
theorem recordOption_of_isReplay (h : History) (hkind : kind.isReplay) (e? : Option Edit) :
    h.recordOption kind e? = h := by
  cases e? with
  | none => rfl
  | some e => rw [recordOption, Option.elim_some, record, if_pos hkind]

theorem length_records (h : History) : h.records.length = h.length := by
  rw [records, List.length_append, List.length_reverse, length]

/-- The records done lead from `first` to `current`, and those to redo from there to `last`. -/
structure Chain (h : History) (first current last : Text) : Prop where
  /-- The records done lead to the current text. -/
  done : Path h.done.reverse first current
  /-- The records to redo lead on from it. -/
  undone : Path h.undone current last

/-- Nothing is kept beyond the capacity. -/
def Fits (h : History) : Prop := h.length ≤ h.capacity

namespace Chain

theorem records (hc : h.Chain s t u) : Path h.records s u :=
  Path.append_iff.mpr ⟨t, hc.done, hc.undone⟩

/-- The current text is what the records done make of the first one. -/
theorem replayed_position (hc : h.Chain s t u) :
    replayed (h.records.take h.position) s = t := by
  rw [History.records, position, ← List.length_reverse, List.take_left]
  exact hc.done.replayed_eq

/-- Taking the records done back leads to the first text. -/
theorem rewound_done (hc : h.Chain s t u) : rewound h.done t = s := by
  rw [← h.done.reverse_reverse]
  exact hc.done.rewound_eq

theorem replayed_length (hc : h.Chain s t u) : replayed (h.records.take h.length) s = u := by
  rw [← length_records, List.take_length]
  exact hc.records.replayed_eq

/-- A history without records stands at any text. -/
theorem of_nil (hd : h.done = []) (hu : h.undone = []) (t : Text) : h.Chain t t t := by
  refine ⟨?_, ?_⟩
  · rw [hd, List.reverse_nil, Path.nil_iff]
  · rw [hu, Path.nil_iff]

theorem ofCapacity (n : Nat) (t : Text) : (History.ofCapacity n).Chain t t t := of_nil rfl rfl t

theorem clear (h : History) (t : Text) : h.clear.Chain t t t := of_nil rfl rfl t

/-! ## Recording -/

/-- A record put on top continues the chain, which loses its oldest records if it is full. -/
theorem add (hc : h.Chain s t u) (hr : r.edit.Leads t v) :
    ∃ s', (h.add r).Chain s' v v ∧ (h.done.length < h.capacity → s' = s) := by
  have hpath : Path (r :: h.done).reverse s v := by
    rw [List.reverse_cons, Path.concat_iff]
    exact ⟨t, hc.done, hr⟩
  by_cases hroom : h.done.length < h.capacity
  · have hall : (r :: h.done).take h.capacity = r :: h.done :=
      List.take_of_length_le (by rw [List.length_cons]; omega)
    refine ⟨s, ⟨?_, rfl⟩, fun _ ↦ rfl⟩
    rw [History.add, hall]
    exact hpath
  · -- the oldest records are dropped, and the chain starts at a later text
    obtain ⟨s', hs'⟩ := hpath.drop ((r :: h.done).length - h.capacity)
    refine ⟨s', ⟨?_, rfl⟩, fun h ↦ absurd h hroom⟩
    rw [History.add, List.reverse_take]
    exact hs'

/-- What continues the typing of a record may be joined to it. -/
theorem leads_joinTyping (hr : r.edit.Leads s t) (he : e.Leads t u)
    (hcont : continuesTyping r kind e) : (joinTyping r e).edit.Leads s u := by
  simp only [continuesTyping, Bool.and_eq_true, decide_eq_true_eq, List.isEmpty_iff] at hcont
  obtain ⟨⟨⟨-, hremoved⟩, -⟩, hend⟩ := hcont
  exact hr.join he hremoved hend

/-- Recording an edit made to the current text continues the chain. -/
theorem record (hc : h.Chain s t u) (hkind : kind.isReplay = false) (he : e.Leads t v) :
    ∃ s', (h.record kind e).Chain s' v v ∧ (h.done.length < h.capacity → s' = s) := by
  have hadd := hc.add (r := ⟨kind, e⟩) he
  rw [History.record, hkind, if_neg Bool.false_ne_true]
  cases hd : h.done with
  | nil => rwa [hd] at hadd
  | cons newest older =>
    simp only
    split
    · next hjoin =>
      -- the newest record starts where it did, and ends where the edit does
      have hdone := hc.done
      rw [hd, List.reverse_cons, Path.concat_iff] at hdone
      obtain ⟨w, hw, hr⟩ := hdone
      refine ⟨s, ⟨?_, rfl⟩, fun _ ↦ rfl⟩
      rw [List.reverse_cons, Path.concat_iff]
      exact ⟨w, hw, leads_joinTyping hr he (Bool.and_eq_true_iff.mp hjoin).2⟩
    · rwa [hd] at hadd

/-- Recording an edit that may be absent; what is to redo stays if it is. -/
theorem recordOption (hc : h.Chain s t u) (hkind : kind.isReplay = false) {e? : Option Edit}
    (hsome : ∀ e, e? = some e → e.Leads t v) (hnone : e? = none → t = v) :
    ∃ s' u', (h.recordOption kind e?).Chain s' v u' ∧
      (h.done.length < h.capacity → s' = s) := by
  cases e? with
  | none =>
    obtain rfl := hnone rfl
    exact ⟨s, u, hc, fun _ ↦ rfl⟩
  | some e =>
    obtain ⟨s', hs', hroom⟩ := hc.record hkind (hsome e rfl)
    exact ⟨s', v, hs', hroom⟩

end Chain

/-- What is recorded as a command is never joined to typing. -/
theorem record_command (h : History) (e : Edit) : h.record .command e = h.add ⟨.command, e⟩ := by
  unfold record
  rw [if_neg (by decide)]
  cases h.done with
  | nil => rfl
  | cons newest older =>
    have hcont : continuesTyping newest .command e = false := by simp [continuesTyping]
    simp only [hcont, Bool.and_false, Bool.false_eq_true, if_false]

/-- If a record put on top continues a chain, the records below it lead to the text from which its
edit leads on. -/
theorem Chain.replayed_of_add (hc : (h.add r).Chain s u v) (hr : r.edit.Leads t u)
    (hroom : h.done.length < h.capacity) : replayed h.done.reverse s = t := by
  have hall : (r :: h.done).take h.capacity = r :: h.done :=
    List.take_of_length_le (by rw [List.length_cons]; omega)
  have hdone := hc.done
  rw [History.add, hall, List.reverse_cons, Path.concat_iff] at hdone
  obtain ⟨w, hw, hleads⟩ := hdone
  rw [hw.replayed_eq]
  exact hleads.source_unique hr

/-! ## The capacity -/

@[simp] theorem capacity_record (h : History) (kind : EditKind) (e : Edit) :
    (h.record kind e).capacity = h.capacity := by
  unfold record
  split
  · rfl
  · split
    · split <;> rfl
    · rfl

@[simp] theorem capacity_recordOption (h : History) (kind : EditKind) (e? : Option Edit) :
    (h.recordOption kind e?).capacity = h.capacity := by
  cases e? with
  | none => rfl
  | some e => exact h.capacity_record kind e

/-- Recording adds one record at most. -/
theorem length_record_le (h : History) (kind : EditKind) (e : Edit) :
    (h.record kind e).length ≤ h.length + 1 := by
  have hadd : ∀ r, (h.add r).length ≤ h.length + 1 := by
    intro r
    simp only [length, add, List.length_take, List.length_cons, List.length_nil]
    omega
  unfold record
  split
  · exact Nat.le_succ _
  · split
    · next newest older hd =>
      split
      · simp only [length, hd, List.length_cons, List.length_nil]
        omega
      · exact hadd _
    · exact hadd _

namespace Fits

theorem ofCapacity (n : Nat) : (History.ofCapacity n).Fits := Nat.zero_le _

theorem clear (h : History) : h.clear.Fits := Nat.zero_le _

theorem add (h : History) (r : Record) : (h.add r).Fits := by
  simp only [Fits, length, History.add, List.length_take, List.length_nil]
  omega

theorem record (hfits : h.Fits) (kind : EditKind) (e : Edit) : (h.record kind e).Fits := by
  unfold History.record
  split
  · exact hfits
  · split
    · next newest older hd =>
      split
      · rw [Fits, length, hd, List.length_cons] at hfits
        rw [Fits, length, List.length_cons, List.length_nil]
        exact Nat.le_trans (Nat.le_add_right _ _) hfits
      · exact add h _
    · exact add h _

theorem recordOption (hfits : h.Fits) (kind : EditKind) (e? : Option Edit) :
    (h.recordOption kind e?).Fits := by
  cases e? with
  | none => exact hfits
  | some e => exact hfits.record kind e

end Fits

/-! ## Steps through the history -/

theorem exists_of_back? (hb : h.back? = some (r, h')) :
    ∃ older, h.done = r :: older ∧
      h' = { h with done := older, undone := r :: h.undone, isSealed := true } := by
  cases hd : h.done with
  | nil => simp [back?, hd] at hb
  | cons newest older =>
    simp only [back?, hd, Option.some.injEq, Prod.mk.injEq] at hb
    obtain ⟨rfl, rfl⟩ := hb
    exact ⟨older, rfl, rfl⟩

theorem exists_of_forward? (hf : h.forward? = some (r, h')) :
    ∃ later, h.undone = r :: later ∧
      h' = { h with done := r :: h.done, undone := later, isSealed := true } := by
  cases hd : h.undone with
  | nil => simp [forward?, hd] at hf
  | cons next later =>
    simp only [forward?, hd, Option.some.injEq, Prod.mk.injEq] at hf
    obtain ⟨rfl, rfl⟩ := hf
    exact ⟨later, rfl, rfl⟩

/-- A way to step through histories: `turn` answers a record and the history after the step, and
`edit` is what is made of the record. The step leads along a chain, and all records are kept. -/
structure IsStep (turn : History → Option (Record × History)) (edit : Record → Edit) : Prop where
  /-- The edit leads to the text at which the history stands after the step. -/
  chain : ∀ {h h' r s t u}, h.Chain s t u → turn h = some (r, h') →
    h'.Chain s ((edit r).apply t) u
  /-- There are as many records as before. -/
  length : ∀ {h h' r}, turn h = some (r, h') → h'.length = h.length
  /-- There is room for as many as before. -/
  capacity : ∀ {h h' r}, turn h = some (r, h') → h'.capacity = h.capacity

/-- A step back takes back the edit of the newest record done. -/
theorem isStep_back : IsStep back? (·.edit.inverse) := by
  refine ⟨fun hc hb ↦ ?_, fun hb ↦ length_of_back? hb, fun hb ↦ ?_⟩
  · obtain ⟨older, hd, rfl⟩ := exists_of_back? hb
    have hdone := hc.done
    rw [hd, List.reverse_cons, Path.concat_iff] at hdone
    obtain ⟨v, hv, hr⟩ := hdone
    rw [hr.inverse_apply_eq]
    exact ⟨hv, _, hr, hc.undone⟩
  · obtain ⟨older, -, rfl⟩ := exists_of_back? hb
    rfl

/-- A step forward makes the edit of the next record to redo. -/
theorem isStep_forward : IsStep forward? (·.edit) := by
  refine ⟨fun hc hf ↦ ?_, fun hf ↦ ?_, fun hf ↦ ?_⟩
  · obtain ⟨later, hd, rfl⟩ := exists_of_forward? hf
    have hundone := hc.undone
    rw [hd, Path.cons_iff] at hundone
    obtain ⟨v, hr, hv⟩ := hundone
    rw [hr.apply_eq]
    refine ⟨?_, hv⟩
    rw [List.reverse_cons, Path.concat_iff]
    exact ⟨_, hc.done, hr⟩
  · obtain ⟨later, hd, rfl⟩ := exists_of_forward? hf
    simp only [length, hd, List.length_cons]
    omega
  · obtain ⟨later, -, rfl⟩ := exists_of_forward? hf
    rfl

theorem IsStep.fits {turn : History → Option (Record × History)} {edit : Record → Edit}
    (hs : IsStep turn edit) (hfits : h.Fits) (ht : turn h = some (r, h')) : h'.Fits := by
  rw [Fits, hs.length ht, hs.capacity ht]
  exact hfits

end LineEditor.History
