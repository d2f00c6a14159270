import LineEditor.Proofs.Edit.Leads

/-!
# Least edits

An edit is *reduced* when what it removes and what it inserts neither begin nor end alike, and are
not both empty. The edits that `Edit.between` works out are reduced, by the way they are found: the
common start is left out first, then the common end of what remains.

A reduced edit is least. Any edit between the same two texts leaves their common ends alone only as
far as they reach, and at a reduced edit they have come to their end on both sides. The exception is
an edit that only inserts or only removes, whose place may be undetermined; it is least already by
the lengths of the texts. Working the edit out of its own parts again finds it as a whole, which is
what makes it the edit made when it is replayed.
-/

namespace LineEditor.Edit

variable {e f : Edit} {s t u v : Text}

/-! ## The common start of longer texts -/

theorem commonStart_comm (s t : Text) : commonStart s t = commonStart t s := by
  fun_induction commonStart s t with
  | case1 a s t ih => rw [commonStart, if_pos rfl, ih]
  | case2 a s b t hne => rw [commonStart, if_neg (Ne.symm hne)]
  | case3 s t hcons =>
    cases t with
    | nil => rfl
    | cons b t =>
      cases s with
      | nil => rfl
      | cons a s => exact absurd rfl (hcons a s b t rfl)

/-- The common start of two texts that begin alike. -/
theorem commonStart_append (b s t : Text) :
    commonStart (b ++ s) (b ++ t) = b.length + commonStart s t := by
  induction b with
  | nil => simp
  | cons c b ih =>
    rw [List.cons_append, List.cons_append, commonStart, if_pos rfl, ih, List.length_cons]
    omega

/-- Behind the common start nothing is left in common. -/
theorem commonStart_drop (s t : Text) :
    commonStart (s.drop (commonStart s t)) (t.drop (commonStart s t)) = 0 := by
  fun_induction commonStart s t with
  | case1 a s t ih => exact ih
  | case2 a s b t hne => rw [List.drop_zero, List.drop_zero, commonStart, if_neg hne]
  | case3 s t hcons =>
    rw [List.drop_zero, List.drop_zero, commonStart]
    exact hcons

/-- Longer texts have no less in common. -/
theorem commonStart_le_append (s t a b : Text) :
    commonStart s t ≤ commonStart (s ++ a) (t ++ b) := by
  fun_induction commonStart s t with
  | case1 c s t ih =>
    rw [List.cons_append, List.cons_append, commonStart, if_pos rfl]
    exact Nat.succ_le_succ ih
  | case2 | case3 => exact Nat.zero_le _

theorem commonStart_take_le (s t : Text) (m n : Nat) :
    commonStart (s.take m) (t.take n) ≤ commonStart s t := by
  have h := commonStart_le_append (s.take m) (t.take n) (s.drop m) (t.drop n)
  rwa [List.take_append_drop, List.take_append_drop] at h

/-- Texts that begin differently still do so when they are continued. -/
theorem commonStart_append_eq_zero (h : commonStart s t = 0) (hs : s ≠ []) (ht : t ≠ [])
    (a b : Text) : commonStart (s ++ a) (t ++ b) = 0 := by
  obtain ⟨c, s, rfl⟩ := List.exists_cons_of_ne_nil hs
  obtain ⟨d, t, rfl⟩ := List.exists_cons_of_ne_nil ht
  by_cases hcd : c = d
  · rw [commonStart, if_pos hcd] at h
    exact nomatch h
  · rw [List.cons_append, List.cons_append, commonStart, if_neg hcd]

/-! ## Reduced edits -/

/-- What is removed and what is inserted neither begin nor end alike, and are not both empty. -/
structure IsReduced (e : Edit) : Prop where
  /-- Something changes. -/
  ne : e.removed ≠ e.inserted
  /-- They do not begin alike. -/
  start : commonStart e.removed e.inserted = 0
  /-- They do not end alike. -/
  tail : commonStart e.removed.reverse e.inserted.reverse = 0

theorem IsReduced.inverse (h : e.IsReduced) : e.inverse.IsReduced :=
  ⟨h.ne.symm, (commonStart_comm _ _).trans h.start, (commonStart_comm _ _).trans h.tail⟩

theorem IsReduced.shift (h : e.IsReduced) (offset : Nat) : (e.shift offset).IsReduced :=
  ⟨h.ne, h.start, h.tail⟩

/-- An edit that changes a text changes something. -/
theorem Leads.removed_ne (h : e.Leads t u) (hne : t ≠ u) : e.removed ≠ e.inserted := by
  obtain ⟨before, after, hb, rfl, rfl⟩ := h
  intro heq
  exact hne (by rw [heq])

theorem ne_of_between (h : between t u = some e) : t ≠ u := fun heq ↦
  Option.some_ne_none e (h.symm.trans (between_eq_none_iff.mpr heq))

/-- The edits worked out from two texts are reduced. -/
theorem isReduced_of_between (h : between t u = some e) : e.IsReduced := by
  have hleads := leads_of_between h
  have hne := ne_of_between h
  unfold between at h
  rw [if_neg hne] at h
  extract_lets start oldRest newRest tail at h
  have hstart : commonStart oldRest newRest = 0 := commonStart_drop t u
  have htail : commonStart (oldRest.reverse.drop tail) (newRest.reverse.drop tail) = 0 :=
    commonStart_drop oldRest.reverse newRest.reverse
  refine ⟨hleads.removed_ne hne, ?_, ?_⟩
  all_goals obtain rfl := Option.some.inj h
  · exact Nat.le_zero.mp (hstart ▸ commonStart_take_le oldRest newRest _ _)
  · have hold : tail ≤ oldRest.length := by
      simpa using commonStart_le_left oldRest.reverse newRest.reverse
    have hnew : tail ≤ newRest.length := by
      simpa [tail, commonStart_comm oldRest.reverse] using
        commonStart_le_left newRest.reverse oldRest.reverse
    rw [List.reverse_take, List.reverse_take, Nat.sub_sub_self hold, Nat.sub_sub_self hnew]
    exact htail

/-- A reduced edit is found again as a whole. -/
theorem IsReduced.between_eq (h : e.IsReduced) :
    between e.removed e.inserted = some ⟨0, e.removed, e.inserted⟩ := by
  rw [between, if_neg h.ne]
  simp only [h.start, List.drop_zero, h.tail, Nat.sub_zero, List.take_length]

/-! ## Leastness -/

theorem Leads.length_eq (h : e.Leads t u) :
    t.length + e.inserted.length = u.length + e.removed.length := by
  obtain ⟨before, after, hb, rfl, rfl⟩ := h
  simp only [List.length_append]
  omega

/-- A reduced edit that both removes and inserts starts where the common start of the texts ends. -/
theorem Leads.start_eq (h : e.Leads t u) (he : e.IsReduced) (hr : e.removed ≠ [])
    (hi : e.inserted ≠ []) : e.start = commonStart t u := by
  obtain ⟨before, after, hb, rfl, rfl⟩ := h
  rw [List.append_assoc, List.append_assoc, commonStart_append,
    commonStart_append_eq_zero he.start hr hi, ← hb, Nat.add_zero]

/-- An edit starts no later than the common start of the texts ends. -/
theorem Leads.start_le (h : f.Leads t u) : f.start ≤ commonStart t u := by
  obtain ⟨before, after, hb, rfl, rfl⟩ := h
  rw [List.append_assoc, List.append_assoc, commonStart_append, hb]
  exact Nat.le_add_right _ _

/-- The edit read from the end of the texts. -/
def mirror (e : Edit) (t : Text) : Edit :=
  ⟨t.length - e.oldEnd, e.removed.reverse, e.inserted.reverse⟩

theorem Leads.mirror (h : e.Leads t u) : (e.mirror t).Leads t.reverse u.reverse := by
  obtain ⟨before, after, hb, rfl, rfl⟩ := h
  refine ⟨after.reverse, before.reverse, ?_, ?_, ?_⟩
  · simp only [Edit.mirror, List.length_append, oldEnd, ← hb, List.length_reverse]
    omega
  · simp [Edit.mirror]
  · simp [Edit.mirror]

theorem IsReduced.mirror (h : e.IsReduced) (t : Text) : (e.mirror t).IsReduced := by
  refine ⟨fun heq ↦ h.ne (List.reverse_inj.mp heq), h.tail, ?_⟩
  simp only [Edit.mirror, List.reverse_reverse]
  exact h.start

/-- No edit between two texts removes or inserts less than a reduced one. -/
theorem IsReduced.length_le (he : e.IsReduced) (h : e.Leads t u) (hf : f.Leads t u) :
    e.removed.length ≤ f.removed.length ∧ e.inserted.length ≤ f.inserted.length := by
  have hlen := h.length_eq
  have hlen' := hf.length_eq
  by_cases hr : e.removed = []
  · rw [hr, List.length_nil] at hlen ⊢
    omega
  by_cases hi : e.inserted = []
  · rw [hi, List.length_nil] at hlen ⊢
    omega
  have hstart : f.start ≤ e.start := h.start_eq he hr hi ▸ hf.start_le
  have hmirror : (e.mirror t).start = commonStart t.reverse u.reverse :=
    h.mirror.start_eq (he.mirror t) (List.reverse_ne_nil_iff.mpr hr)
      (List.reverse_ne_nil_iff.mpr hi)
  have htail : (f.mirror t).start ≤ (e.mirror t).start := hmirror ▸ hf.mirror.start_le
  have hold := h.oldEnd_le_length
  have hold' := hf.oldEnd_le_length
  simp only [Edit.mirror, oldEnd] at htail hold hold'
  omega

/-- An edit need not know what it removes, nor fit the text: no other way to splice one text into
the other takes out or puts in less than a reduced edit. -/
theorem IsReduced.length_le_of_apply_eq (he : e.IsReduced) (h : e.Leads t u) (hf : f.apply t = u) :
    e.removed.length ≤ f.removed.length ∧ e.inserted.length ≤ f.inserted.length := by
  have hcut : f.start ≤ f.oldEnd := Nat.le_add_right _ _
  have hfit : Leads ⟨min f.start t.length, t.slice f.start f.oldEnd, f.inserted⟩ t u :=
    ⟨t.take f.start, t.drop f.oldEnd, List.length_take,
      (t.take_append_slice_append_drop hcut).symm, hf.symm⟩
  obtain ⟨hremoved, hinserted⟩ := he.length_le h hfit
  refine ⟨Nat.le_trans hremoved ?_, hinserted⟩
  rw [Text.length_slice, oldEnd]
  omega

end LineEditor.Edit
