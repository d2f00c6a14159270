import LineEditor.Proofs.Edit.Leads
import LineEditor.Rebase

/-!
# What moved bounds hold

Bounds that are moved across an edit are judged by what they hold afterwards. An edit cuts the old
text into what lies before it, what it removes, and what lies behind it; the first and the last of
these are found again in the new text, around what is inserted. So moved bounds can be read piece
by piece: what they held before the edit, what is inserted if they spanned the edit, and what they
held behind it.

The two ends snap in opposite directions, and a start that snaps forward may pass the stop. Such
bounds are inverted, which reading repairs; they hold nothing, and nothing of what they held is
left.
-/

namespace LineEditor

namespace Text

/-- Slices that meet make up a slice. -/
theorem slice_append_slice (t : Text) {p q r : Nat} (hpq : p ≤ q) (hqr : q ≤ r) :
    t.slice p q ++ t.slice q r = t.slice p r := by
  rw [slice, slice, slice, Nat.max_eq_right hpq, Nat.max_eq_right hqr,
    Nat.max_eq_right (Nat.le_trans hpq hqr), List.drop_take, List.drop_take, List.drop_take]
  have hcut : t.drop q = (t.drop p).drop (q - p) := by
    rw [List.drop_drop, Nat.add_sub_cancel' hpq]
  rw [hcut, ← List.take_add]
  congr 1
  omega

end Text

namespace Edit.Leads

variable {e : Edit} {t u : Text}

/-! ## Slices of the new text -/

/-- Before the edit nothing changes. -/
theorem slice_of_le (h : e.Leads t u) {p q : Nat} (hq : q ≤ e.start) :
    u.slice p q = t.slice p q := by
  obtain ⟨before, after, hb, rfl, rfl⟩ := h
  rcases Nat.le_total p q with hpq | hqp
  · rw [Text.slice, Text.slice, Nat.max_eq_right hpq, List.append_assoc, List.append_assoc,
      List.take_append_of_le_length (hb ▸ hq), List.take_append_of_le_length (hb ▸ hq)]
  · rw [Text.slice_eq_nil_of_le _ hqp, Text.slice_eq_nil_of_le _ hqp]

/-- At the place of the edit stands what is inserted. -/
theorem slice_start_newEnd (h : e.Leads t u) : u.slice e.start e.newEnd = e.inserted := by
  obtain ⟨before, after, hb, rfl, rfl⟩ := h
  rw [Text.slice, newEnd, Nat.max_eq_right (Nat.le_add_right _ _), ← hb, ← List.length_append,
    List.take_left, List.drop_left]

/-- Behind the edit the text is shifted. -/
theorem slice_of_oldEnd_le (h : e.Leads t u) {p q : Nat} (hp : e.oldEnd ≤ p) (hq : e.oldEnd ≤ q) :
    u.slice (p - e.oldEnd + e.newEnd) (q - e.oldEnd + e.newEnd) = t.slice p q := by
  obtain ⟨before, after, hb, rfl, rfl⟩ := h
  have hold : (before ++ e.removed).length = e.oldEnd := by
    rw [List.length_append, hb, oldEnd]
  have hnew : (before ++ e.inserted).length = e.newEnd := by
    rw [List.length_append, hb, newEnd]
  have hdrop : (before ++ e.inserted ++ after).drop (p - e.oldEnd + e.newEnd)
      = (before ++ e.removed ++ after).drop p := by
    rw [Nat.add_comm, ← hnew, List.drop_length_add_append, ← hold,
      ← List.drop_length_add_append, Nat.add_sub_cancel' (hold ▸ hp)]
  rw [Text.slice, Text.slice, List.drop_take, List.drop_take, hdrop]
  congr 1
  omega

theorem slice_newEnd (h : e.Leads t u) {q : Nat} (hq : e.oldEnd ≤ q) :
    u.slice e.newEnd (q - e.oldEnd + e.newEnd) = t.slice e.oldEnd q := by
  rw [← h.slice_of_oldEnd_le (Nat.le_refl _) hq, Nat.sub_self, Nat.zero_add]

/-- Across the edit the text is what was held on both sides of it, around what is inserted. -/
theorem slice_across (h : e.Leads t u) {p q : Nat} (hp : p ≤ e.start) (hq : e.oldEnd ≤ q) :
    u.slice p (q - e.oldEnd + e.newEnd)
      = t.slice p e.start ++ e.inserted ++ t.slice e.oldEnd q := by
  have hinner : e.start ≤ e.newEnd := Nat.le_add_right _ _
  rw [← h.slice_of_le (Nat.le_refl e.start), ← h.slice_newEnd hq, ← h.slice_start_newEnd,
    Text.slice_append_slice u hp hinner,
    Text.slice_append_slice u (Nat.le_trans hp hinner) (Nat.le_add_left _ _)]

theorem length_add (h : e.Leads t u) : u.length + e.oldEnd = t.length + e.newEnd := by
  obtain ⟨before, after, hb, rfl, rfl⟩ := h
  simp only [List.length_append, oldEnd, newEnd]
  omega

end Edit.Leads

namespace Bounds

variable {e : Edit} {t u : Text} {b : Bounds}

/-! ## Moved bounds -/

/-- The text that bounds hold; they are cut to the text first. -/
def read (b : Bounds) (t : Text) : Text := t.slice (b.clamp t.length).start (b.clamp t.length).stop

/-- What is left of the text of bounds after an edit: the characters before it, those inserted if
the bounds span it, and the characters behind it. -/
def survivors (e : Edit) (b : Bounds) (t : Text) : Text :=
  t.slice b.start (min b.stop e.start)
    ++ (if b.start ≤ e.start ∧ e.oldEnd ≤ b.stop then e.inserted else [])
    ++ t.slice (max b.start e.oldEnd) b.stop

/-- Bounds that end in the text may be inverted, but need not be cut to be read. -/
theorem read_of_le (h : b.start ≤ t.length) (h' : b.stop ≤ t.length) :
    b.read t = t.slice b.start b.stop := by
  rw [read, clamp, Nat.min_eq_left h, Nat.min_eq_left h']
  rcases Nat.le_total b.start b.stop with hle | hle
  · rw [Nat.max_eq_left hle]
  · rw [Nat.max_eq_right hle, Text.slice_eq_nil_of_le t (Nat.le_refl _),
      Text.slice_eq_nil_of_le t hle]

/-- Moved bounds end in the new text. -/
theorem rebase_le (h : e.Leads t u) (hb : b.start ≤ t.length) (hb' : b.stop ≤ t.length) :
    (b.rebase e).start ≤ u.length ∧ (b.rebase e).stop ≤ u.length := by
  have hold := h.oldEnd_le_length
  have hnew := h.inverse.oldEnd_le_length
  have hlength := h.length_add
  have hstart : e.start ≤ e.newEnd := Nat.le_add_right _ _
  rw [Edit.inverse_oldEnd] at hnew
  constructor
  · simp only [rebase, rebaseStart]
    split <;> (try split) <;> omega
  · simp only [rebase, rebaseStop]
    split <;> (try split) <;> omega

/-- Moved bounds hold what is left of the text they held. -/
theorem read_rebase (h : e.Leads t u) (hle : b.start ≤ b.stop) (hlen : b.stop ≤ t.length) :
    (b.rebase e).read u = b.survivors e t := by
  obtain ⟨hstart, hstop⟩ := rebase_le h (Nat.le_trans hle hlen) hlen
  rw [read_of_le hstart hstop]
  have hold : e.start ≤ e.oldEnd := Nat.le_add_right _ _
  have hnew : e.start ≤ e.newEnd := Nat.le_add_right _ _
  simp only [survivors, rebase, rebaseStart, rebaseStop]
  -- what the bounds hold before the edit and behind it, if the one or the other is nothing
  have hfirst : e.start < b.start → t.slice b.start (min b.stop e.start) = [] := fun _ ↦
    t.slice_eq_nil_of_le (by omega)
  have hlast : b.stop < e.oldEnd → t.slice (max b.start e.oldEnd) b.stop = [] := fun _ ↦
    t.slice_eq_nil_of_le (by omega)
  by_cases hbefore : b.stop < e.start
  · have hinserted : ¬ (b.start ≤ e.start ∧ e.oldEnd ≤ b.stop) := by omega
    rw [if_pos (by omega), if_pos hbefore, if_neg hinserted, Nat.min_eq_left (by omega),
      hlast (by omega), List.append_nil, List.append_nil]
    exact h.slice_of_le (by omega)
  rw [if_neg hbefore]
  by_cases hbehind : e.oldEnd ≤ b.stop
  · rw [if_pos hbehind]
    by_cases hspan : b.start ≤ e.start
    · rw [if_pos hspan, if_pos ⟨hspan, hbehind⟩, Nat.min_eq_right (by omega),
        Nat.max_eq_right (by omega)]
      exact h.slice_across hspan hbehind
    have hinserted : ¬ (b.start ≤ e.start ∧ e.oldEnd ≤ b.stop) := fun hc ↦ hspan hc.1
    rw [if_neg hspan, if_neg hinserted, hfirst (by omega), List.nil_append, List.nil_append]
    by_cases hshifted : e.oldEnd < b.start
    · rw [if_pos hshifted, Nat.max_eq_left (by omega)]
      exact h.slice_of_oldEnd_le (by omega) hbehind
    · rw [if_neg hshifted, Nat.max_eq_right (by omega)]
      exact h.slice_newEnd hbehind
  · -- the stop lies in what is removed and snaps to the start of the edit
    have hinserted : ¬ (b.start ≤ e.start ∧ e.oldEnd ≤ b.stop) := fun hc ↦ hbehind hc.2
    rw [if_neg hbehind, if_neg hinserted, hlast (by omega), List.append_nil, List.append_nil]
    by_cases hspan : b.start ≤ e.start
    · rw [if_pos hspan, Nat.min_eq_right (by omega)]
      exact h.slice_of_le (Nat.le_refl _)
    · have hshifted : ¬ e.oldEnd < b.start := by omega
      rw [if_neg hspan, if_neg hshifted, hfirst (by omega), u.slice_eq_nil_of_le hnew]

end Bounds

end LineEditor
