import LineEditor.Edit.Diff

/-!
# Edits between texts

`Edit.apply` splices at an offset whatever stands there. An edit *leads* from a text to another one
only when the characters it removes really stand at its place, which is what makes it reversible:
`e.Leads t u` implies `e.apply t = u` and `e.inverse.apply u = t`, and the second does not follow
from the first.

The edits that the library works out all lead from the old text to the new one: the least edit
`between` two texts, and the one placed by the caret, `betweenAt`. Leading is kept when the edit is
taken back, when it is made further on in a longer text, and when typing is joined to it.
-/

namespace LineEditor

namespace Text

/-- Cutting a text at both ends of a stretch loses nothing. -/
theorem take_append_slice_append_drop (t : Text) {start stop : Nat} (h : start ≤ stop) :
    t.take start ++ t.slice start stop ++ t.drop stop = t := by
  rw [take_append_slice, Nat.max_eq_right h, List.take_append_drop]

end Text

namespace Edit

variable {e f : Edit} {s t u v : Text}

/-! ## Leading -/

/-- What the edit removes stands at its place in `t`, and `u` is what making it gives. -/
def Leads (e : Edit) (t u : Text) : Prop :=
  ∃ before after : Text, before.length = e.start ∧
    t = before ++ e.removed ++ after ∧ u = before ++ e.inserted ++ after

namespace Leads

theorem apply_eq (h : e.Leads t u) : e.apply t = u := by
  obtain ⟨before, after, hb, rfl, rfl⟩ := h
  exact e.apply_append hb

/-- Leading is symmetric, by the inverse edit. -/
theorem inverse (h : e.Leads t u) : e.inverse.Leads u t := by
  obtain ⟨before, after, hb, ht, hu⟩ := h
  exact ⟨before, after, hb, hu, ht⟩

theorem inverse_apply_eq (h : e.Leads t u) : e.inverse.apply u = t := h.inverse.apply_eq

theorem target_unique (h : e.Leads t u) (h' : e.Leads t v) : u = v :=
  h.apply_eq.symm.trans h'.apply_eq

theorem source_unique (h : e.Leads t v) (h' : e.Leads u v) : t = u :=
  h.inverse.target_unique h'.inverse

theorem oldEnd_le_length (h : e.Leads t u) : e.oldEnd ≤ t.length := by
  obtain ⟨before, after, hb, rfl, -⟩ := h
  rw [oldEnd, ← hb, List.length_append, List.length_append]
  omega

theorem start_le_length (h : e.Leads t u) : e.start ≤ t.length :=
  Nat.le_trans (Nat.le_add_right _ _) h.oldEnd_le_length

/-- An edit that leaves nothing puts nothing in. -/
theorem inserted_eq_nil (h : e.Leads t []) : e.inserted = [] := by
  obtain ⟨before, after, -, -, hnil⟩ := h
  exact (List.append_eq_nil_iff.mp (List.append_eq_nil_iff.mp hnil.symm).1).2

/-- The edit inside a longer text. -/
theorem shift (h : e.Leads t u) (before after : Text) :
    (e.shift before.length).Leads (before ++ t ++ after) (before ++ u ++ after) := by
  obtain ⟨b, a, hb, rfl, rfl⟩ := h
  refine ⟨before ++ b, a ++ after, ?_, ?_, ?_⟩
  · rw [List.length_append, hb, Edit.shift, Nat.add_comm]
  · simp [Edit.shift]
  · simp [Edit.shift]

/-- An insertion where an edit ends can be joined to it. -/
theorem join (h : e.Leads s t) (h' : f.Leads t u) (hf : f.removed = []) (hpos : e.newEnd = f.start) :
    Leads { e with inserted := e.inserted ++ f.inserted } s u := by
  obtain ⟨b, a, hb, rfl, rfl⟩ := h
  obtain ⟨b', a', hb', ht, rfl⟩ := h'
  -- both edits know the text between them, cut at the same place
  have hlen : (b ++ e.inserted).length = b'.length := by
    rw [hb', ← hpos, newEnd, List.length_append, hb]
  rw [hf, List.append_nil] at ht
  obtain ⟨rfl, rfl⟩ := List.append_inj ht hlen
  exact ⟨b, a, hb, rfl, by simp⟩

end Leads

/-! ## The common start -/

theorem commonStart_le_left (s t : Text) : commonStart s t ≤ s.length := by
  fun_induction commonStart s t with
  | case1 a s t ih => simpa using ih
  | case2 | case3 => exact Nat.zero_le _

theorem take_commonStart (s t : Text) :
    s.take (commonStart s t) = t.take (commonStart s t) := by
  fun_induction commonStart s t with
  | case1 a s t ih => rw [List.take_succ_cons, List.take_succ_cons, ih]
  | case2 | case3 => rw [List.take_zero, List.take_zero]

/-- The common start of the reversed texts is their common end. -/
theorem drop_commonStart_reverse (s t : Text) :
    s.drop (s.length - commonStart s.reverse t.reverse)
      = t.drop (t.length - commonStart s.reverse t.reverse) := by
  have h := take_commonStart s.reverse t.reverse
  rw [List.take_reverse, List.take_reverse] at h
  exact List.reverse_inj.mp h

/-! ## The edits worked out from texts -/

theorem leads_of_between (h : between t u = some e) : e.Leads t u := by
  unfold between at h
  split at h
  · exact absurd h (by simp)
  · extract_lets start oldRest newRest tail at h
    obtain rfl := Option.some.inj h
    -- the common end is looked for behind the common start only, so the two never overlap
    have hstart : t.take start = u.take start := take_commonStart t u
    have hend : oldRest.drop (oldRest.length - tail) = newRest.drop (newRest.length - tail) :=
      drop_commonStart_reverse oldRest newRest
    refine ⟨t.take start, oldRest.drop (oldRest.length - tail), ?_, ?_, ?_⟩
    · exact List.length_take_of_le (commonStart_le_left t u)
    · rw [List.append_assoc, List.take_append_drop, List.take_append_drop]
    · rw [hstart, hend, List.append_assoc, List.take_append_drop, List.take_append_drop]

theorem leads_of_insertionEndingAt {length caret : Nat}
    (h : insertionEndingAt t u length caret = some e) : e.Leads t u := by
  unfold insertionEndingAt at h
  extract_lets start at h
  split at h
  · next hc =>
    obtain ⟨-, hs, -, htake, hdrop⟩ := hc
    obtain rfl := Option.some.inj h
    refine ⟨t.take start, t.drop start, List.length_take_of_le hs, ?_, ?_⟩
    · rw [List.append_nil, List.take_append_drop]
    · rw [htake, hdrop, ← List.drop_drop, List.append_assoc, List.take_append_drop,
        List.take_append_drop]
  · exact absurd h (by simp)

theorem leads_of_deletionAt {length caret : Nat}
    (h : deletionAt t u length caret = some e) : e.Leads t u := by
  unfold deletionAt at h
  split at h
  · next hc =>
    obtain ⟨hlen, -, htake, hdrop⟩ := hc
    obtain rfl := Option.some.inj h
    refine ⟨t.take caret, t.drop (caret + length), List.length_take_of_le (by omega), ?_, ?_⟩
    · rw [← List.drop_drop, List.append_assoc, List.take_append_drop, List.take_append_drop]
    · rw [List.append_nil, htake, hdrop, List.take_append_drop]
  · exact absurd h (by simp)

/-- Whatever the caret says, the edit leads from the old text to the new one. -/
theorem leads_of_betweenAt {caret : Nat} (h : betweenAt t u caret = some e) : e.Leads t u := by
  obtain ⟨least, hleast, rfl⟩ := Option.map_eq_some_iff.mp h
  have hleads : least.Leads t u := leads_of_between hleast
  split
  · cases hi : insertionEndingAt t u least.inserted.length caret with
    | none => exact hleads
    | some i => exact leads_of_insertionEndingAt hi
  · split
    · cases hd : deletionAt t u least.removed.length caret with
      | none => exact hleads
      | some d => exact leads_of_deletionAt hd
    · exact hleads

theorem betweenAt_eq_none_iff {caret : Nat} : betweenAt t u caret = none ↔ t = u := by
  rw [betweenAt, Option.map_eq_none_iff, between_eq_none_iff]

end Edit

end LineEditor
