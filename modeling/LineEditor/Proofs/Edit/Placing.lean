import LineEditor.Proofs.Edit.Least
import LineEditor.Proofs.Edit.Rebase

/-!
# Where least edits are placed

Two texts leave no choice how much a least edit removes and inserts, but they may leave one where it
is made. If it does both, its place is settled: on either side it reaches as far as the texts
differ. If it only inserts or only removes, and characters repeat, several places will do, and
leaving out the common start first settles for the last of them.

A caret can tell them apart: it stands behind what was typed, and at the place where something was
deleted. That it is believed wherever it agrees with the texts, and nowhere else, is stated here by
what the texts then have to be, with no word about the place found first. The caret may be any
number; one that lies outside the texts never agrees with them.
-/

namespace LineEditor.Edit

variable {e f : Edit} {a b w : Text} {k p caret : Nat}

/-! ## The least edit -/

/-- **The least edit.** There is no edit between two texts exactly if they are the same; an absent
edit counts as one that starts at 0. An edit between different texts leads from the one to the other
and back. It removes what the one has at its place and inserts what the other has there, and
whatever else is put in place of one stretch of the one text to make the other of it, no less is
removed and no less is inserted. -/
theorem isLeast_between (a b : Text) :
    (between a b = none ∧ (between a b).elim 0 start = 0 ↔ a = b) ∧
      (a ≠ b → ∃ e, between a b = some e ∧ e.apply a = b ∧ e.inverse.apply b = a ∧
        (e.oldEnd ≤ a.length ∧ a.slice e.start e.oldEnd = e.removed) ∧
        (e.newEnd ≤ b.length ∧ b.slice e.start e.newEnd = e.inserted) ∧
        ∀ before old new after : Text,
          a = before ++ old ++ after → b = before ++ new ++ after →
            e.removed.length ≤ old.length ∧ e.inserted.length ≤ new.length) := by
  constructor
  · rw [← between_eq_none_iff]
    constructor
    · rintro ⟨hnone, -⟩
      exact hnone
    · intro hnone
      exact ⟨hnone, by rw [hnone, Option.elim_none]⟩
  · intro hne
    obtain ⟨e, he⟩ := Option.ne_none_iff_exists'.mp (mt between_eq_none_iff.mp hne)
    have hleads : e.Leads a b := leads_of_between he
    refine ⟨e, he, hleads.apply_eq, hleads.inverse_apply_eq,
      ⟨hleads.oldEnd_le_length, hleads.inverse.slice_start_newEnd⟩,
      ⟨hleads.inverse.oldEnd_le_length, hleads.slice_start_newEnd⟩, ?_⟩
    intro before old new after ha hb
    have hother : Leads ⟨before.length, old, new⟩ a b := ⟨before, after, rfl, ha, hb⟩
    exact (isReduced_of_between he).length_le hleads hother

/-! ## Places told by a caret -/

/-- `k` characters that end at the caret make `b` of `a`. -/
def InsertsBefore (a b : Text) (k caret : Nat) : Prop :=
  b = a.take (caret - k) ++ b.slice (caret - k) caret ++ a.drop (caret - k)

/-- Without `k` characters at the caret `a` becomes `b`. -/
def DeletesAt (a b : Text) (k caret : Nat) : Prop :=
  b = a.take caret ++ a.drop (caret + k)

instance (a b : Text) (k caret : Nat) : Decidable (InsertsBefore a b k caret) := by
  unfold InsertsBefore
  infer_instance

instance (a b : Text) (k caret : Nat) : Decidable (DeletesAt a b k caret) := by
  unfold DeletesAt
  infer_instance

/-- The caret lies in the texts where it agrees with them. -/
theorem InsertsBefore.in_range (h : InsertsBefore a b k caret) (hk : 0 < k)
    (hlength : a.length + k = b.length) :
    k ≤ caret ∧ caret - k ≤ a.length ∧ caret ≤ b.length := by
  have hcount := congrArg List.length h
  simp only [List.length_append, List.length_take, List.length_drop, Text.length_slice] at hcount
  omega

theorem DeletesAt.in_range (h : DeletesAt a b k caret) (hk : 0 < k)
    (hlength : b.length + k = a.length) : caret + k ≤ a.length := by
  have hcount := congrArg List.length h
  simp only [List.length_append, List.length_take, List.length_drop] at hcount
  omega

/-- Around the characters put in, the two texts are the same. -/
theorem insertsBefore_iff (hcaret : k ≤ caret) (ha : caret - k ≤ a.length)
    (hlength : a.length + k = b.length) :
    InsertsBefore a b k caret ↔
      a.take (caret - k) = b.take (caret - k) ∧ a.drop (caret - k) = b.drop caret := by
  have hcut : b.take (caret - k) ++ b.slice (caret - k) caret ++ b.drop caret = b :=
    b.take_append_slice_append_drop (Nat.sub_le _ _)
  constructor
  · intro h
    have hfront : (a.take (caret - k)).length = caret - k := List.length_take_of_le ha
    have hinner : (a.take (caret - k) ++ b.slice (caret - k) caret).length = caret := by
      rw [List.length_append, hfront, Text.length_slice]
      omega
    -- cut at both ends of what is put in
    have htake := congrArg (List.take (caret - k)) h
    have hdrop := congrArg (List.drop caret) h
    rw [List.append_assoc, List.take_left' hfront] at htake
    rw [List.drop_left' hinner] at hdrop
    exact ⟨htake.symm, hdrop.symm⟩
  · rintro ⟨htake, hdrop⟩
    rw [InsertsBefore, htake, hdrop, hcut]

/-- Around the characters taken out, they are too. -/
theorem deletesAt_iff (hcaret : caret + k ≤ a.length) :
    DeletesAt a b k caret ↔ a.take caret = b.take caret ∧ a.drop (caret + k) = b.drop caret := by
  constructor
  · intro h
    have hfront : (a.take caret).length = caret := List.length_take_of_le (by omega)
    rw [DeletesAt] at h
    rw [h, List.take_left' hfront, List.drop_left' hfront]
    exact ⟨rfl, rfl⟩
  · rintro ⟨htake, hdrop⟩
    rw [DeletesAt, htake, hdrop, List.take_append_drop]

/-- The caret is believed about an insertion exactly where it agrees with the texts. -/
theorem insertionEndingAt_eq (hk : 0 < k) (hlength : a.length + k = b.length) (caret : Nat) :
    insertionEndingAt a b k caret
      = if InsertsBefore a b k caret then
          some ⟨caret - k, [], b.slice (caret - k) caret⟩ else none := by
  unfold insertionEndingAt
  extract_lets start
  have hiff : (k ≤ caret ∧ start ≤ a.length ∧ start + k ≤ b.length ∧
      a.take start = b.take start ∧ a.drop start = b.drop (start + k)) ↔
        InsertsBefore a b k caret := by
    constructor
    · rintro ⟨hcaret, hstart, -, htake, hdrop⟩
      rw [Nat.sub_add_cancel hcaret] at hdrop
      exact (insertsBefore_iff hcaret hstart hlength).mpr ⟨htake, hdrop⟩
    · intro h
      obtain ⟨hcaret, hstart, hstop⟩ := h.in_range hk hlength
      obtain ⟨htake, hdrop⟩ := (insertsBefore_iff hcaret hstart hlength).mp h
      have hend : start + k = caret := Nat.sub_add_cancel hcaret
      exact ⟨hcaret, hstart, hend ▸ hstop, htake, hend ▸ hdrop⟩
  simp only [hiff]
  by_cases h : InsertsBefore a b k caret
  · obtain ⟨hcaret, -, -⟩ := h.in_range hk hlength
    have hcount : caret - start = k := Nat.sub_sub_self hcaret
    rw [if_pos h, if_pos h, Text.slice, Nat.max_eq_right (Nat.sub_le _ _), List.drop_take, hcount]
  · rw [if_neg h, if_neg h]

/-- So it is about a deletion. -/
theorem deletionAt_eq (hk : 0 < k) (hlength : b.length + k = a.length) (caret : Nat) :
    deletionAt a b k caret
      = if DeletesAt a b k caret then some ⟨caret, a.slice caret (caret + k), []⟩ else none := by
  unfold deletionAt
  have hiff : (caret + k ≤ a.length ∧ caret ≤ b.length ∧
      a.take caret = b.take caret ∧ a.drop (caret + k) = b.drop caret) ↔
        DeletesAt a b k caret := by
    constructor
    · rintro ⟨hcaret, -, hsame⟩
      exact (deletesAt_iff hcaret).mpr hsame
    · intro h
      have hcaret : caret + k ≤ a.length := h.in_range hk hlength
      exact ⟨hcaret, by omega, (deletesAt_iff hcaret).mp h⟩
  simp only [hiff]
  rw [Text.slice, Nat.max_eq_right (Nat.le_add_right _ _), List.drop_take, Nat.add_sub_cancel_left]

/-- An edit moved to where the caret places it, if the texts agree to it. -/
def placed (a b : Text) (caret : Nat) (e : Edit) : Edit :=
  if e.removed = [] ∧ InsertsBefore a b e.inserted.length caret then
    ⟨caret - e.inserted.length, [], b.slice (caret - e.inserted.length) caret⟩
  else if e.inserted = [] ∧ DeletesAt a b e.removed.length caret then
    ⟨caret, a.slice caret (caret + e.removed.length), []⟩
  else e

theorem placed_of_insertsBefore (hremoved : e.removed = [])
    (h : InsertsBefore a b e.inserted.length caret) :
    placed a b caret e
      = ⟨caret - e.inserted.length, [], b.slice (caret - e.inserted.length) caret⟩ :=
  if_pos ⟨hremoved, h⟩

theorem placed_of_deletesAt (hremoved : e.removed ≠ []) (hinserted : e.inserted = [])
    (h : DeletesAt a b e.removed.length caret) :
    placed a b caret e = ⟨caret, a.slice caret (caret + e.removed.length), []⟩ :=
  (if_neg fun h' ↦ hremoved h'.1).trans (if_pos ⟨hinserted, h⟩)

theorem placed_eq_self (h : ¬ (e.removed = [] ∧ InsertsBefore a b e.inserted.length caret))
    (h' : ¬ (e.inserted = [] ∧ DeletesAt a b e.removed.length caret)) : placed a b caret e = e :=
  (if_neg h).trans (if_neg h')

/-- A least edit that removes nothing inserts as much as the texts differ in length. -/
theorem length_of_removed_eq_nil (he : between a b = some e) (hremoved : e.removed = []) :
    0 < e.inserted.length ∧ a.length + e.inserted.length = b.length := by
  have hlength := (leads_of_between he).length_eq
  have hne : e.removed ≠ e.inserted := (isReduced_of_between he).ne
  rw [hremoved] at hlength hne
  exact ⟨List.length_pos_iff.mpr hne.symm, hlength⟩

/-- One that inserts nothing removes as much. -/
theorem length_of_inserted_eq_nil (he : between a b = some e) (hinserted : e.inserted = []) :
    0 < e.removed.length ∧ b.length + e.removed.length = a.length := by
  have hlength := (leads_of_between he).length_eq
  have hne : e.removed ≠ e.inserted := (isReduced_of_between he).ne
  rw [hinserted] at hlength hne
  exact ⟨List.length_pos_iff.mpr hne, hlength.symm⟩

/-- What a caret makes of the least edit, by what the texts have to be. -/
theorem betweenAt_eq (a b : Text) (caret : Nat) :
    betweenAt a b caret = (between a b).map (placed a b caret) := by
  unfold betweenAt
  refine Option.map_congr fun e he ↦ ?_
  -- a least edit does something, so it cannot both remove nothing and insert nothing
  by_cases hremoved : e.removed = []
  · obtain ⟨hk, hlength⟩ := length_of_removed_eq_nil he hremoved
    have hinserted : e.inserted ≠ [] := List.length_pos_iff.mp hk
    rw [if_pos hremoved, insertionEndingAt_eq hk hlength]
    by_cases h : InsertsBefore a b e.inserted.length caret
    · rw [if_pos h, placed_of_insertsBefore hremoved h, Option.getD_some]
    · rw [if_neg h, placed_eq_self (fun h' ↦ h h'.2) (fun h' ↦ hinserted h'.1), Option.getD_none]
  · rw [if_neg hremoved]
    by_cases hinserted : e.inserted = []
    · obtain ⟨hk, hlength⟩ := length_of_inserted_eq_nil he hinserted
      rw [if_pos hinserted, deletionAt_eq hk hlength]
      by_cases h : DeletesAt a b e.removed.length caret
      · rw [if_pos h, placed_of_deletesAt hremoved hinserted h, Option.getD_some]
      · rw [if_neg h, placed_eq_self (fun h' ↦ hremoved h'.1) (fun h' ↦ h h'.2), Option.getD_none]
    · rw [if_neg hinserted, placed_eq_self (fun h' ↦ hremoved h'.1) (fun h' ↦ hinserted h'.1)]

/-- Moving an edit to another place changes neither how much it removes nor how much it inserts. -/
theorem length_placed (he : between a b = some e) (caret : Nat) :
    (placed a b caret e).removed.length = e.removed.length ∧
      (placed a b caret e).inserted.length = e.inserted.length := by
  by_cases hinserts : e.removed = [] ∧ InsertsBefore a b e.inserted.length caret
  · obtain ⟨hremoved, h⟩ := hinserts
    obtain ⟨hk, hlength⟩ := length_of_removed_eq_nil he hremoved
    obtain ⟨hcaret, -, hstop⟩ := h.in_range hk hlength
    rw [placed_of_insertsBefore hremoved h, hremoved, Text.length_slice]
    exact ⟨rfl, by omega⟩
  · by_cases hdeletes : e.inserted = [] ∧ DeletesAt a b e.removed.length caret
    · obtain ⟨hinserted, h⟩ := hdeletes
      obtain ⟨hk, hlength⟩ := length_of_inserted_eq_nil he hinserted
      have hcaret := h.in_range hk hlength
      rw [placed_of_deletesAt (List.length_pos_iff.mp hk) hinserted h, hinserted,
        Text.length_slice]
      exact ⟨by omega, rfl⟩
    · rw [placed_eq_self hinserts hdeletes]
      exact ⟨rfl, rfl⟩

/-- **Edits placed by a caret.** Whatever the caret, the edit leads from the one text to the other
and back, and removes and inserts as many characters as the least one. If that one only inserts, and
as many characters that end at the caret make `b` of `a`, it is these that are inserted; if it only
removes, and `a` becomes `b` without as many characters at the caret, it is these that are removed.
In all other cases the edit is the least one as it was found. -/
theorem betweenAt_spec (a b : Text) (caret : Nat) :
    applyOption (betweenAt a b caret) a = b ∧
      applyOption ((betweenAt a b caret).map inverse) b = a ∧
      (betweenAt a b caret).map (fun e ↦ (e.removed.length, e.inserted.length))
        = (between a b).map (fun e ↦ (e.removed.length, e.inserted.length)) ∧
      (∀ e, between a b = some e → e.removed = [] → InsertsBefore a b e.inserted.length caret →
        betweenAt a b caret = some
          ⟨caret - e.inserted.length, [], b.slice (caret - e.inserted.length) caret⟩) ∧
      (∀ e, between a b = some e → e.inserted = [] → DeletesAt a b e.removed.length caret →
        betweenAt a b caret = some ⟨caret, a.slice caret (caret + e.removed.length), []⟩) ∧
      ((∀ e, between a b = some e →
        ¬ (e.removed = [] ∧ InsertsBefore a b e.inserted.length caret) ∧
          ¬ (e.inserted = [] ∧ DeletesAt a b e.removed.length caret)) →
        betweenAt a b caret = between a b) := by
  refine ⟨?_, ?_, ?_, ?_, ?_, ?_⟩
  · cases h : betweenAt a b caret with
    | none => exact betweenAt_eq_none_iff.mp h
    | some e => exact (leads_of_betweenAt h).apply_eq
  · cases h : betweenAt a b caret with
    | none => exact (betweenAt_eq_none_iff.mp h).symm
    | some e => exact (leads_of_betweenAt h).inverse_apply_eq
  · rw [betweenAt_eq, Option.map_map]
    refine Option.map_congr fun e he ↦ ?_
    obtain ⟨hremoved, hinserted⟩ := length_placed he caret
    exact Prod.ext hremoved hinserted
  · intro e he hremoved h
    rw [betweenAt_eq, he, Option.map_some, placed_of_insertsBefore hremoved h]
  · intro e he hinserted h
    obtain ⟨hk, -⟩ := length_of_inserted_eq_nil he hinserted
    rw [betweenAt_eq, he, Option.map_some,
      placed_of_deletesAt (List.length_pos_iff.mp hk) hinserted h]
  · intro h
    rw [betweenAt_eq]
    cases he : between a b with
    | none => rfl
    | some e =>
      obtain ⟨hinserts, hdeletes⟩ := h e he
      rw [Option.map_some, placed_eq_self hinserts hdeletes]

/-- The second of four equal characters, and a caret that agrees with nothing. -/
example :
    betweenAt ['a', 'a', 'a'] ['a', 'a', 'a', 'a'] 2 = some ⟨1, [], ['a']⟩ ∧
      betweenAt ['a', 'a', 'a'] ['a', 'a', 'a', 'a'] 9 = some ⟨3, [], ['a']⟩ := by
  decide

/-! ## Insertions with the caret behind them -/

/-- An insertion leads from the text without it to the text with it. -/
theorem leads_insertion (hp : p ≤ a.length) (w : Text) :
    Leads ⟨p, [], w⟩ a (a.take p ++ w ++ a.drop p) := by
  refine ⟨a.take p, a.drop p, List.length_take_of_le hp, ?_, rfl⟩
  rw [List.append_nil, List.take_append_drop]

/-- An insertion is found where it was made by the caret behind it. -/
theorem betweenAt_insertion (hp : p ≤ a.length) (hw : w ≠ []) :
    betweenAt a (a.take p ++ w ++ a.drop p) (p + w.length) = some ⟨p, [], w⟩ := by
  let b : Text := a.take p ++ w ++ a.drop p
  have hmade : Leads ⟨p, [], w⟩ a b := leads_insertion hp w
  have hne : a ≠ b := by
    intro heq
    have hpos : 0 < w.length := List.length_pos_iff.mpr hw
    have hlength : a.length + w.length = b.length := hmade.length_eq
    rw [← heq] at hlength
    omega
  obtain ⟨e, he⟩ := Option.ne_none_iff_exists'.mp (mt between_eq_none_iff.mp hne)
  -- the least edit removes no more than this one, so it inserts as much
  obtain ⟨hremoved, -⟩ := (isReduced_of_between he).length_le (leads_of_between he) hmade
  have hnil : e.removed = [] := List.eq_nil_of_length_eq_zero (Nat.le_zero.mp hremoved)
  obtain ⟨-, hlength⟩ := length_of_removed_eq_nil he hnil
  have hinserted : e.inserted.length = w.length :=
    Nat.add_left_cancel (hlength.trans hmade.length_eq.symm)
  have hslice : b.slice p (p + w.length) = w := hmade.slice_start_newEnd
  have hplaced : InsertsBefore a b e.inserted.length (p + w.length) := by
    rw [InsertsBefore, hinserted, Nat.add_sub_cancel, hslice]
  rw [betweenAt_eq, he, Option.map_some, placed_of_insertsBefore hnil hplaced, hinserted,
    Nat.add_sub_cancel, hslice]

end LineEditor.Edit
