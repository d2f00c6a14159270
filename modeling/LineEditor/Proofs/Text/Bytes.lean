import LineEditor.Text.Bytes
import Mathlib.Logic.Function.Iterate
import Mathlib.Order.Bounds.Basic
import Mathlib.Order.Interval.Set.Defs
import Mathlib.Order.Monotone.Defs

/-!
# Character offsets and byte offsets

The bytes of a text are those of the string with its characters. Where this string can be cut
without cutting a character lies a *boundary*; the characters in front of it are a text of their
own, whose length is the character offset of the boundary and whose size is its byte offset. So all
that is said here about the maps between the two measures is first said about a text in two parts.

Stepping from boundary to boundary is what ends the search for a match: each step goes on by a
character, and the last one goes past the end.
-/

namespace LineEditor.Text.Bytes

variable {t u v : Text} {b k : Nat}

/-- The encoded form of the text can be cut at byte `b` without cutting a character. -/
def IsBoundary (t : Text) (b : Nat) : Prop := String.Pos.Raw.IsValid (String.ofList t) ⟨b⟩

/-- The size of a text is that of its encoded form. -/
theorem utf8ByteSize_ofList (t : Text) : (String.ofList t).utf8ByteSize = size t := by
  induction t with
  | nil => rfl
  | cons c t ih =>
    rw [String.ofList_cons, String.utf8ByteSize_append, String.utf8ByteSize_singleton, ih,
      size_cons]

theorem size_toByteArray (t : Text) : (String.ofList t).toByteArray.size = size t := by
  rw [String.size_toByteArray, utf8ByteSize_ofList]

/-- A boundary lies behind the characters of a text of its own. -/
theorem isBoundary_iff_append : IsBoundary t b ↔ ∃ u v, t = u ++ v ∧ size u = b := by
  rw [IsBoundary, String.Pos.Raw.isValid_iff_exists_append]
  constructor
  · rintro ⟨s, s', hs, hb⟩
    refine ⟨s.toList, s'.toList, ?_, ?_⟩
    · rw [← String.toList_append, ← hs, String.toList_ofList]
    · rw [← utf8ByteSize_ofList, String.ofList_toList]
      exact (congrArg String.Pos.Raw.byteIdx hb).symm
  · rintro ⟨u, v, rfl, rfl⟩
    refine ⟨String.ofList u, String.ofList v, String.ofList_append, ?_⟩
    rw [String.Pos.Raw.ext_iff, String.byteIdx_rawEndPos, utf8ByteSize_ofList]

/-! ## A text in two parts -/

/-- Behind a character, characters are counted anew. -/
theorem toChar_cons_add (c : Char) (t : Text) (b : Nat) :
    toChar (c :: t) (c.utf8Size + b) = toChar t b + 1 := by
  obtain ⟨n, hn⟩ := Nat.exists_eq_add_one.mpr (Nat.add_pos_left c.utf8Size_pos b)
  rw [hn, toChar, ← hn, Nat.add_sub_cancel_left]

/-- And so are the bytes up to the next boundary. -/
theorem next_cons_add (c : Char) (t : Text) (b : Nat) :
    next (c :: t) (c.utf8Size + b) = c.utf8Size + next t b := by
  obtain ⟨n, hn⟩ := Nat.exists_eq_add_one.mpr (Nat.add_pos_left c.utf8Size_pos b)
  rw [hn, next, ← hn, Nat.add_sub_cancel_left]

theorem ofChar_append (u v : Text) : ofChar (u ++ v) u.length = size u := by
  rw [ofChar, List.take_left]

/-- Whatever stands behind a boundary, it has the offset of the characters in front of it. -/
theorem toChar_append (u v : Text) : toChar (u ++ v) (size u) = u.length := by
  induction u with
  | nil => cases v <;> rfl
  | cons c u ih => rw [List.cons_append, size_cons, toChar_cons_add, ih, List.length_cons]

/-- From a boundary on, the next one is behind one more character. -/
theorem next_append_cons (u : Text) (c : Char) (v : Text) :
    next (u ++ c :: v) (size u) = size (u ++ [c]) := by
  induction u with
  | nil => rfl
  | cons d u ih => rw [List.cons_append, size_cons, next_cons_add, ih, List.cons_append, size_cons]

/-- Behind the end there is no boundary, and the step goes past it. -/
theorem next_size (t : Text) : next t (size t) = size t + 1 := by
  induction t with
  | nil => rfl
  | cons c t ih => rw [size_cons, next_cons_add, ih, Nat.add_assoc]

/-! ## From one measure to the other -/

theorem ofChar_of_length_le (h : t.length ≤ k) : ofChar t k = size t := by
  rw [ofChar, List.take_of_length_le h]

/-- The boundaries are where characters start, and the end. -/
theorem isBoundary_iff : IsBoundary t b ↔ ∃ k ≤ t.length, ofChar t k = b := by
  rw [isBoundary_iff_append]
  constructor
  · rintro ⟨u, v, rfl, rfl⟩
    exact ⟨u.length, (List.prefix_append u v).length_le, ofChar_append u v⟩
  · rintro ⟨k, -, rfl⟩
    exact ⟨t.take k, t.drop k, (List.take_append_drop k t).symm, rfl⟩

theorem toChar_ofChar (t : Text) (k : Nat) : toChar t (ofChar t k) = min k t.length := by
  have h := toChar_append (t.take k) (t.drop k)
  rwa [List.take_append_drop, List.length_take] at h

theorem ofChar_toChar (h : IsBoundary t b) : ofChar t (toChar t b) = b := by
  obtain ⟨u, v, rfl, rfl⟩ := isBoundary_iff_append.mp h
  rw [toChar_append, ofChar_append]

theorem monotone_ofChar (t : Text) : Monotone (ofChar t) := by
  intro j k hjk
  rw [ofChar, ofChar, ← Nat.max_eq_right hjk, ← take_append_slice, size_append]
  exact Nat.le_add_right _ _

/-- Inside a character the map counts the character, so it is monotone there, too. -/
theorem monotone_toChar (t : Text) : Monotone (toChar t) := by
  induction t with
  | nil => exact fun _ _ _ ↦ Nat.le_refl 0
  | cons c t ih =>
    intro b b' hb
    match b, b' with
    | 0, _ => exact Nat.zero_le _
    | b + 1, b' + 1 => exact Nat.succ_le_succ (ih (Nat.sub_le_sub_right hb _))

/-! ## Cutting -/

/-- The bytes between the boundaries of two characters are those of the text between them. -/
theorem extract_ofChar (t : Text) (start stop : Nat) :
    (String.ofList t).toByteArray.extract (ofChar t start) (ofChar t (max start stop))
      = (String.ofList (t.slice start stop)).toByteArray := by
  have hfront := take_append_slice t start stop
  have hbytes : (String.ofList t).toByteArray = (String.ofList (t.take start)).toByteArray
      ++ (String.ofList (t.slice start stop)).toByteArray
      ++ (String.ofList (t.drop (max start stop))).toByteArray := by
    rw [← String.toByteArray_append, ← String.toByteArray_append, ← String.ofList_append,
      ← String.ofList_append, hfront, List.take_append_drop]
  rw [hbytes, ofChar, ofChar, ← hfront, size_append, ← size_toByteArray, ← size_toByteArray,
    ← ByteArray.size_append, ByteArray.extract_append_size_left]
  exact ByteArray.extract_append_eq_right rfl ByteArray.size_append

/-! ## Stepping -/

theorem next_ofChar (h : k < t.length) : next t (ofChar t k) = ofChar t (k + 1) := by
  have hnext := next_append_cons (t.take k) t[k] (t.drop (k + 1))
  rwa [← List.drop_eq_getElem_cons h, List.take_append_drop, List.take_append_getElem h] at hnext

theorem ofChar_lt_ofChar_succ (h : k < t.length) : ofChar t k < ofChar t (k + 1) := by
  rw [ofChar, ofChar, ← List.take_append_getElem h, size_append]
  exact Nat.lt_add_of_pos_right (t[k].utf8Size_pos.trans_le (Nat.le_add_right _ _))

/-- As many steps as there are characters visit the boundaries, from the first one to the end. -/
theorem iterate_next (h : k ≤ t.length) : (next t)^[k] 0 = ofChar t k := by
  induction k with
  | zero => rfl
  | succ k ih => rw [Function.iterate_succ_apply', ih (Nat.le_of_succ_le h), next_ofChar h]

/-- One more step goes past the end. -/
theorem iterate_next_length (t : Text) : (next t)^[t.length + 1] 0 = size t + 1 := by
  rw [Function.iterate_succ_apply', iterate_next (Nat.le_refl _),
    ofChar_of_length_le (Nat.le_refl _), next_size]

/-- Every step goes on. -/
theorem iterate_next_lt (h : k ≤ t.length) : (next t)^[k] 0 < (next t)^[k + 1] 0 := by
  rcases Nat.lt_or_eq_of_le h with hlt | rfl
  · rw [iterate_next h, iterate_next hlt]
    exact ofChar_lt_ofChar_succ hlt
  · rw [iterate_next h, iterate_next_length, ofChar_of_length_le (Nat.le_refl _)]
    exact Nat.lt_succ_self _

theorem strictMonoOn_iterate_next (t : Text) :
    StrictMonoOn (fun k ↦ (next t)^[k] 0) (Set.Iic (t.length + 1)) := by
  intro j _ k hk hjk
  induction k with
  | zero => exact absurd hjk (Nat.not_lt_zero j)
  | succ k ih =>
    have hstep := iterate_next_lt (Nat.le_of_succ_le_succ hk)
    rcases Nat.lt_or_eq_of_le (Nat.le_of_lt_succ hjk) with hlt | rfl
    · exact (ih (Nat.le_of_succ_le hk) hlt).trans hstep
    · exact hstep

/-- The two maps are inverse to each other on the offsets of the text and the boundaries, and both
are monotone; the bytes between two boundaries are those of the characters between their offsets;
and the steps from the first boundary on visit the boundaries in order and no others, until the step
behind the last character goes past the end. -/
theorem converts_and_steps (t : Text) :
    ((∀ k, toChar t (ofChar t k) = min k t.length) ∧
      (∀ b, IsBoundary t b → ofChar t (toChar t b) = b) ∧
      Monotone (ofChar t) ∧ Monotone (toChar t)) ∧
    (∀ start stop,
      (∀ i, (t.slice start stop)[i]? = if start + i < max start stop then t[start + i]? else none) ∧
      (String.ofList t).toByteArray.extract (ofChar t start) (ofChar t (max start stop))
        = (String.ofList (t.slice start stop)).toByteArray) ∧
    ((∀ b, IsBoundary t b ↔ ∃ k ≤ t.length, (next t)^[k] 0 = b) ∧
      StrictMonoOn (fun k ↦ (next t)^[k] 0) (Set.Iic (t.length + 1)) ∧
      IsLeast {k | (next t)^[k] 0 = (String.ofList t).utf8ByteSize + 1} (t.length + 1)) := by
  refine ⟨⟨toChar_ofChar t, fun _ ↦ ofChar_toChar, monotone_ofChar t, monotone_toChar t⟩,
    fun start stop ↦ ⟨fun i ↦ ?_, extract_ofChar t start stop⟩, fun b ↦ ?_,
    strictMonoOn_iterate_next t, ?_, fun k hk ↦ ?_⟩
  · rw [slice, List.getElem?_drop, List.getElem?_take]
  · rw [isBoundary_iff]
    exact exists_congr fun k ↦ and_congr_right fun hk ↦ by rw [iterate_next hk]
  · rw [Set.mem_ofPred_eq, iterate_next_length, utf8ByteSize_ofList]
  · -- before that, every step has been within the text
    by_contra hlt
    have hle : k ≤ t.length := Nat.le_of_lt_succ (Nat.lt_of_not_le hlt)
    rw [Set.mem_ofPred_eq, utf8ByteSize_ofList, iterate_next hle,
      ← ofChar_of_length_le (Nat.le_refl t.length)] at hk
    have hmono := monotone_ofChar t hle
    omega

/-- With a character of two bytes and one of four. -/
theorem converts_and_steps_wide :
    let t := "aé😀".toList
    IsBoundary t 3 ∧ Bytes.ofChar t (Bytes.toChar t 3) = 3 ∧
      IsLeast {k | (next t)^[k] 0 = 8} 4 := by
  have hboundary : IsBoundary "aé😀".toList 3 := isBoundary_iff.mpr ⟨2, by decide, by decide⟩
  obtain ⟨⟨-, hback, -⟩, -, -, -, hleast⟩ := converts_and_steps "aé😀".toList
  exact ⟨hboundary, hback 3 hboundary, hleast⟩

end LineEditor.Text.Bytes
