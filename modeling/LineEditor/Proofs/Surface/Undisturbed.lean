import LineEditor.Proofs.Surface.Leaves

/-!
# Points that wrapping does not disturb

Splitting a leaf and gathering nodes change the number of nodes in a row, and with it the nodes that
the indices behind them mean. This does not reach further than to the end of the row: behind the
element that holds the row, points are not disturbed. Nor are they behind a stretch that is just
what one node stands for, as one element takes the place of one node.

An empty stretch gets an empty element, which moves the nodes behind it on by one. A point at the
stretch may lead to another node then, but it is still read as the same offset.
-/

namespace LineEditor.Forest

/-- The offset behind which no point is disturbed by wrapping `[start, stop)`. -/
def disturbedTo : Forest → (start stop : Nat) → Nat
  | nil, _, stop => stop
  | leaf l next, start, stop =>
    if l.length ≤ start then l.length + next.disturbedTo (start - l.length) (stop - l.length)
    -- one node for one node, or else the rest of the row is numbered anew
    else if start = 0 ∧ stop = l.length then stop
    else l.length + next.length
  | element _ inner next, start, stop =>
    if inner.length ≤ start then
      inner.length + next.disturbedTo (start - inner.length) (stop - inner.length)
    else if start = 0 ∧ stop = inner.length then stop
    -- among the children only
    else if stop ≤ inner.length then inner.disturbedTo start stop
    -- gathered with nodes behind it
    else if start = 0 then inner.length + next.length
    -- among the children and on from the node behind
    else inner.length + next.disturbedTo 0 (stop - inner.length)

variable {f : Forest}

/-! ## Tips -/

theorem tipLength?_nil (f : Forest) : f.tipLength? [] = none := by
  rcases f with _ | _ | _ <;> rfl

/-- The end of a tip is not behind the end of the row. -/
theorem offsetAlong_le_length {path : List Nat} {m : Nat} (h : f.tipLength? path = some m) :
    f.offsetAlong path m ≤ f.length := by
  induction f generalizing path with
  | nil => exact absurd h.symm (Option.some_ne_none m)
  | leaf l next ih =>
    rcases path with _ | ⟨_ | index, path⟩
    · rw [tipLength?_nil] at h
      exact absurd h.symm (Option.some_ne_none m)
    · exact Nat.le_trans (Nat.min_le_right _ _) (Nat.le_add_right _ _)
    · exact Nat.add_le_add_left (ih h) _
  | element tag inner next ihi ihn =>
    rcases path with _ | ⟨_ | index, path⟩
    · rw [tipLength?_nil] at h
      exact absurd h.symm (Option.some_ne_none m)
    · rw [tipLength?] at h
      split at h
      · next hempty =>
        obtain ⟨rfl, rfl⟩ := hempty
        obtain rfl := Option.some.inj h
        exact Nat.zero_le _
      · exact Nat.le_trans (ihi h) (Nat.le_add_right _ _)
    · exact Nat.add_le_add_left (ihn h) _

/-- Along a path, a larger offset is not read as a smaller one. -/
theorem offsetAlong_mono (f : Forest) (path : List Nat) {m n : Nat} (h : m ≤ n) :
    f.offsetAlong path m ≤ f.offsetAlong path n := by
  induction f generalizing path with
  | nil =>
    rcases path with _ | ⟨index, path⟩
    · exact h
    · exact Nat.le_refl 0
  | leaf l next ih =>
    rcases path with _ | ⟨_ | index, path⟩
    · exact h
    · rw [offsetAlong, offsetAlong]
      omega
    · exact Nat.add_le_add_left (ih _) _
  | element tag inner next ihi ihn =>
    rcases path with _ | ⟨_ | index, path⟩
    · exact h
    · exact ihi path
    · exact Nat.add_le_add_left (ihn _) _

/-! ## Behind the stretch -/

/-- At the start of a row there is nothing to split. -/
@[simp] theorem splitAt_zero (f : Forest) : f.splitAt 0 = f := f.cut_zero.splitAt_eq

/-- An element is split where its children are. -/
theorem splitAt_element {tag : Text} {inner next : Forest} {n : Nat} (h : n ≤ inner.length) :
    (element tag inner next).splitAt n = element tag (inner.splitAt n) next := by
  rcases Nat.eq_or_lt_of_le h with rfl | hlt
  · rw [splitAt_element_of_le h, Nat.sub_self, splitAt_zero,
      (cut_of_length_le (Nat.le_refl _)).splitAt_eq]
  · rcases Nat.eq_zero_or_pos n with rfl | hpos
    · rw [splitAt_zero, splitAt_zero]
    · exact splitAt_element_of_lt hpos hlt

/-- Behind the stretch, the run is closed and the rest of the row is left alone. -/
theorem wrapFrom_of_stop_le (tag : Text) {base start stop : Nat} (h : stop ≤ base) (run : Forest) :
    f.wrapFrom tag base start stop run = closeRun tag run f := by
  induction f generalizing base run with
  | nil => rfl
  | leaf l next ih =>
    rw [wrapFrom, if_neg, ih (by omega)]
    · rfl
    · simp only [Bool.and_eq_true, Bool.or_eq_true, decide_eq_true_eq]
      omega
  | element t inner next _ ih =>
    rw [wrapFrom, if_neg, ih (by omega)]
    · rw [if_neg]
      · rfl
      · simp only [Bool.and_eq_true, decide_eq_true_eq]
        omega
    · simp only [Bool.and_eq_true, Bool.or_eq_true, decide_eq_true_eq]
      omega

/-- What becomes of a row that starts at offset `base` when the stretch is wrapped. -/
def wrapRow (f : Forest) (tag : Text) (base start stop : Nat) : Forest :=
  ((f.splitAt (start - base)).splitAt (stop - base)).wrapFrom tag base start stop nil

theorem length_wrapRow (f : Forest) (tag : Text) (base start stop : Nat) :
    (f.wrapRow tag base start stop).length = f.length := by
  rw [wrapRow, length_wrapFrom, length_splitAt, length_splitAt]

section WrapRow

variable {tag t : Text} {l : Leaf} {inner next : Forest} {base start stop : Nat}

theorem wrapRow_leaf (h : l.length ≤ start - base) (hlt : start < stop) :
    (leaf l next).wrapRow tag base start stop
      = leaf l (next.wrapRow tag (base + l.length) start stop) := by
  rw [wrapRow, splitAt_leaf_of_le h, splitAt_leaf_of_le (by omega), wrapFrom_leaf (by omega),
    Nat.sub_sub, Nat.sub_sub]
  rfl

/-- A leaf that is the whole stretch gets an element of its own. -/
theorem wrapRow_whole_leaf (h : start - base = 0) (h' : stop - base = l.length)
    (hbase : base < stop) :
    (leaf l next).wrapRow tag base start stop = element tag (leaf l nil) next := by
  rw [wrapRow, h, h', splitAt_zero, splitAt_leaf_of_le (Nat.le_refl _), Nat.sub_self, splitAt_zero,
    wrapFrom_leaf_inside (by omega) (by omega) (by omega), wrapFrom_of_stop_le tag (by omega)]
  rfl

theorem wrapRow_element (h : inner.length ≤ start - base) (hlt : start < stop) :
    (element t inner next).wrapRow tag base start stop
      = element t inner (next.wrapRow tag (base + inner.length) start stop) := by
  rw [wrapRow, splitAt_element_of_le h, splitAt_element_of_le (by omega),
    wrapFrom_element (by omega), wrapChildren, Nat.sub_sub, Nat.sub_sub]
  split
  · -- an empty element inside of the stretch
    rw [wrapFrom_of_stop_le tag (by omega)]
    rfl
  · rfl

/-- An element that is the whole stretch gets an element of its own. -/
theorem wrapRow_whole_element (h : start - base = 0) (h' : stop - base = inner.length)
    (hbase : base < stop) :
    (element t inner next).wrapRow tag base start stop
      = element tag (element t inner nil) next := by
  rw [wrapRow, h, h', splitAt_zero, splitAt_element_of_le (Nat.le_refl _), Nat.sub_self,
    splitAt_zero, wrapFrom_element_inside (by omega) (by omega) (by omega),
    wrapFrom_of_stop_le tag (by omega)]
  rfl

/-- In an element that holds the stretch and more, only the children are wrapped. -/
theorem wrapRow_within (h : start - base < inner.length) (h' : stop - base ≤ inner.length)
    (hnot : ¬ (start - base = 0 ∧ stop - base = inner.length)) (hbase : base < stop) :
    (element t inner next).wrapRow tag base start stop
      = element t (inner.wrapRow tag 0 (start - base) (stop - base)) next := by
  have hrest : next.wrapFrom tag (base + inner.length) start stop nil = next :=
    wrapFrom_of_stop_le tag (by omega) nil
  have hlength : ((inner.splitAt (start - base)).splitAt (stop - base)).length = inner.length := by
    rw [length_splitAt, length_splitAt]
  rw [wrapRow, splitAt_element (Nat.le_of_lt h), splitAt_element (by rwa [length_splitAt]),
    wrapFrom_element (by omega), wrapChildren, hlength, if_pos (by omega), hrest,
    show min stop (base + inner.length) - base = stop - base by omega]
  rfl

/-- An element in which the stretch starts and does not stop keeps its place, and what is behind it
is wrapped as a row of its own. -/
theorem exists_wrapRow_across (tag t : Text) (next : Forest) (hbase : 0 < start - base)
    (h : start - base < inner.length) (h' : inner.length < stop - base) :
    ∃ inner', inner'.length = inner.length ∧ (element t inner next).wrapRow tag base start stop
      = element t inner' (next.wrapRow tag (base + inner.length) start stop) := by
  have hlength : (inner.splitAt (start - base)).length = inner.length := length_splitAt _ _
  refine ⟨(inner.splitAt (start - base)).wrapFrom tag 0 (start - base)
    (min stop (base + inner.length) - base) nil, ?_, ?_⟩
  · rw [length_wrapFrom, hlength]
  · rw [wrapRow, splitAt_element (Nat.le_of_lt h), splitAt_element_of_le (by omega),
      wrapFrom_element (by omega), wrapChildren, hlength, if_pos (by omega), wrapRow,
      show start - (base + inner.length) = 0 by omega, splitAt_zero, ← Nat.sub_sub]

end WrapRow

section Tip

variable {t : Text} {inner next : Forest} {path : List Nat} {m : Nat}

/-- A tip in an element does not reach behind the children. -/
theorem offsetAlong_first_le (h : (element t inner next).tipLength? (0 :: path) = some m) :
    inner.offsetAlong path m ≤ inner.length := by
  have halone : (element t inner nil).tipLength? (0 :: path) = some m := h
  -- the length of an element alone is that of its children
  have hend := offsetAlong_le_length halone
  exact hend

/-- A tip that reaches behind an element is read in the rest of the row, whatever has become of the
element as long as its length has not changed. -/
theorem offsetAlong_behind_element (htip : (element t inner next).tipLength? path = some m)
    (hbehind : inner.length < (element t inner next).offsetAlong path m) {inner' next' : Forest}
    (hlength : inner'.length = inner.length) {o : Nat}
    (hnext : ∀ index path', path = (index + 1) :: path' →
      next'.offsetAlong (index :: path') o = next.offsetAlong (index :: path') o) (t' : Text) :
    (element t' inner' next').offsetAlong path o = (element t inner next).offsetAlong path o := by
  rcases path with _ | ⟨_ | index, path⟩
  · rfl
  · exact absurd (offsetAlong_first_le htip) (Nat.not_le.mpr hbehind)
  · rw [offsetAlong, offsetAlong, hlength, hnext index path rfl]

end Tip

/-- A tip that reaches beyond what is disturbed is read as before. -/
theorem offsetAlong_wrapRow {base start stop m : Nat} {path : List Nat} (hbase : base < stop)
    (hlt : start < stop) (htip : f.tipLength? path = some m)
    (hbeyond : f.disturbedTo (start - base) (stop - base) < f.offsetAlong path m) (tag : Text)
    (o : Nat) :
    (f.wrapRow tag base start stop).offsetAlong path o = f.offsetAlong path o := by
  induction f generalizing base start stop path with
  | nil => exact absurd htip.symm (Option.some_ne_none m)
  | leaf l next ih =>
    have hle := offsetAlong_le_length htip
    rw [disturbedTo] at hbeyond
    split at hbeyond
    · next hfront =>
      rw [wrapRow_leaf hfront hlt]
      rcases path with _ | ⟨_ | index, path⟩
      · rfl
      · rfl
      · rw [offsetAlong, Nat.sub_sub, Nat.sub_sub] at hbeyond
        rw [offsetAlong, offsetAlong, ih (by omega) hlt htip (by omega)]
    · split at hbeyond
      · next hwhole =>
        rw [wrapRow_whole_leaf hwhole.1 hwhole.2 hbase]
        rcases path with _ | ⟨_ | index, path⟩
        · rfl
        · rw [offsetAlong] at hbeyond
          omega
        · rfl
      · rw [length] at hle
        omega
  | element t inner next ihi ihn =>
    have hle := offsetAlong_le_length htip
    rw [disturbedTo] at hbeyond
    split at hbeyond
    · next hfront =>
      rw [wrapRow_element hfront hlt]
      refine offsetAlong_behind_element htip (by omega) rfl (fun index path' hpath ↦ ?_) t
      subst hpath
      rw [offsetAlong, Nat.sub_sub, Nat.sub_sub] at hbeyond
      exact ihn (by omega) hlt htip (by omega)
    · next hin =>
      split at hbeyond
      · next hwhole =>
        have hone : (element t inner nil).length = inner.length := rfl
        rw [wrapRow_whole_element hwhole.1 hwhole.2 hbase]
        exact offsetAlong_behind_element htip (by omega) hone (fun _ _ _ ↦ rfl) tag
      · next hnot =>
        split at hbeyond
        · next hwithin =>
          rw [wrapRow_within (Nat.not_le.mp hin) hwithin hnot hbase]
          rcases path with _ | ⟨_ | index, path⟩
          · rfl
          · have hne : inner ≠ nil := by
              rintro rfl
              exact hin (Nat.zero_le _)
            rw [tipLength?, if_neg fun h ↦ hne h.1] at htip
            exact ihi (by omega) (by omega) htip hbeyond
          · rw [offsetAlong, offsetAlong, length_wrapRow]
        · next hacross =>
          split at hbeyond
          · rw [length] at hle
            omega
          · next hpos =>
            obtain ⟨inner', hlength, hrow⟩ := exists_wrapRow_across tag t next
              (Nat.pos_of_ne_zero hpos) (Nat.not_le.mp hin) (Nat.not_le.mp hacross)
            have hzero : start - (base + inner.length) = 0 := by omega
            rw [hrow]
            refine offsetAlong_behind_element htip (by omega) hlength (fun index path' hpath ↦ ?_) t
            subst hpath
            rw [offsetAlong, Nat.sub_sub, ← hzero] at hbeyond
            exact ihn (by omega) hlt htip (by omega)

/-! ## At an empty stretch -/

/-- The start of what a path leads to is not behind the end of the row. -/
theorem offsetAlong_zero_le_length (f : Forest) (path : List Nat) :
    f.offsetAlong path 0 ≤ f.length := by
  induction f generalizing path with
  | nil => rcases path with _ | ⟨index, path⟩ <;> exact Nat.le_refl 0
  | leaf l next ih =>
    rcases path with _ | ⟨_ | index, path⟩
    · exact Nat.zero_le _
    · rw [offsetAlong, Nat.zero_min]
      exact Nat.zero_le _
    · exact Nat.add_le_add_left (ih _) _
  | element tag inner next ihi ihn =>
    rcases path with _ | ⟨_ | index, path⟩
    · exact Nat.zero_le _
    · exact Nat.le_trans (ihi path) (Nat.le_add_right _ _)
    · exact Nat.add_le_add_left (ihn _) _

/-- What starts at the start of a row does so one node earlier. -/
theorem offsetAlong_pred_eq_zero {index : Nat} {path : List Nat}
    (h : f.offsetAlong ((index + 1) :: path) 0 = 0) : f.offsetAlong (index :: path) 0 = 0 := by
  induction f generalizing index with
  | nil => rfl
  | leaf l next ih =>
    rw [offsetAlong] at h
    cases index with
    | zero => exact Nat.zero_min _
    | succ index =>
      rw [offsetAlong, ih (by omega)]
      omega
  | element tag inner next _ ih =>
    rw [offsetAlong] at h
    cases index with
    | zero =>
      have hle := inner.offsetAlong_zero_le_length path
      rw [offsetAlong]
      omega
    | succ index =>
      rw [offsetAlong, ih (by omega)]
      omega

/-- A point at the start of a row stays there when an empty element is put in front. -/
theorem offsetAlong_behind_empty {path : List Nat} (h : f.offsetAlong path 0 = 0) (tag : Text) :
    (element tag nil f).offsetAlong path 0 = 0 := by
  rcases path with _ | ⟨_ | index, path⟩
  · rfl
  · exact Nat.le_zero.mp (nil.offsetAlong_zero_le_length path)
  · rw [offsetAlong, offsetAlong_pred_eq_zero h]
    rfl

/-- An empty element that is put in at the offset of a point moves the nodes behind it on by one,
but leaves the point at that offset. -/
theorem offsetAlong_insertRow_empty {path : List Nat} {n : Nat} (h : f.offsetAlong path 0 = n)
    (tag : Text) :
    (f.insertRow n (element tag nil nil)).offsetAlong path 0 = n := by
  induction f generalizing n path with
  | nil =>
    have hzero := Nat.le_zero.mp (nil.offsetAlong_zero_le_length path)
    rw [← h, hzero]
    exact offsetAlong_behind_empty hzero tag
  | leaf l next ih =>
    rw [insertRow]
    split
    · next hn =>
      rw [hn] at h ⊢
      exact offsetAlong_behind_empty h tag
    · rcases path with _ | ⟨_ | index, path⟩
      · exact h
      · exact h
      · rw [offsetAlong] at h ⊢
        rw [ih (n := n - l.length) (by omega)]
        omega
  | element t inner next _ ih =>
    rw [insertRow]
    split
    · next hn =>
      rw [hn] at h ⊢
      exact offsetAlong_behind_empty h tag
    · rcases path with _ | ⟨_ | index, path⟩
      · exact h
      · exact h
      · rw [offsetAlong] at h ⊢
        rw [ih (n := n - inner.length) (by omega)]
        omega

end LineEditor.Forest
