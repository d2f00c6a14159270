import LineEditor.Proofs.Surface.Points
import LineEditor.Proofs.Surface.Wrapping

/-!
# Leaves at the end of paths

A path that leads to a leaf leads to it from wherever the forest is changed behind that leaf: what a
path passes are the nodes in front. So all leaves that start in front of a stretch stay where they
are when it is wrapped, and the one that reaches into it is only cut at its start.
-/

namespace LineEditor.Forest

/-! ## Paths to leaves -/

/-- The path leads to the leaf `l`, which starts at the offset `start`. -/
inductive LeafAt : Forest → (path : List Nat) → (start : Nat) → (l : Leaf) → Prop
  /-- The leaf is the first node of the row. -/
  | leafHere {l : Leaf} {next : Forest} : LeafAt (leaf l next) [0] 0 l
  /-- The leaf lies in the first node of the row. -/
  | elementHere {tag : Text} {inner next : Forest} {path : List Nat} {start : Nat} {l : Leaf}
      (h : LeafAt inner path start l) : LeafAt (element tag inner next) (0 :: path) start l
  /-- The leaf lies behind a leaf. -/
  | leafLater {l' : Leaf} {next : Forest} {index : Nat} {path : List Nat} {start : Nat} {l : Leaf}
      (h : LeafAt next (index :: path) start l) :
      LeafAt (leaf l' next) ((index + 1) :: path) (l'.length + start) l
  /-- The leaf lies behind an element. -/
  | elementLater {tag : Text} {inner next : Forest} {index : Nat} {path : List Nat} {start : Nat}
      {l : Leaf} (h : LeafAt next (index :: path) start l) :
      LeafAt (element tag inner next) ((index + 1) :: path) (inner.length + start) l

namespace LeafAt

variable {f : Forest} {path : List Nat} {start : Nat} {l : Leaf}

/-- Along the path, offsets are read from the start of the leaf to its end. -/
theorem offsetAlong (h : LeafAt f path start l) (offset : Nat) :
    f.offsetAlong path offset = start + min offset l.length := by
  induction h with
  | leafHere => rw [Forest.offsetAlong, Nat.zero_add]
  | elementHere _ ih => rw [Forest.offsetAlong, ih]
  | leafLater _ ih => rw [Forest.offsetAlong, ih, Nat.add_assoc]
  | elementLater _ ih => rw [Forest.offsetAlong, ih, Nat.add_assoc]

theorem tipLength? (h : LeafAt f path start l) : f.tipLength? path = some l.length := by
  induction h with
  | leafHere => rfl
  | elementHere h ih =>
    rw [Forest.tipLength?, if_neg, ih]
    rintro ⟨rfl, -⟩
    cases h
  | leafLater _ ih => rw [Forest.tipLength?, ih]
  | elementLater _ ih => rw [Forest.tipLength?, ih]

theorem stop_le (h : LeafAt f path start l) : start + l.length ≤ f.length := by
  induction h with
  | leafHere => exact Nat.add_comm _ _ ▸ Nat.le_add_right _ _
  | elementHere _ ih => exact Nat.le_trans ih (Nat.le_add_right _ _)
  | leafLater _ ih =>
    rw [length]
    omega
  | elementLater _ ih =>
    rw [length]
    omega

/-- Where a leaf starts there is a cut. -/
theorem cut (h : LeafAt f path start l) : f.Cut start := by
  induction h with
  | leafHere => exact cut_zero _
  | elementHere h ih =>
    have hstop := h.stop_le
    exact (cut_element_of_le (by omega)).mpr ih
  | leafLater _ ih =>
    refine cut_leaf_iff.mpr (.inr ⟨Nat.le_add_right _ _, ?_⟩)
    rwa [Nat.add_sub_cancel_left]
  | @elementLater _ inner _ _ _ start _ _ ih =>
    rcases Nat.eq_zero_or_pos start with rfl | hpos
    · exact (cut_element_of_le (Nat.le_refl _)).mpr (cut_of_length_le (Nat.le_refl _))
    · refine (cut_element_of_lt (Nat.lt_add_of_pos_right hpos)).mpr ?_
      rwa [Nat.add_sub_cancel_left]

end LeafAt

/-- The point of an offset that lies in front of the end, or behind a character of its leaf, leads
to a leaf that the offset lies in. -/
theorem exists_leafAt_locateFrom {f : Forest} (index : Nat) {n : Nat} (h : n ≤ f.length)
    (hpos : n < f.length ∨ 0 < (f.locateFrom index n).offset) :
    ∃ k path start l, LeafAt f (k :: path) start l ∧
      f.locateFrom index n = ⟨(index + k) :: path, n - start⟩ ∧
      start ≤ n ∧ n ≤ start + l.length ∧ (n < f.length → n < start + l.length) := by
  induction f generalizing index n with
  | nil =>
    obtain rfl := Nat.le_zero.mp h
    exact (hpos.elim (Nat.lt_irrefl 0) (Nat.lt_irrefl 0)).elim
  | leaf l next ih =>
    rw [length] at h hpos ⊢
    rw [locateFrom] at hpos ⊢
    split
    · next hhere =>
      simp only [Bool.or_eq_true, Bool.and_eq_true, decide_eq_true_eq, isNil_iff] at hhere
      refine ⟨0, [], 0, l, .leafHere, rfl, Nat.zero_le n, by omega, fun hlt ↦ ?_⟩
      rcases hhere with hin | ⟨-, rfl⟩
      · omega
      · rw [length] at hlt
        omega
    · next hlater =>
      rw [if_neg hlater] at hpos
      simp only [Bool.or_eq_true, Bool.and_eq_true, decide_eq_true_eq, not_or] at hlater
      obtain ⟨k, path, start, l', hleaf, hlocate, h₁, h₂, h₃⟩ :=
        ih (index + 1) (n := n - l.length) (by omega) (hpos.imp_left (by omega))
      refine ⟨k + 1, path, l.length + start, l', hleaf.leafLater, ?_, by omega, by omega, by omega⟩
      rw [hlocate, Nat.add_assoc, Nat.add_comm 1 k, Nat.sub_sub]
  | element tag inner next ihi ihn =>
    rw [length] at h hpos ⊢
    rw [locateFrom] at hpos ⊢
    split
    · next hhere =>
      rw [if_pos hhere] at hpos
      simp only [Bool.or_eq_true, Bool.and_eq_true, decide_eq_true_eq, isNil_iff] at hhere
      -- the end of the children is the end of the row
      have hend : n < inner.length + next.length → n < inner.length := by
        rcases hhere with hin | ⟨-, rfl⟩
        · exact fun _ ↦ hin
        · exact id
      obtain ⟨k, path, start, l, hleaf, hlocate, h₁, h₂, h₃⟩ :=
        ihi 0 (n := n) (by omega) (hpos.imp_left hend)
      refine ⟨0, k :: path, start, l, hleaf.elementHere, ?_, h₁, h₂, fun hlt ↦ h₃ (hend hlt)⟩
      rw [hlocate, Nat.zero_add]
      rfl
    · next hlater =>
      rw [if_neg hlater] at hpos
      simp only [Bool.or_eq_true, Bool.and_eq_true, decide_eq_true_eq, not_or] at hlater
      obtain ⟨k, path, start, l, hleaf, hlocate, h₁, h₂, h₃⟩ :=
        ihn (index + 1) (n := n - inner.length) (by omega) (hpos.imp_left (by omega))
      refine ⟨k + 1, path, inner.length + start, l, hleaf.elementLater, ?_, by omega, by omega,
        by omega⟩
      rw [hlocate, Nat.add_assoc, Nat.add_comm 1 k, Nat.sub_sub]

/-- The leaf that the point of an offset leads to. -/
theorem exists_leafAt_locate {f : Forest} {n : Nat} (h : n ≤ f.length)
    (hpos : n < f.length ∨ 0 < (f.locate n).offset) :
    ∃ start l, LeafAt f (f.locate n).path start l ∧ (f.locate n).offset = n - start ∧
      start ≤ n ∧ n ≤ start + l.length ∧ (n < f.length → n < start + l.length) := by
  obtain ⟨k, path, start, l, hleaf, hlocate, hrest⟩ := exists_leafAt_locateFrom 0 h hpos
  rw [locate, hlocate, Nat.zero_add]
  exact ⟨start, l, hleaf, rfl, hrest⟩

/-! ## Splitting -/

/-- A leaf that ends in front of an offset is not split there. -/
theorem splitAt_leaf_of_le {l : Leaf} {next : Forest} {n : Nat} (h : l.length ≤ n) :
    (leaf l next).splitAt n = leaf l (next.splitAt (n - l.length)) := by
  cases l with
  | text chars =>
    rw [splitAt, if_neg]
    · rfl
    · have hlen : chars.length ≤ n := h
      simp only [Bool.and_eq_true, decide_eq_true_eq]
      omega
  | lineBreak => rfl

/-- A leaf that an offset falls into ends there. -/
theorem exists_splitAt_leaf_of_lt {l : Leaf} (next : Forest) {n : Nat} (hpos : 0 < n)
    (h : n < l.length) :
    ∃ l' rest, (leaf l next).splitAt n = leaf l' rest ∧ l'.length = n := by
  cases l with
  | text chars =>
    have hlen : n < chars.length := h
    refine ⟨.text (chars.take n), leaf (.text (chars.drop n)) next, ?_,
      List.length_take_of_le (Nat.le_of_lt hlen)⟩
    rw [splitAt, if_pos]
    simp only [Bool.and_eq_true, decide_eq_true_eq]
    exact ⟨hpos, hlen⟩
  | lineBreak =>
    have hlen : n < 1 := h
    omega

theorem splitAt_element_of_le {tag : Text} {inner next : Forest} {n : Nat}
    (h : inner.length ≤ n) :
    (element tag inner next).splitAt n = element tag inner (next.splitAt (n - inner.length)) := by
  rw [splitAt, if_neg]
  simp only [Bool.and_eq_true, decide_eq_true_eq]
  omega

theorem splitAt_element_of_lt {tag : Text} {inner next : Forest} {n : Nat} (hpos : 0 < n)
    (h : n < inner.length) :
    (element tag inner next).splitAt n = element tag (inner.splitAt n) next := by
  rw [splitAt, if_pos]
  simp only [Bool.and_eq_true, decide_eq_true_eq]
  exact ⟨hpos, h⟩

/-- A leaf that starts in front of the offset of a split stays where it is, but ends there. -/
theorem LeafAt.splitAt {f : Forest} {path : List Nat} {start : Nat} {l : Leaf}
    (h : LeafAt f path start l) {n : Nat} (hn : start < n) :
    ∃ l', LeafAt (f.splitAt n) path start l' ∧ l'.length = min l.length (n - start) := by
  induction h generalizing n with
  | @leafHere l next =>
    rw [Nat.sub_zero]
    by_cases hle : l.length ≤ n
    · rw [splitAt_leaf_of_le hle, Nat.min_eq_left hle]
      exact ⟨l, leafHere, rfl⟩
    · have hlt := Nat.not_le.mp hle
      obtain ⟨l', rest, hsplit, hlength⟩ := exists_splitAt_leaf_of_lt next hn hlt
      rw [hsplit, Nat.min_eq_right (Nat.le_of_lt hlt)]
      exact ⟨l', leafHere, hlength⟩
  | @elementHere tag inner next path start l h ih =>
    by_cases hle : inner.length ≤ n
    · have hstop := h.stop_le
      rw [splitAt_element_of_le hle, Nat.min_eq_left (by omega)]
      exact ⟨l, elementHere h, rfl⟩
    · rw [splitAt_element_of_lt (by omega) (Nat.not_le.mp hle)]
      obtain ⟨l', h', hlength⟩ := ih hn
      exact ⟨l', elementHere h', hlength⟩
  | @leafLater l' next index path start l h ih =>
    rw [splitAt_leaf_of_le (by omega), ← Nat.sub_sub]
    obtain ⟨l'', h'', hlength⟩ := ih (n := n - l'.length) (by omega)
    exact ⟨l'', leafLater h'', hlength⟩
  | @elementLater tag inner next index path start l h ih =>
    rw [splitAt_element_of_le (by omega), ← Nat.sub_sub]
    obtain ⟨l', h', hlength⟩ := ih (n := n - inner.length) (by omega)
    exact ⟨l', elementLater h', hlength⟩

/-! ## Wrapping -/

/-- Before anything is gathered, a leaf that reaches out of the stretch, or is empty, is passed. -/
theorem wrapFrom_leaf {tag : Text} {l : Leaf} {next : Forest} {base start stop : Nat}
    (h : base < start ∨ stop < base + l.length ∨ l.length = 0) :
    (leaf l next).wrapFrom tag base start stop nil
      = leaf l (next.wrapFrom tag (base + l.length) start stop nil) := by
  rw [wrapFrom, if_neg]
  · rfl
  · simp only [isNil, Bool.not_true, Bool.false_and, Bool.or_false, Bool.and_eq_true,
      decide_eq_true_eq]
    omega

/-- So is an element, and its children are wrapped. -/
theorem wrapFrom_element {tag t : Text} {inner next : Forest} {base start stop : Nat}
    (h : base < start ∨ stop < base + inner.length ∨ inner.length = 0) :
    (element t inner next).wrapFrom tag base start stop nil
      = element t (inner.wrapChildren tag base start stop)
        (next.wrapFrom tag (base + inner.length) start stop nil) := by
  rw [wrapFrom_element_eq, if_neg]
  · rfl
  · simp only [isNil, Bool.not_true, Bool.false_and, Bool.or_false, Bool.and_eq_true,
      decide_eq_true_eq]
    omega

/-- A leaf that lies in the stretch is gathered. -/
theorem wrapFrom_leaf_inside {tag : Text} {l : Leaf} {next : Forest} {base start stop : Nat}
    (hstart : start ≤ base) (hstop : base + l.length ≤ stop) (hl : 0 < l.length) :
    (leaf l next).wrapFrom tag base start stop nil
      = next.wrapFrom tag (base + l.length) start stop (leaf l nil) := by
  rw [wrapFrom, if_pos]
  · rfl
  · simp only [Bool.and_eq_true, Bool.or_eq_true, decide_eq_true_eq]
    exact ⟨⟨hstart, hstop⟩, .inl hl⟩

/-- So is an element, as a whole. -/
theorem wrapFrom_element_inside {tag t : Text} {inner next : Forest} {base start stop : Nat}
    (hstart : start ≤ base) (hstop : base + inner.length ≤ stop) (hinner : 0 < inner.length) :
    (element t inner next).wrapFrom tag base start stop nil
      = next.wrapFrom tag (base + inner.length) start stop (element t inner nil) := by
  rw [wrapFrom, if_pos]
  · rfl
  · simp only [Bool.and_eq_true, Bool.or_eq_true, decide_eq_true_eq]
    exact ⟨⟨hstart, hstop⟩, .inl hinner⟩

/-- A leaf that starts in front of the stretch stays where it is. -/
theorem LeafAt.wrapFrom {f : Forest} {path : List Nat} {first : Nat} {l : Leaf}
    (h : LeafAt f path first l) {tag : Text} {base start stop : Nat}
    (hstart : base + first < start) :
    LeafAt (f.wrapFrom tag base start stop nil) path first l := by
  induction h generalizing base start stop with
  | leafHere =>
    rw [wrapFrom_leaf (.inl (by omega))]
    exact leafHere
  | elementHere h ih =>
    rw [wrapFrom_element (.inl (by omega)), wrapChildren]
    refine elementHere ?_
    split
    · exact ih (by omega)
    · exact h
  | leafLater h ih =>
    rw [wrapFrom_leaf (by omega)]
    exact leafLater (ih (by omega))
  | @elementLater _ inner _ _ _ _ _ h ih =>
    rw [wrapFrom_element (by omega), wrapChildren, if_neg (by omega)]
    exact elementLater (ih (by omega))

/-- A leaf that starts in front of a row that is put in stays where it is. -/
theorem LeafAt.insertRow {f : Forest} {path : List Nat} {start : Nat} {l : Leaf}
    (h : LeafAt f path start l) (row : Forest) {n : Nat} (hn : start < n) :
    LeafAt (f.insertRow n row) path start l := by
  induction h generalizing n with
  | leafHere =>
    rw [Forest.insertRow, if_neg (by omega)]
    exact leafHere
  | elementHere h ih =>
    rw [Forest.insertRow, if_neg (by omega)]
    exact elementHere h
  | leafLater h ih =>
    rw [Forest.insertRow, if_neg (by omega)]
    exact leafLater (ih (by omega))
  | elementLater h ih =>
    rw [Forest.insertRow, if_neg (by omega)]
    exact elementLater (ih (by omega))

/-- **Leaves in front.** A leaf that starts in front of a stretch stays where it is when the stretch
is wrapped, but ends at its start. -/
theorem LeafAt.wrap {f : Forest} {path : List Nat} {first : Nat} {l : Leaf}
    (h : LeafAt f path first l) {start stop : Nat} (hstart : first < start) (hle : start ≤ stop)
    (tag : Text) :
    ∃ l', LeafAt (f.wrap start stop tag) path first l' ∧
      l'.length = min l.length (start - first) := by
  obtain ⟨l₁, h₁, hlength₁⟩ := h.splitAt hstart
  obtain ⟨l₂, h₂, hlength₂⟩ := h₁.splitAt (Nat.lt_of_lt_of_le hstart hle)
  refine ⟨l₂, ?_, by omega⟩
  rw [Forest.wrap]
  split
  · exact h₂.insertRow _ hstart
  · exact h₂.wrapFrom (by omega)

end LineEditor.Forest
