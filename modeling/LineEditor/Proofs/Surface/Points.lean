import LineEditor.Surface.Forest

/-!
# Points of a forest

An offset can be turned into a point and back. The point may be in front of a leaf or behind the one
before it, and `locate` settles for one of them, so that turning a point into an offset and back
need not give the same point; but the offset is always the same.

The path of such a point leads to a node without children, a *tip* of the forest: to a leaf, or to
an element that is empty.
-/

namespace LineEditor.Forest

/-! ## Tips -/

/-- The number of characters of the tip that a path leads to, `none` if it leads to no tip. -/
def tipLength? : Forest → (path : List Nat) → Option Nat
  | nil, _ => none
  | _, [] => none
  | leaf l _, 0 :: path => if path = [] then some l.length else none
  | element _ inner _, 0 :: path =>
    if inner = nil ∧ path = [] then some 0 else inner.tipLength? path
  | leaf _ next, (index + 1) :: path => next.tipLength? (index :: path)
  | element _ _ next, (index + 1) :: path => next.tipLength? (index :: path)

/-- The point is a place in the forest: its path leads to a tip, and its offset is not behind that.
In an empty forest there is one place only. -/
def HasPlace (f : Forest) (p : Point) : Prop :=
  if f = nil then p = ⟨[], 0⟩ else ∃ m, f.tipLength? p.path = some m ∧ p.offset ≤ m

/-! ## From offsets to points and back -/

/-- The point of an offset inside a row leads to a tip behind a node of the row, and back to the
offset. -/
private theorem offsetAlong_locateFrom {f : Forest} (hf : f ≠ nil) (index : Nat) {n : Nat}
    (h : n ≤ f.length) :
    ∃ k path offset, f.locateFrom index n = ⟨(index + k) :: path, offset⟩ ∧
      f.offsetAlong (k :: path) offset = n ∧
      ∃ m, f.tipLength? (k :: path) = some m ∧ offset ≤ m := by
  induction f generalizing index n with
  | nil => exact absurd rfl hf
  | leaf l next ih =>
    rw [length] at h
    rw [locateFrom]
    split
    · next hhere =>
      simp only [Bool.or_eq_true, Bool.and_eq_true, decide_eq_true_eq] at hhere
      have hle : n ≤ l.length := by omega
      exact ⟨0, [], n, rfl, Nat.min_eq_left hle, l.length, rfl, hle⟩
    · next hlater =>
      simp only [Bool.or_eq_true, Bool.and_eq_true, decide_eq_true_eq, not_or, not_and] at hlater
      -- behind the last node there is no other one to go on to
      have hnext : next ≠ nil := by
        rintro rfl
        exact hlater.2 (Nat.le_antisymm h (Nat.not_lt.mp hlater.1)) rfl
      obtain ⟨k, path, offset, hlocate, hback, htip⟩ :=
        ih hnext (index + 1) (n := n - l.length) (by omega)
      refine ⟨k + 1, path, offset, ?_, ?_, htip⟩
      · rw [hlocate, Nat.add_assoc, Nat.add_comm 1 k]
      · rw [offsetAlong, hback]
        omega
  | element tag inner next ihi ihn =>
    rw [length] at h
    rw [locateFrom]
    split
    · next hhere =>
      simp only [Bool.or_eq_true, Bool.and_eq_true, decide_eq_true_eq] at hhere
      refine ⟨0, (inner.locateFrom 0 n).path, (inner.locateFrom 0 n).offset, rfl, ?_⟩
      rw [offsetAlong, tipLength?]
      by_cases hinner : inner = nil
      · subst hinner
        exact ⟨rfl, 0, rfl, hhere.elim (Nat.le_of_lt) fun h ↦ Nat.le_of_eq h.1⟩
      · obtain ⟨k, path, offset, hlocate, hback, htip⟩ := ihi hinner 0 (n := n) (by omega)
        rw [hlocate, Nat.zero_add, if_neg fun h ↦ hinner h.1]
        exact ⟨hback, htip⟩
    · next hlater =>
      simp only [Bool.or_eq_true, Bool.and_eq_true, decide_eq_true_eq, not_or, not_and] at hlater
      have hnext : next ≠ nil := by
        rintro rfl
        exact hlater.2 (Nat.le_antisymm h (Nat.not_lt.mp hlater.1)) rfl
      obtain ⟨k, path, offset, hlocate, hback, htip⟩ :=
        ihn hnext (index + 1) (n := n - inner.length) (by omega)
      refine ⟨k + 1, path, offset, ?_, ?_, htip⟩
      · rw [hlocate, Nat.add_assoc, Nat.add_comm 1 k]
      · rw [offsetAlong, hback]
        omega

/-- The point of an offset stands for that offset. -/
theorem offsetOf_locate (f : Forest) {n : Nat} (h : n ≤ f.length) :
    f.offsetOf (f.locate n) = n := by
  by_cases hf : f = nil
  · rw [hf]
    rfl
  · obtain ⟨k, path, offset, hlocate, hback, -⟩ := offsetAlong_locateFrom hf 0 h
    rw [locate, hlocate, Nat.zero_add]
    exact hback

/-- It is a place in the forest. -/
theorem hasPlace_locate (f : Forest) {n : Nat} (h : n ≤ f.length) : f.HasPlace (f.locate n) := by
  rw [HasPlace]
  split
  · next hf =>
    subst hf
    rw [Nat.le_zero.mp h]
    rfl
  · next hf =>
    obtain ⟨k, path, offset, hlocate, -, htip⟩ := offsetAlong_locateFrom hf 0 h
    rw [locate, hlocate, Nat.zero_add]
    exact htip

end LineEditor.Forest
