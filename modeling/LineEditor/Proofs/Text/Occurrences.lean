import LineEditor.Text.Basic
import Mathlib.Order.Bounds.Basic

/-!
# Occurrences of a text

A text occurs in another one at the offsets where the rest begins with it. Occurrences may overlap,
and each counts. Searching forward from an offset finds the least one that is not before it, and
searching backward from an offset the greatest one that ends at or before it: an occurrence lies on
one side of the offset as a whole, or else it is not found.
-/

namespace LineEditor.Text

variable {t piece : Text} {start stop i : Nat}

/-- A piece of text occurs at an offset. -/
def OccursAt (t piece : Text) (i : Nat) : Prop := piece <+: t.drop i

theorem isPrefixOf_drop_iff : piece.isPrefixOf (t.drop i) = true ↔ t.OccursAt piece i :=
  List.isPrefixOf_iff_prefix

theorem OccursAt.length_le (h : t.OccursAt piece i) (hpiece : piece ≠ []) :
    i + piece.length ≤ t.length := by
  have hpos : 0 < piece.length := List.length_pos_iff.mpr hpiece
  have hle : piece.length ≤ (t.drop i).length := List.IsPrefix.length_le h
  rw [List.length_drop] at hle
  omega

/-- In a text that is cut, a piece occurs where it does in the whole text and ends before the
cut. -/
theorem occursAt_take_iff (hpiece : piece ≠ []) :
    OccursAt (t.take stop) piece i ↔ t.OccursAt piece i ∧ i + piece.length ≤ stop := by
  have hpos : 0 < piece.length := List.length_pos_iff.mpr hpiece
  rw [OccursAt, List.drop_take, List.prefix_take_iff, ← OccursAt]
  refine and_congr_right fun _ ↦ ?_
  omega

/-! ## Searching rows of offsets -/

private theorem findSome?_eq_map_find? (xs : List Nat) (p : Nat → Bool) (f : Nat → Nat) :
    (xs.findSome? fun x ↦ if p x then some (f x) else none) = (xs.find? p).map f := by
  induction xs with
  | nil => rfl
  | cons x xs ih =>
    rw [List.findSome?_cons, List.find?_cons]
    cases p x with
    | true => rfl
    | false => exact ih

/-- From the end, the greatest offset is found. -/
private theorem find?_reverse_range_eq_some {n : Nat} {p : Nat → Bool} :
    (List.range n).reverse.find? p = some i ↔ p i = true ∧ i < n ∧ ∀ j < n, p j = true → j ≤ i := by
  induction n with
  | zero => simp
  | succ n ih =>
    rw [List.range_succ, List.reverse_concat, List.find?_cons]
    cases hp : p n with
    | true =>
      constructor
      · intro h
        obtain rfl := Option.some.inj h
        exact ⟨hp, Nat.lt_succ_self _, fun j hj _ ↦ Nat.le_of_lt_succ hj⟩
      · rintro ⟨-, hi, hgreatest⟩
        exact congrArg some (Nat.le_antisymm (hgreatest n (Nat.lt_succ_self _) hp)
          (Nat.le_of_lt_succ hi))
    | false =>
      have hne : ∀ j < n + 1, p j = true → j < n := fun j hj hpj ↦ by
        have : j ≠ n := fun heq ↦ Bool.false_ne_true (hp ▸ heq ▸ hpj)
        omega
      rw [ih]
      constructor
      · rintro ⟨hpi, hi, hgreatest⟩
        exact ⟨hpi, by omega, fun j hj hpj ↦ hgreatest j (hne j hj hpj) hpj⟩
      · rintro ⟨hpi, hi, hgreatest⟩
        exact ⟨hpi, hne i hi hpi, fun j hj ↦ hgreatest j (by omega)⟩

/-! ## Forward and backward -/

/-- Forward, the least occurrence is found that is not before an offset. -/
theorem findFrom_eq_some_iff (hpiece : piece ≠ []) :
    t.findFrom piece start = some i ↔ IsLeast {j | t.OccursAt piece j ∧ start ≤ j} i := by
  rw [findFrom, findSome?_eq_map_find?, Option.map_eq_some_iff]
  simp only [List.find?_range_eq_some, isPrefixOf_drop_iff, List.mem_range,
    Bool.not_eq_true', Bool.eq_false_iff, ne_eq]
  constructor
  · rintro ⟨k, ⟨hk, -, hbefore⟩, rfl⟩
    refine ⟨⟨hk, Nat.le_add_right _ _⟩, fun j ⟨hj, hle⟩ ↦ ?_⟩
    by_contra hlt
    refine hbefore (j - start) (by omega) ?_
    rwa [Nat.add_sub_cancel' hle]
  · rintro ⟨⟨hi, hle⟩, hleast⟩
    have hlength := hi.length_le hpiece
    have hpos : 0 < piece.length := List.length_pos_iff.mpr hpiece
    refine ⟨i - start, ⟨?_, by omega, fun j hj hocc ↦ ?_⟩, Nat.add_sub_cancel' hle⟩
    · rwa [Nat.add_sub_cancel' hle]
    · have hleast' := hleast ⟨hocc, Nat.le_add_right _ _⟩
      omega

theorem findFrom_eq_none_iff (hpiece : piece ≠ []) :
    t.findFrom piece start = none ↔ ∀ j, t.OccursAt piece j → j < start := by
  rw [findFrom, findSome?_eq_map_find?, Option.map_eq_none_iff, List.find?_eq_none]
  simp only [List.mem_range, isPrefixOf_drop_iff]
  constructor
  · intro h j hj
    have hlength := hj.length_le hpiece
    by_contra hlt
    refine h (j - start) (by omega) ?_
    rwa [Nat.add_sub_cancel' (by omega)]
  · intro h k _ hk
    exact absurd (h _ hk) (by omega)

/-- Backward, the greatest occurrence is found that ends at or before an offset. -/
theorem findLastBefore_eq_some_iff (hpiece : piece ≠ []) :
    t.findLastBefore piece stop = some i
      ↔ IsGreatest {j | t.OccursAt piece j ∧ j + piece.length ≤ stop} i := by
  have hcut : ∀ j, piece.isPrefixOf ((t.take stop).drop j) = true
      ↔ t.OccursAt piece j ∧ j + piece.length ≤ stop := fun j ↦ by
    rw [isPrefixOf_drop_iff, occursAt_take_iff hpiece]
  have hrange : ∀ j, t.OccursAt piece j ∧ j + piece.length ≤ stop → j < (t.take stop).length + 1 :=
    fun j hj ↦ by
      have hlength := ((occursAt_take_iff hpiece).mpr hj).length_le hpiece
      omega
  rw [findLastBefore, find?_reverse_range_eq_some]
  simp only [hcut]
  constructor
  · rintro ⟨hi, -, hgreatest⟩
    exact ⟨hi, fun j hj ↦ hgreatest j (hrange j hj) hj⟩
  · rintro ⟨hi, hgreatest⟩
    exact ⟨hi, hrange i hi, fun j _ hj ↦ hgreatest hj⟩

theorem findLastBefore_eq_none_iff (hpiece : piece ≠ []) :
    t.findLastBefore piece stop = none ↔ ∀ j, t.OccursAt piece j → stop < j + piece.length := by
  rw [findLastBefore, List.find?_eq_none]
  simp only [List.mem_reverse, List.mem_range, isPrefixOf_drop_iff, occursAt_take_iff hpiece,
    not_and, Nat.not_le]
  constructor
  · intro h j hj
    by_contra hle
    have hlength := ((occursAt_take_iff hpiece).mpr ⟨hj, Nat.not_lt.mp hle⟩).length_le hpiece
    exact hle (h j (by omega) hj)
  · exact fun h j _ ↦ h j

end LineEditor.Text
