import LineEditor.Surface.Forest

/-!
# Cutting a stretch out of a forest

Removing a stretch from a forest keeps the leaves outside it and drops those inside, and never has
to look into a leaf: before that the leaves at both ends are split. `Forest.Cut` is what splitting
is there for, an offset that falls between leaves at every level. Splitting makes a cut, keeps the
cuts there are, and so both ends are cuts when the nodes between them are removed.

What is left is told character by character, each with the elements that are around it: those of
the stretch are gone, and the others are in the same elements as before.
-/

namespace LineEditor

/-- Only an empty text stands for no character. -/
theorem Leaf.length_pos {l : Leaf} (h : l ≠ .text []) : 0 < l.length := by
  cases l with
  | text chars => exact List.length_pos_iff.mpr fun hc ↦ h (hc ▸ rfl)
  | lineBreak => exact Nat.one_pos

namespace Forest

/-- The offset falls between leaves, or lies past the end. -/
def Cut : Forest → (offset : Nat) → Prop
  | nil, _ => True
  | leaf l next, offset => offset = 0 ∨ (l.length ≤ offset ∧ next.Cut (offset - l.length))
  | element _ inner next, offset =>
    if offset ≤ inner.length then inner.Cut offset else next.Cut (offset - inner.length)

theorem cut_leaf_iff {l : Leaf} {next : Forest} {n : Nat} :
    (leaf l next).Cut n ↔ n = 0 ∨ (l.length ≤ n ∧ next.Cut (n - l.length)) := Iff.rfl

theorem cut_element_of_le {tag : Text} {inner next : Forest} {n : Nat} (h : n ≤ inner.length) :
    (element tag inner next).Cut n ↔ inner.Cut n := by
  rw [Cut, if_pos h]

theorem cut_element_of_lt {tag : Text} {inner next : Forest} {n : Nat} (h : inner.length < n) :
    (element tag inner next).Cut n ↔ next.Cut (n - inner.length) := by
  rw [Cut, if_neg (Nat.not_le.mpr h)]

/-- The start of a forest is a cut. -/
theorem cut_zero (f : Forest) : f.Cut 0 := by
  induction f with
  | nil => trivial
  | leaf l next _ => exact .inl rfl
  | element tag inner next ih _ => exact (cut_element_of_le (Nat.zero_le _)).mpr ih

/-- The end of a forest is a cut. -/
theorem cut_of_length_le {f : Forest} {n : Nat} (h : f.length ≤ n) : f.Cut n := by
  induction f generalizing n with
  | nil => trivial
  | leaf l next ih =>
    rw [length] at h
    exact .inr ⟨by omega, ih (by omega)⟩
  | element tag inner next ihi ihn =>
    rw [length] at h
    by_cases hn : n ≤ inner.length
    · exact (cut_element_of_le hn).mpr (ihi (by omega))
    · exact (cut_element_of_lt (by omega)).mpr (ihn (by omega))

/-- Behind an element, a cut of the row is a cut of the rest. -/
theorem Cut.next_of_element {tag : Text} {inner next : Forest} {n : Nat}
    (h : (element tag inner next).Cut n) : next.Cut (n - inner.length) := by
  by_cases hn : n ≤ inner.length
  · rw [Nat.sub_eq_zero_of_le hn]
    exact next.cut_zero
  · exact (cut_element_of_lt (by omega)).mp h

/-- Behind a leaf, a cut of the row is a cut of the rest. The row starts at offset `base`. -/
theorem Cut.behind_leaf {l : Leaf} {next : Forest} {base n : Nat}
    (h : (leaf l next).Cut (n - base)) : next.Cut (n - (base + l.length)) := by
  rcases cut_leaf_iff.mp h with hzero | ⟨-, hcut⟩
  · rw [show n - (base + l.length) = 0 by omega]
    exact next.cut_zero
  · rwa [Nat.sub_sub] at hcut

/-- So it is behind an element. -/
theorem Cut.behind_element {tag : Text} {inner next : Forest} {base n : Nat}
    (h : (element tag inner next).Cut (n - base)) : next.Cut (n - (base + inner.length)) := by
  rw [← Nat.sub_sub]
  exact h.next_of_element

/-- A leaf that is not in the stretch as a whole lies outside, as neither end falls inside it. -/
theorem Cut.leaf_apart {l : Leaf} {next : Forest} {base start stop : Nat}
    (hstart : (leaf l next).Cut (start - base)) (hstop : (leaf l next).Cut (stop - base))
    (hl : 0 < l.length) (hnot : ¬ (start ≤ base ∧ base + l.length ≤ stop)) :
    base + l.length ≤ start ∨ stop ≤ base := by
  have h₁ := cut_leaf_iff.mp hstart
  have h₂ := cut_leaf_iff.mp hstop
  omega

/-- Inside an element, a cut of the row is a cut of its children. -/
theorem Cut.inner_of_element {tag : Text} {inner next : Forest} {n : Nat}
    (h : (element tag inner next).Cut n) : inner.Cut (min n inner.length) := by
  by_cases hn : n ≤ inner.length
  · rw [Nat.min_eq_left hn]
    exact (cut_element_of_le hn).mp h
  · rw [Nat.min_eq_right (by omega)]
    exact cut_of_length_le (Nat.le_refl _)

/-- The children of an element are a row that starts at offset 0. If the stretch starts in the
element, or in front of it, it starts at a cut of that row. -/
theorem Cut.start_in_element {tag : Text} {inner next : Forest} {base start : Nat}
    (h : (element tag inner next).Cut (start - base)) (hlt : start < base + inner.length) :
    inner.Cut (start - base - 0) := by
  have hcut := h.inner_of_element
  rwa [Nat.min_eq_left (by omega)] at hcut

/-- Cut to the length of the element, the stretch stops at a cut of the row, too. -/
theorem Cut.stop_in_element {tag : Text} {inner next : Forest} {base stop : Nat}
    (h : (element tag inner next).Cut (stop - base)) :
    inner.Cut (min stop (base + inner.length) - base - 0) := by
  rw [show min stop (base + inner.length) - base - 0 = min (stop - base) inner.length by omega]
  exact h.inner_of_element

/-! ## Splitting -/

theorem length_splitAt (f : Forest) (n : Nat) : (f.splitAt n).length = f.length := by
  rw [length_eq_length_content, length_eq_length_content, content_splitAt]

/-- Where a leaf is split there is a cut. -/
theorem cut_splitAt (f : Forest) (n : Nat) : (f.splitAt n).Cut n := by
  induction f generalizing n with
  | nil => trivial
  | leaf l next ih =>
    cases l with
    | text chars =>
      rw [splitAt]
      split
      · next h =>
        simp only [Bool.and_eq_true, decide_eq_true_eq] at h
        have hlen : (Leaf.text (chars.take n)).length = n :=
          List.length_take_of_le (Nat.le_of_lt h.2)
        -- the first part of the leaf ends at the offset
        refine .inr ⟨Nat.le_of_eq hlen, ?_⟩
        rw [hlen, Nat.sub_self]
        exact cut_zero _
      · next h =>
        simp only [Bool.and_eq_true, decide_eq_true_eq] at h
        by_cases hn : n = 0
        · exact .inl hn
        · exact .inr ⟨show chars.length ≤ n by omega, ih _⟩
    | lineBreak =>
      rw [splitAt]
      by_cases hn : n = 0
      · exact .inl hn
      · exact .inr ⟨show 1 ≤ n by omega, ih _⟩
  | element tag inner next ihi ihn =>
    rw [splitAt]
    split
    · next h =>
      simp only [Bool.and_eq_true, decide_eq_true_eq] at h
      refine (cut_element_of_le ?_).mpr (ihi n)
      rw [length_splitAt]
      exact Nat.le_of_lt h.2
    · next h =>
      simp only [Bool.and_eq_true, decide_eq_true_eq] at h
      by_cases hn : n ≤ inner.length
      · refine (cut_element_of_le hn).mpr ?_
        by_cases hzero : n = 0
        · rw [hzero]
          exact inner.cut_zero
        · exact cut_of_length_le (by omega)
      · exact (cut_element_of_lt (by omega)).mpr (ihn _)

/-- Splitting a leaf keeps the cuts there are. -/
theorem Cut.splitAt {f : Forest} {m : Nat} (h : f.Cut m) (n : Nat) : (f.splitAt n).Cut m := by
  induction f generalizing m n with
  | nil => trivial
  | leaf l next ih =>
    rcases cut_leaf_iff.mp h with rfl | ⟨hlen, hnext⟩
    · exact cut_zero _
    cases l with
    | text chars =>
      rw [Forest.splitAt]
      split
      · next hn =>
        simp only [Bool.and_eq_true, decide_eq_true_eq] at hn
        have hm : chars.length ≤ m := hlen
        have htake : (Leaf.text (chars.take n)).length = n :=
          List.length_take_of_le (Nat.le_of_lt hn.2)
        have hdrop : (Leaf.text (chars.drop n)).length = chars.length - n := List.length_drop
        -- a cut never falls inside a leaf, so it lies behind both parts
        refine .inr ⟨by omega, .inr ⟨by omega, ?_⟩⟩
        have hrest : m - n - (chars.length - n) = m - chars.length := by omega
        rw [htake, hdrop, hrest]
        exact hnext
      · exact .inr ⟨hlen, ih hnext _⟩
    | lineBreak => exact .inr ⟨hlen, ih hnext _⟩
  | element tag inner next ihi ihn =>
    rw [Forest.splitAt]
    by_cases hm : m ≤ inner.length
    · have hinner := (cut_element_of_le hm).mp h
      split
      · exact (cut_element_of_le (by rwa [length_splitAt])).mpr (ihi hinner n)
      · exact (cut_element_of_le hm).mpr hinner
    · have hnext := (cut_element_of_lt (by omega)).mp h
      split
      · refine (cut_element_of_lt (by rw [length_splitAt]; omega)).mpr ?_
        rw [length_splitAt]
        exact hnext
      · exact (cut_element_of_lt (by omega)).mpr (ihn hnext _)

/-! ## Characters and the elements around them -/

/-- The characters of the leaves in order, each with the tags of the elements around it, the
outermost first; `outer` are those around the whole row. -/
def characters : Forest → (outer : List Text) → List (Char × List Text)
  | nil, _ => []
  | leaf l next, outer => l.content.map (·, outer) ++ next.characters outer
  | element tag inner next, outer => inner.characters (outer ++ [tag]) ++ next.characters outer

theorem map_fst_characters (f : Forest) (outer : List Text) :
    (f.characters outer).map Prod.fst = f.content := by
  induction f generalizing outer with
  | nil => rfl
  | leaf l next ih =>
    have hleaf : (l.content.map (·, outer)).map Prod.fst = l.content := by
      rw [List.map_map]
      exact List.map_id _
    rw [characters, content, List.map_append, hleaf, ih]
  | element tag inner next ihi ihn => rw [characters, content, List.map_append, ihi, ihn]

theorem length_characters (f : Forest) (outer : List Text) :
    (f.characters outer).length = f.length := by
  rw [length_eq_length_content, ← f.map_fst_characters outer, List.length_map]

/-- Splitting leaves changes the nodes, but neither the characters nor what is around them. -/
theorem characters_splitAt (f : Forest) (n : Nat) (outer : List Text) :
    (f.splitAt n).characters outer = f.characters outer := by
  induction f generalizing n outer with
  | nil => rfl
  | leaf l next ih =>
    cases l with
    | text chars =>
      rw [Forest.splitAt]
      split
      · rw [characters, characters, characters, ← List.append_assoc, ← List.map_append]
        simp only [Leaf.content, List.take_append_drop]
      · rw [characters, characters, ih]
    | lineBreak => rw [Forest.splitAt, characters, characters, ih]
  | element tag inner next ihi ihn =>
    rw [Forest.splitAt]
    split
    · rw [characters, characters, ihi]
    · rw [characters, characters, ihn]

/-! ## Removing -/

section Rows

variable {α : Type} {t u : List α} {base start stop n : Nat}

/-- What is left of a row whose first node is dropped as a whole. -/
private theorem drop_eq_of_covered (hlen : t.length = n) (hstart : start ≤ base)
    (hstop : base + n ≤ stop) :
    u.take (start - (base + n)) ++ u.drop (stop - (base + n))
      = (t ++ u).take (start - base) ++ (t ++ u).drop (stop - base) := by
  have h₁ : start - base = 0 := by omega
  have h₂ : start - (base + n) = 0 := by omega
  have h₃ : stop - base = t.length + (stop - (base + n)) := by omega
  rw [h₁, h₂, h₃, List.take_zero, List.take_zero, List.drop_append, Nat.add_sub_cancel_left,
    List.drop_of_length_le (Nat.le_add_right _ _), List.nil_append, List.nil_append]

/-- What is left of a row whose first node lies outside the stretch. -/
private theorem append_eq_of_apart (hlen : t.length = n) (hle : start ≤ stop)
    (h : base + n ≤ start ∨ stop ≤ base) :
    t ++ (u.take (start - (base + n)) ++ u.drop (stop - (base + n)))
      = (t ++ u).take (start - base) ++ (t ++ u).drop (stop - base) := by
  rcases h with h | h
  · have h₁ : start - base = t.length + (start - (base + n)) := by omega
    have h₂ : stop - base = t.length + (stop - (base + n)) := by omega
    rw [h₁, h₂, List.take_append, List.drop_append, Nat.add_sub_cancel_left,
      Nat.add_sub_cancel_left, List.take_of_length_le (Nat.le_add_right _ _),
      List.drop_of_length_le (Nat.le_add_right _ _), List.nil_append, List.append_assoc]
  · have h₁ : start - base = 0 := by omega
    have h₂ : stop - base = 0 := by omega
    have h₃ : start - (base + n) = 0 := by omega
    have h₄ : stop - (base + n) = 0 := by omega
    rw [h₁, h₂, h₃, h₄]
    rfl

/-- What is left of a row whose first node holds an end of the stretch, or both. -/
private theorem append_eq_of_meeting (hlen : t.length = n) (hstart : start < base + n)
    (hstop : base < stop) :
    t.take (start - base) ++ t.drop (min stop (base + n) - base)
        ++ (u.take (start - (base + n)) ++ u.drop (stop - (base + n)))
      = (t ++ u).take (start - base) ++ (t ++ u).drop (stop - base) := by
  have h₁ : start - base ≤ t.length := by omega
  have h₂ : start - (base + n) = 0 := by omega
  have h₃ : stop - base - t.length = stop - (base + n) := by omega
  have h₄ : t.drop (min stop (base + n) - base) = t.drop (stop - base) := by
    by_cases h : stop ≤ base + n
    · rw [Nat.min_eq_left h]
    · rw [List.drop_of_length_le (by omega), List.drop_of_length_le (by omega)]
  rw [h₂, h₄, List.take_append_of_le_length h₁, List.drop_append, h₃, List.take_zero,
    List.nil_append, List.append_assoc]

end Rows

/-- Removing the nodes between two cuts takes the characters between them out, and leaves the
others with what is around them. -/
theorem characters_removeFrom {f : Forest} {base start stop : Nat} (hle : start ≤ stop)
    (hstart : f.Cut (start - base)) (hstop : f.Cut (stop - base)) (outer : List Text) :
    (f.removeFrom base start stop).characters outer
      = (f.characters outer).take (start - base) ++ (f.characters outer).drop (stop - base) := by
  -- the rest of a row is a row that starts further on, hence any `base`
  induction f generalizing base start stop outer with
  | nil => rw [removeFrom, characters, List.take_nil, List.drop_nil, List.append_nil]
  | leaf l next ih =>
    have hlen : (l.content.map fun c ↦ (c, outer)).length = l.length := List.length_map _
    have hrest := ih hle hstart.behind_leaf hstop.behind_leaf outer
    rw [removeFrom]
    split
    · next h =>
      simp only [Bool.and_eq_true, decide_eq_true_eq] at h
      rw [hrest]
      exact drop_eq_of_covered hlen h.1.2 h.2
    · next h =>
      simp only [Bool.and_eq_true, decide_eq_true_eq] at h
      split
      · next hl =>
        rw [hrest, hl]
        rfl
      · next hl =>
        have hpos := Leaf.length_pos hl
        have hapart := hstart.leaf_apart hstop hpos fun hin ↦ h ⟨⟨hpos, hin.1⟩, hin.2⟩
        rw [characters, hrest]
        exact append_eq_of_apart hlen hle hapart
  | element tag inner next ihi ihn =>
    have hlen := inner.length_characters (outer ++ [tag])
    have hrest := ihn hle hstart.behind_element hstop.behind_element outer
    rw [removeFrom]
    split
    · next h =>
      simp only [Bool.and_eq_true, decide_eq_true_eq] at h
      rw [hrest]
      exact drop_eq_of_covered hlen h.1.2 h.2
    · next h =>
      simp only [Bool.and_eq_true, decide_eq_true_eq] at h
      split
      · next hmeets =>
        simp only [Bool.and_eq_true, decide_eq_true_eq] at hmeets
        have hinner := ihi (by omega) (hstart.start_in_element hmeets.1) hstop.stop_in_element
          (outer ++ [tag])
        rw [Nat.sub_zero, Nat.sub_zero] at hinner
        rw [characters, hrest, hinner]
        exact append_eq_of_meeting hlen hmeets.1 hmeets.2
      · next hmeets =>
        simp only [Bool.and_eq_true, decide_eq_true_eq] at hmeets
        rw [characters, hrest]
        exact append_eq_of_apart hlen hle (by omega)

/-- The forest from which a stretch has been removed. -/
def cleared (f : Forest) (start stop : Nat) : Forest :=
  ((f.splitAt start).splitAt stop).removeFrom 0 start stop

theorem characters_cleared (f : Forest) {start stop : Nat} (h : start ≤ stop)
    (outer : List Text) :
    (f.cleared start stop).characters outer
      = (f.characters outer).take start ++ (f.characters outer).drop stop := by
  rw [cleared, characters_removeFrom h ((f.cut_splitAt start).splitAt stop) (cut_splitAt _ stop),
    characters_splitAt, characters_splitAt, Nat.sub_zero, Nat.sub_zero]

theorem content_cleared (f : Forest) {start stop : Nat} (h : start ≤ stop) :
    (f.cleared start stop).content = f.content.take start ++ f.content.drop stop := by
  rw [← map_fst_characters _ [], characters_cleared f h, List.map_append, List.map_take,
    List.map_drop, map_fst_characters]

end Forest

end LineEditor
