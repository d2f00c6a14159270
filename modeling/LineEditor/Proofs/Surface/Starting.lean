import LineEditor.Proofs.Surface.Leaves

/-!
# The leaf that a stretch starts with

Where a stretch starts with a leaf, gathering puts a new element in the place of that leaf, or of an
element that holds it. A path to the leaf then leads into the new element, where each index is one
level too late: it picks a child of an element and meant a child of that child. This does no harm as
long as all of them are first children. If not, the path leads behind the leaf, which is *hidden* in
this sense by the empty nodes in front of it.
-/

namespace LineEditor.Forest

variable {f : Forest}

/-! ## Hidden starts -/

/-- The row starts with a leaf that is not empty, or with elements down to such a leaf. -/
def startsWithText : Forest → Bool
  | nil => false
  | leaf l _ => 0 < l.length
  | element _ inner _ => inner.startsWithText

/-- Of the elements inside `[start, stop)`, the outermost one that starts at `start` has empty nodes
in front of the text that it starts with. -/
def hidesStart : Forest → (start stop : Nat) → Bool
  | nil, _, _ => false
  | leaf l next, start, stop =>
    l.length ≤ start && next.hidesStart (start - l.length) (stop - l.length)
  | element _ inner next, start, stop =>
    if inner.length ≤ start then next.hidesStart (start - inner.length) (stop - inner.length)
    else if start = 0 && inner.length ≤ stop then !inner.startsWithText
    else inner.hidesStart start (min stop inner.length)

theorem length_pos_of_startsWithText (h : f.startsWithText = true) : 0 < f.length := by
  induction f with
  | nil => exact absurd h Bool.false_ne_true
  | leaf l next _ => exact Nat.lt_of_lt_of_le (of_decide_eq_true h) (Nat.le_add_right _ _)
  | element tag inner next ih _ => exact Nat.lt_of_lt_of_le (ih h) (Nat.le_add_right _ _)

/-! ## What is read behind the start -/

/-- Along a path, offsets are read from `first` on, unless `hidden`: then not even the first one
is. -/
def ReadsFrom (f : Forest) (path : List Nat) (first : Nat) (hidden : Bool) : Prop :=
  if hidden then f.offsetAlong path 0 ≠ first else ∀ o, f.offsetAlong path o = first + o

section ReadsFrom

variable {path : List Nat} {index first : Nat} {hidden : Bool}

/-- What is read in a row is read behind a node in front of it. -/
theorem ReadsFrom.later {g : Forest} {k : Nat} (h : f.ReadsFrom (index :: path) first hidden)
    (hg : ∀ o, g.offsetAlong ((index + 1) :: path) o = k + f.offsetAlong (index :: path) o) :
    g.ReadsFrom ((index + 1) :: path) (k + first) hidden := by
  rw [ReadsFrom] at h ⊢
  split
  · next hhidden =>
    rw [if_pos hhidden] at h
    rw [hg]
    omega
  · next hhidden =>
    rw [if_neg hhidden] at h
    intro o
    rw [hg, h o, Nat.add_assoc]

end ReadsFrom

/-- An element that is gathered comes to stand where its first child is looked for. Behind it, no
node starts where the element starts. -/
theorem readsFrom_gathered {path : List Nat} {first : Nat} {l : Leaf} (h : LeafAt f path first l)
    (hl : 0 < l.length) (hfirst : first = 0) (tag : Text) (more : Forest) :
    (element tag f more).ReadsFrom path 0 (!f.startsWithText) := by
  induction h generalizing tag more with
  | leafHere =>
    rw [startsWithText, decide_eq_true hl]
    exact fun o ↦ (Nat.zero_add o).symm
  | @elementHere t _ next _ _ _ _ ih => exact ih hl hfirst t next
  | leafLater h ih =>
    have hstop := h.stop_le
    rw [startsWithText, decide_eq_false (by omega), Bool.not_false, ReadsFrom, if_pos rfl,
      offsetAlong, length]
    omega
  | @elementLater _ inner _ _ _ _ _ h ih =>
    have hstop := h.stop_le
    have hinner : inner.startsWithText = false := by
      rw [Bool.eq_false_iff]
      intro htext
      have hpos := length_pos_of_startsWithText htext
      omega
    rw [startsWithText, hinner, Bool.not_false, ReadsFrom, if_pos rfl, offsetAlong, length]
    omega

/-- Once there are nodes in the run, an element comes next. -/
theorem exists_wrapFrom_eq (tag : Text) (f : Forest) (base start stop : Nat) {run : Forest}
    (hrun : run ≠ nil) :
    ∃ more rest, f.wrapFrom tag base start stop run = element tag (run.append more) rest := by
  have hclose : ∀ {row rest : Forest}, row ≠ nil →
      closeRun tag row rest = element tag (row.append nil) rest := fun hrow ↦ by
    rw [closeRun, if_neg fun h ↦ hrow (isNil_iff.mp h), append_nil]
  induction f generalizing base run with
  | nil => exact ⟨nil, nil, hclose hrun⟩
  | leaf l next ih =>
    rw [wrapFrom]
    split
    · obtain ⟨more, rest, heq⟩ := ih (base + l.length) (append_ne_nil hrun _)
      exact ⟨_, rest, heq.trans (by rw [append_assoc])⟩
    · exact ⟨nil, _, hclose hrun⟩
  | element t inner next _ ih =>
    rw [wrapFrom]
    split
    · obtain ⟨more, rest, heq⟩ := ih (base + inner.length) (append_ne_nil hrun _)
      exact ⟨_, rest, heq.trans (by rw [append_assoc])⟩
    · exact ⟨nil, _, hclose hrun⟩

/-- Splitting a leaf at the end of the stretch does not hide its start, nor show it. -/
theorem hidesStart_splitAt {start stop : Nat} (h : start < stop) :
    (f.splitAt stop).hidesStart start stop = f.hidesStart start stop := by
  induction f generalizing start stop with
  | nil => rfl
  | leaf l next ih =>
    by_cases hle : l.length ≤ stop
    · rw [splitAt_leaf_of_le hle, hidesStart, hidesStart]
      by_cases hstart : l.length ≤ start
      · rw [ih (by omega)]
      · rw [decide_eq_false hstart, Bool.false_and, Bool.false_and]
    · obtain ⟨l', rest, hsplit, hlength⟩ :=
        exists_splitAt_leaf_of_lt next (Nat.zero_lt_of_lt h) (Nat.not_le.mp hle)
      rw [hsplit, hidesStart, hidesStart, hlength, decide_eq_false (by omega),
        decide_eq_false (by omega), Bool.false_and, Bool.false_and]
  | element tag inner next ihi ihn =>
    by_cases hle : inner.length ≤ stop
    · rw [splitAt_element_of_le hle, hidesStart, hidesStart]
      split
      · exact ihn (by omega)
      · rfl
    · have hlt := Nat.not_le.mp hle
      have hnot : ¬ inner.length ≤ start := by omega
      rw [splitAt_element_of_lt (by omega) hlt]
      simp only [hidesStart, length_splitAt, if_neg hnot, decide_eq_false hle, Bool.and_false,
        Bool.false_eq_true, if_false, Nat.min_eq_left (Nat.le_of_lt hlt)]
      exact ihi h

/-- A leaf that the stretch starts with is read from its start on, unless an element hides it. -/
theorem readsFrom_wrapFrom {path : List Nat} {first : Nat} {l : Leaf} (h : LeafAt f path first l)
    (hl : 0 < l.length) {base start stop : Nat} (hstart : base + first = start)
    (hlt : start < stop) (hcut : f.Cut (stop - base)) (tag : Text) :
    (f.wrapFrom tag base start stop nil).ReadsFrom path first
      (f.hidesStart first (stop - base)) := by
  induction h generalizing base start stop with
  | @leafHere l next =>
    have hfits := cut_leaf_iff.mp hcut
    have hrun : leaf l nil ≠ nil := Forest.noConfusion
    obtain ⟨more, rest, heq⟩ := exists_wrapFrom_eq tag next (base + l.length) start stop hrun
    rw [wrapFrom_leaf_inside (by omega) (by omega) hl, heq, hidesStart,
      decide_eq_false (by omega), Bool.false_and]
    exact fun o ↦ (Nat.zero_add o).symm
  | @elementHere t inner next path first l h ih =>
    have hstop := h.stop_le
    rw [hidesStart, if_neg (by omega)]
    by_cases hcovered : first = 0 ∧ inner.length ≤ stop - base
    · obtain ⟨rfl, hfits⟩ := hcovered
      have hrun : element t inner nil ≠ nil := Forest.noConfusion
      obtain ⟨more, rest, heq⟩ :=
        exists_wrapFrom_eq tag next (base + inner.length) start stop hrun
      rw [wrapFrom_element_inside (by omega) (by omega) (by omega), heq, decide_eq_true rfl,
        decide_eq_true hfits]
      exact readsFrom_gathered h hl rfl t more
    · have hpart : min (stop - base) inner.length = min stop (base + inner.length) - base - 0 := by
        omega
      have hinner : (inner.wrapFrom tag 0 (start - base)
          (min stop (base + inner.length) - base) nil).ReadsFrom path first
            (inner.hidesStart first (min stop (base + inner.length) - base - 0)) :=
        ih hl (by omega) (by omega) hcut.stop_in_element
      rw [wrapFrom_element (by omega), wrapChildren, if_pos (by omega), if_neg (by simpa using hcovered), hpart]
      exact hinner
  | @leafLater l' next index path first l h ih =>
    have hrest := ih hl (by omega) hlt hcut.behind_leaf
    rw [wrapFrom_leaf (by omega), hidesStart, decide_eq_true (Nat.le_add_right _ _), Bool.true_and,
      Nat.add_sub_cancel_left, Nat.sub_sub]
    exact hrest.later fun _ ↦ rfl
  | @elementLater t inner next index path first l h ih =>
    have hrest := ih hl (by omega) hlt hcut.behind_element
    rw [wrapFrom_element (by omega), wrapChildren, if_neg (by omega), hidesStart, if_pos (Nat.le_add_right _ _),
      Nat.add_sub_cancel_left, Nat.sub_sub]
    exact hrest.later fun _ ↦ rfl

end LineEditor.Forest
