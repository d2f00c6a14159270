import LineEditor.Proofs.Surface.Cuts
import LineEditor.Surface

/-!
# Wrapping

Wrapping a stretch of a forest puts new elements around its characters and leaves the text alone.
What it does to a character is told by the elements around it, from the outermost to the innermost,
each of them known by its tag and by the offsets at which it starts and stops.

Splitting a leaf changes none of these. Gathering a run of nodes puts one element around each
character of the run, inside of the elements that hold the row and outside of those in the run. As
the nodes of a run are not looked into, no character gets two.
-/

namespace LineEditor

/-- An element around a character: its tag, and the offsets at which it starts and stops. -/
structure Enclosure where
  /-- The tag of the element. -/
  tag : Text
  /-- Offset of its first character. -/
  start : Nat
  /-- Offset behind its last character. -/
  stop : Nat
  deriving DecidableEq, Inhabited

namespace Forest

/-! ## Rows -/

@[simp] theorem append_nil (f : Forest) : f.append nil = f := by
  induction f with
  | nil => rfl
  | leaf l next ih => rw [append, ih]
  | element tag inner next _ ih => rw [append, ih]

theorem append_assoc (f g h : Forest) : (f.append g).append h = f.append (g.append h) := by
  induction f with
  | nil => rfl
  | leaf l next ih => rw [append, append, append, ih]
  | element tag inner next _ ih => rw [append, append, append, ih]

@[simp] theorem length_append (f g : Forest) : (f.append g).length = f.length + g.length := by
  simp only [length_eq_length_content, content_append, List.length_append]

theorem append_ne_nil {f : Forest} (h : f ≠ nil) (g : Forest) : f.append g ≠ nil := by
  rcases f with _ | _ | _
  · exact absurd rfl h
  · exact Forest.noConfusion
  · exact Forest.noConfusion

theorem isNil_iff {f : Forest} : f.isNil = true ↔ f = nil := by
  cases f <;> simp [isNil]

/-- A row that is put into another one goes between two parts of it. -/
theorem exists_insertRow (f row : Forest) (n : Nat) :
    ∃ front back : Forest,
      f = front.append back ∧ f.insertRow n row = front.append (row.append back) := by
  induction f generalizing n with
  | nil => exact ⟨nil, nil, rfl, row.append_nil.symm⟩
  | leaf l next ih =>
    rw [insertRow]
    split
    · exact ⟨nil, leaf l next, rfl, rfl⟩
    · obtain ⟨front, back, hsplit, hinsert⟩ := ih (n - l.length)
      refine ⟨leaf l front, back, ?_, ?_⟩
      · rw [append, ← hsplit]
      · rw [append, ← hinsert]
  | element tag inner next _ ih =>
    rw [insertRow]
    split
    · exact ⟨nil, element tag inner next, rfl, rfl⟩
    · obtain ⟨front, back, hsplit, hinsert⟩ := ih (n - inner.length)
      refine ⟨element tag inner front, back, ?_, ?_⟩
      · rw [append, ← hsplit]
      · rw [append, ← hinsert]

/-- Where there is a cut, there is nothing to split. -/
theorem Cut.splitAt_eq {f : Forest} {n : Nat} (h : f.Cut n) : f.splitAt n = f := by
  induction f generalizing n with
  | nil => rfl
  | leaf l next ih =>
    have hnext : next.splitAt (n - l.length) = next := by
      rcases cut_leaf_iff.mp h with rfl | ⟨-, hcut⟩
      · rw [Nat.zero_sub, ih next.cut_zero]
      · exact ih hcut
    cases l with
    | text chars =>
      rw [Forest.splitAt, if_neg]
      · exact congrArg _ hnext
      · have hlen : (Leaf.text chars).length = chars.length := rfl
        simp only [Bool.and_eq_true, decide_eq_true_eq]
        rcases cut_leaf_iff.mp h with hzero | ⟨hle, -⟩ <;> omega
    | lineBreak =>
      rw [Forest.splitAt]
      exact congrArg _ hnext
  | element tag inner next ihi ihn =>
    rw [Forest.splitAt]
    split
    · next hn =>
      simp only [Bool.and_eq_true, decide_eq_true_eq] at hn
      rw [ihi ((cut_element_of_le (Nat.le_of_lt hn.2)).mp h)]
    · rw [ihn h.next_of_element]

/-! ## The elements around a character -/

/-- The elements around the character at offset `i`, the outermost first. The row starts at offset
`base`. -/
def around : Forest → (base i : Nat) → List Enclosure
  | nil, _, _ => []
  | leaf l next, base, i => if i < base + l.length then [] else next.around (base + l.length) i
  | element tag inner next, base, i =>
    let finish := base + inner.length
    if i < finish then ⟨tag, base, finish⟩ :: inner.around base i else next.around finish i

section Around

variable {f g : Forest} {base i : Nat}

theorem around_append_of_lt (hbase : base ≤ i) (h : i < base + f.length) :
    (f.append g).around base i = f.around base i := by
  induction f generalizing base with
  | nil => exact absurd h (Nat.not_lt.mpr hbase)
  | leaf l next ih =>
    rw [length, ← Nat.add_assoc] at h
    rw [append, around, around]
    split
    · rfl
    · next hi => exact ih (Nat.not_lt.mp hi) h
  | element tag inner next _ ih =>
    rw [length, ← Nat.add_assoc] at h
    simp only [append, around]
    split
    · rfl
    · next hi => exact ih (Nat.not_lt.mp hi) h

theorem around_append_of_le (h : base + f.length ≤ i) :
    (f.append g).around base i = g.around (base + f.length) i := by
  induction f generalizing base with
  | nil => rfl
  | leaf l next ih =>
    rw [length, ← Nat.add_assoc] at h ⊢
    rw [append, around, if_neg (by omega), ih h]
  | element tag inner next _ ih =>
    rw [length, ← Nat.add_assoc] at h ⊢
    rw [append, around, if_neg (by omega), ih h]

/-- An empty element is around no character. -/
theorem around_append_empty (tag : Text) (h : base ≤ i) :
    (f.append (element tag nil g)).around base i = (f.append g).around base i := by
  by_cases hi : i < base + f.length
  · rw [around_append_of_lt h hi, around_append_of_lt h hi]
  · have hle := Nat.not_lt.mp hi
    rw [around_append_of_le hle, around_append_of_le hle, around]
    exact if_neg hi

/-- Splitting a leaf leaves the elements around each character. -/
theorem around_splitAt (f : Forest) (n base i : Nat) :
    (f.splitAt n).around base i = f.around base i := by
  induction f generalizing n base with
  | nil => rfl
  | leaf l next ih =>
    cases l with
    | text chars =>
      rw [splitAt]
      split
      · next hn =>
        simp only [Bool.and_eq_true, decide_eq_true_eq] at hn
        have htake : (Leaf.text (chars.take n)).length = n :=
          List.length_take_of_le (Nat.le_of_lt hn.2)
        have hdrop : (Leaf.text (chars.drop n)).length = chars.length - n := List.length_drop
        have hlen : (Leaf.text chars).length = n + (chars.length - n) :=
          (Nat.add_sub_cancel' (Nat.le_of_lt hn.2)).symm
        rw [around, around, around, htake, hdrop, hlen, ← Nat.add_assoc]
        split
        · rw [if_pos (by omega)]
        · rfl
      · rw [around, around, ih]
    | lineBreak => rw [splitAt, around, around, ih]
  | element tag inner next ihi ihn =>
    rw [splitAt]
    split
    · simp only [around, length_splitAt, ihi]
    · simp only [around, ihn]

end Around

/-! ## Gathering -/

/-- Between the elements around the character at offset `i` there is one more, with the given tag,
and it does not reach beyond `[start, stop)`. -/
def Gains (tag : Text) (start stop i : Nat) (before after : List Enclosure) : Prop :=
  ∃ outer inner e, before = outer ++ inner ∧ after = outer ++ e :: inner ∧ e.tag = tag ∧
    start ≤ e.start ∧ e.start ≤ i ∧ i < e.stop ∧ e.stop ≤ stop

/-- A character of `[start, stop)` has one more element around it, and the others have the same. -/
def Wraps (tag : Text) (start stop i : Nat) (before after : List Enclosure) : Prop :=
  if start ≤ i ∧ i < stop then Gains tag start stop i before after else after = before

section Wraps

variable {tag : Text} {start stop i : Nat} {before after : List Enclosure}

theorem wraps_of_not_inside (h : ¬ (start ≤ i ∧ i < stop)) (c : List Enclosure) :
    Wraps tag start stop i c c := by
  rw [Wraps, if_neg h]

/-- What happens inside of an element happens inside of what is around it. -/
theorem Wraps.cons (h : Wraps tag start stop i before after) (e : Enclosure) :
    Wraps tag start stop i (e :: before) (e :: after) := by
  rw [Wraps] at h ⊢
  split
  · next hi =>
    rw [if_pos hi] at h
    obtain ⟨outer, inner, e', rfl, rfl, hrest⟩ := h
    exact ⟨e :: outer, inner, e', rfl, rfl, hrest⟩
  · next hi =>
    rw [if_neg hi] at h
    rw [h]

/-- What happens in the part of a stretch that lies in an element, happens in the stretch. -/
theorem Wraps.widen {start' stop' : Nat} (h : Wraps tag start' stop' i before after)
    (hstart : start ≤ start') (hstop : stop' ≤ stop)
    (hpart : start ≤ i ∧ i < stop → start' ≤ i ∧ i < stop') :
    Wraps tag start stop i before after := by
  rw [Wraps] at h ⊢
  split
  · next hi =>
    rw [if_pos (hpart hi)] at h
    obtain ⟨outer, inner, e, hbefore, hafter, htag, h₁, h₂, h₃, h₄⟩ := h
    exact ⟨outer, inner, e, hbefore, hafter, htag, Nat.le_trans hstart h₁, h₂, h₃,
      Nat.le_trans h₄ hstop⟩
  · next hi => rwa [if_neg (by omega)] at h

end Wraps

@[simp] theorem content_closeRun (tag : Text) (run rest : Forest) :
    (closeRun tag run rest).content = run.content ++ rest.content := by
  rw [closeRun]
  split
  · next h =>
    rw [isNil_iff.mp h]
    rfl
  · rfl

/-- Gathering nodes into elements leaves the text alone. -/
@[simp] theorem content_wrapFrom (tag : Text) (f : Forest) (base start stop : Nat) (run : Forest) :
    (f.wrapFrom tag base start stop run).content = run.content ++ f.content := by
  induction f generalizing base start stop run with
  | nil => rw [wrapFrom, content_closeRun]
  | leaf l next ih =>
    rw [wrapFrom]
    split
    · rw [ih, content_append, List.append_assoc]
      simp only [content, List.append_nil]
    · rw [content_closeRun, content, ih]
      rfl
  | element t inner next ihi ihn =>
    rw [wrapFrom]
    split
    · rw [ihn, content_append, List.append_assoc]
      simp only [content, List.append_nil]
    · rw [content_closeRun, content, ihn]
      split
      · rw [ihi]
        rfl
      · rfl

theorem length_wrapFrom (tag : Text) (f : Forest) (base start stop : Nat) :
    (f.wrapFrom tag base start stop nil).length = f.length := by
  rw [length_eq_length_content, content_wrapFrom, length_eq_length_content]
  rfl

/-- What becomes of the children of an element that is not gathered. The element starts at offset
`base` of its row. -/
def wrapChildren (inner : Forest) (tag : Text) (base start stop : Nat) : Forest :=
  if start < base + inner.length ∧ base < stop then
    inner.wrapFrom tag 0 (start - base) (min stop (base + inner.length) - base) nil
  else inner

theorem length_wrapChildren (inner : Forest) (tag : Text) (base start stop : Nat) :
    (inner.wrapChildren tag base start stop).length = inner.length := by
  rw [wrapChildren]
  split
  · exact length_wrapFrom _ _ _ _ _
  · rfl

/-- An element is gathered as a whole, or its children are wrapped and the run is closed in front of
it. -/
theorem wrapFrom_element_eq (tag t : Text) (inner next : Forest) (base start stop : Nat)
    (run : Forest) :
    (element t inner next).wrapFrom tag base start stop run
      = if start ≤ base && base + inner.length ≤ stop
            && (0 < inner.length || (!run.isNil && base + inner.length < stop)) then
          next.wrapFrom tag (base + inner.length) start stop (run.append (element t inner nil))
        else closeRun tag run (element t (inner.wrapChildren tag base start stop)
          (next.wrapFrom tag (base + inner.length) start stop nil)) := by
  simp only [wrapFrom, wrapChildren, Bool.and_eq_true, decide_eq_true_eq]

/-- The children of an element are wrapped as a row of their own, cut to the length of the element.
For the characters in it, this is what is to be done in the row that holds the element. -/
theorem wraps_wrapChildren {tag t : Text} {inner next : Forest} {base start stop org i : Nat}
    (hrow : ∀ {start' stop' : Nat}, inner.Cut (start' - 0) → inner.Cut (stop' - 0) →
      Wraps tag (org + base + start') (org + base + stop') i (inner.around (org + base) i)
        ((inner.wrapFrom tag 0 start' stop' nil).around (org + base) i))
    (hstart : (element t inner next).Cut (start - base))
    (hstop : (element t inner next).Cut (stop - base)) (hi : org + base ≤ i)
    (hi' : i < org + base + inner.length) :
    Wraps tag (org + start) (org + stop) i (inner.around (org + base) i)
      ((inner.wrapChildren tag base start stop).around (org + base) i) := by
  rw [wrapChildren]
  split
  · next hmeets =>
    have hpart := hrow (hstart.start_in_element hmeets.1) hstop.stop_in_element
    exact hpart.widen (by omega) (by omega) (by omega)
  · next hmeets => exact wraps_of_not_inside (by omega) _

/-- A run of nodes that have been gathered reaches from offset `left` to offset `base` of a row that
starts at offset `org`. If there are nodes in it, it lies in the stretch. -/
structure Gathered (org base start stop left : Nat) (run : Forest) : Prop where
  /-- The run ends where the rest of the row starts. -/
  length_eq : left + run.length = org + base
  /-- It starts in the stretch. -/
  start_le : run ≠ nil → org + start ≤ left
  /-- It ends in the stretch. -/
  le_stop : run ≠ nil → base ≤ stop

namespace Gathered

variable {tag : Text} {org base start stop left i : Nat} {run : Forest}

/-- At first there is no node in the run. -/
theorem none (org base start stop : Nat) : Gathered org base start stop (org + base) nil :=
  ⟨rfl, fun h ↦ absurd rfl h, fun h ↦ absurd rfl h⟩

/-- Another node that lies in the stretch is gathered. -/
theorem push (h : Gathered org base start stop left run) (node : Forest) (hstart : start ≤ base)
    (hstop : base + node.length ≤ stop) :
    Gathered org (base + node.length) start stop left (run.append node) := by
  have hlength := h.length_eq
  refine ⟨?_, fun _ ↦ ?_, fun _ ↦ hstop⟩
  · rw [length_append]
    omega
  · by_cases hne : run = nil
    · rw [hne, length] at hlength
      omega
    · exact h.start_le hne

/-- When the run is closed, its characters have an element around them, and the rest of the row
goes on behind it. -/
theorem wraps_closeRun (h : Gathered org base start stop left run) {rest rest' : Forest}
    {finish : Nat}
    (hrest : org + base ≤ i → i < finish → Wraps tag (org + start) (org + stop) i
      (rest.around (org + base) i) (rest'.around (org + base) i))
    (hleft : left ≤ i) (hfinish : i < finish) :
    Wraps tag (org + start) (org + stop) i ((run.append rest).around left i)
      ((closeRun tag run rest').around left i) := by
  have hlength := h.length_eq
  rw [closeRun]
  split
  · next hnil =>
    obtain rfl := isNil_iff.mp hnil
    obtain rfl : left = org + base := hlength
    exact hrest hleft hfinish
  · next hnil =>
    have hne : run ≠ nil := fun heq ↦ hnil (isNil_iff.mpr heq)
    have hstart := h.start_le hne
    have hstop : left + run.length ≤ org + stop := by
      rw [hlength]
      exact Nat.add_le_add_left (h.le_stop hne) org
    rw [around]
    by_cases hi : i < left + run.length
    · rw [if_pos hi, around_append_of_lt hleft hi, Wraps,
        if_pos ⟨Nat.le_trans hstart hleft, Nat.lt_of_lt_of_le hi hstop⟩]
      exact ⟨[], run.around left i, ⟨tag, left, left + run.length⟩, rfl, rfl, rfl, hstart, hleft,
        hi, hstop⟩
    · have hle := Nat.not_lt.mp hi
      rw [if_neg hi, around_append_of_le hle, hlength]
      exact hrest (hlength ▸ hle) hfinish

end Gathered

/-- Gathering the nodes between two cuts puts one element around each character between them and
none around the others. -/
theorem wraps_wrapFrom {f : Forest} {tag : Text} {base start stop org left i : Nat} {run : Forest}
    (hstart : f.Cut (start - base)) (hstop : f.Cut (stop - base))
    (hrun : Gathered org base start stop left run) (hi : left ≤ i)
    (hi' : i < org + base + f.length) :
    Wraps tag (org + start) (org + stop) i ((run.append f).around left i)
      ((f.wrapFrom tag base start stop run).around left i) := by
  -- the rest of a row starts further on, and the children of an element start a row of their own
  induction f generalizing base start stop org left run with
  | nil =>
    refine hrun.wraps_closeRun (fun hle hlt ↦ ?_) hi hi'
    rw [length] at hlt
    omega
  | leaf l next ih =>
    rw [length] at hi'
    rw [wrapFrom]
    split
    · next hgather =>
      simp only [Bool.and_eq_true, decide_eq_true_eq] at hgather
      obtain ⟨⟨hfrom, hto⟩, -⟩ := hgather
      have hrow : run.append (leaf l next) = (run.append (leaf l nil)).append next :=
        (append_assoc run (leaf l nil) next).symm
      rw [hrow]
      exact ih hstart.behind_leaf hstop.behind_leaf (hrun.push (leaf l nil) hfrom hto) hi
        (by omega)
    · next hgather =>
      simp only [Bool.and_eq_true, decide_eq_true_eq] at hgather
      refine hrun.wraps_closeRun (fun hle hlt ↦ ?_) hi hi'
      rw [around, around]
      split
      · next hin =>
        have hpos : 0 < l.length := by omega
        have hapart := hstart.leaf_apart hstop hpos fun h ↦
          hgather ⟨h, (Bool.or_eq_true _ _).mpr (.inl (decide_eq_true hpos))⟩
        exact wraps_of_not_inside (by omega) []
      · next hin =>
        rw [Nat.add_assoc] at hin ⊢
        exact ih hstart.behind_leaf hstop.behind_leaf (.none _ _ _ _) (Nat.not_lt.mp hin)
          (by omega)
  | element t inner next ihi ihn =>
    rw [length] at hi'
    rw [wrapFrom_element_eq]
    split
    · next hgather =>
      simp only [Bool.and_eq_true, decide_eq_true_eq] at hgather
      obtain ⟨⟨hfrom, hto⟩, -⟩ := hgather
      have hrow : run.append (element t inner next)
          = (run.append (element t inner nil)).append next :=
        (append_assoc run (element t inner nil) next).symm
      rw [hrow]
      exact ihn hstart.behind_element hstop.behind_element
        (hrun.push (element t inner nil) hfrom hto) hi (by omega)
    · refine hrun.wraps_closeRun (fun hle hlt ↦ ?_) hi hi'
      have hinner (hin : i < org + base + inner.length) :
          Wraps tag (org + start) (org + stop) i (inner.around (org + base) i)
            ((inner.wrapChildren tag base start stop).around (org + base) i) :=
        wraps_wrapChildren (fun h₁ h₂ ↦ ihi h₁ h₂ (.none _ 0 _ _) hle hin) hstart hstop hle hin
      simp only [around, length_wrapChildren]
      split
      · next hin => exact (hinner hin).cons _
      · next hin =>
        rw [Nat.add_assoc] at hin ⊢
        exact ihn hstart.behind_element hstop.behind_element (.none _ _ _ _) (Nat.not_lt.mp hin)
          (by omega)

/-! ## The stretch as a whole -/

/-- An empty stretch gets an empty element of its own. -/
theorem exists_wrap_empty (f : Forest) (n : Nat) (tag : Text) :
    ∃ front back : Forest,
      f.splitAt n = front.append back ∧ f.wrap n n tag = front.append (element tag nil back) := by
  obtain ⟨front, back, hsplit, hinsert⟩ := exists_insertRow (f.splitAt n) (element tag nil nil) n
  refine ⟨front, back, hsplit, ?_⟩
  rw [wrap, if_pos (Nat.le_refl n), (f.cut_splitAt n).splitAt_eq, hinsert]
  rfl

/-- Wrapping leaves the text alone. -/
theorem content_wrap (f : Forest) {start stop : Nat} (h : start ≤ stop) (tag : Text) :
    (f.wrap start stop tag).content = f.content := by
  rcases Nat.eq_or_lt_of_le h with rfl | hlt
  · obtain ⟨front, back, hsplit, hwrap⟩ := f.exists_wrap_empty start tag
    rw [hwrap, content_append, content, content, List.nil_append, ← content_append, ← hsplit,
      content_splitAt]
  · rw [wrap, if_neg (Nat.not_le.mpr hlt), content_wrapFrom, content_splitAt, content_splitAt]
    rfl

/-- Wrapping puts one element around each character of the stretch and none around the others. -/
theorem wraps_wrap {f : Forest} {start stop i : Nat} (h : start ≤ stop) (tag : Text)
    (hi : i < f.length) :
    Wraps tag start stop i (f.around 0 i) ((f.wrap start stop tag).around 0 i) := by
  rcases Nat.eq_or_lt_of_le h with rfl | hlt
  · obtain ⟨front, back, hsplit, hwrap⟩ := f.exists_wrap_empty start tag
    rw [hwrap, around_append_empty tag (Nat.zero_le i), ← hsplit, around_splitAt]
    exact wraps_of_not_inside (by omega) _
  · let split := (f.splitAt start).splitAt stop
    have hstart : split.Cut start := (f.cut_splitAt start).splitAt stop
    have hstop : split.Cut stop := cut_splitAt _ stop
    have hlength : split.length = f.length := by rw [length_splitAt, length_splitAt]
    have hwraps : Wraps tag (0 + start) (0 + stop) i (split.around 0 i)
        ((split.wrapFrom tag 0 start stop nil).around 0 i) :=
      wraps_wrapFrom hstart hstop (.none 0 0 start stop) (Nat.zero_le i) (by omega)
    rw [Nat.zero_add, Nat.zero_add, around_splitAt, around_splitAt] at hwraps
    rwa [wrap, if_neg (Nat.not_le.mpr hlt)]

end Forest

namespace Surface

open Forest (Gains Wraps)

/-- **Wrapping.** Structured content can always be wrapped, and its text is left alone. A character
of the stretch has one more element around it than before, which has the given tag and lies in the
stretch; the elements around any other character are the same as before. Where the stretch is empty,
one empty element has been put between two nodes of the row, once the leaf there has been split. -/
theorem wraps_stretch (nodes : Forest) (selection : Option (Point × Point)) (viewport : Viewport)
    (b : Bounds) (tag : Text) :
    let w := b.clamp nodes.content.length
    ∃ nodes' : Forest,
      (Surface.mk (.content nodes selection) viewport).wrap? b tag
        = some ⟨.content nodes' selection, viewport⟩ ∧
      nodes'.content = nodes.content ∧
      (∀ i < nodes.content.length,
        Wraps tag w.start w.stop i (nodes.around 0 i) (nodes'.around 0 i)) ∧
      (w.start = w.stop → ∃ front back : Forest,
        nodes.splitAt w.start = front.append back ∧
          nodes' = front.append (.element tag .nil back)) := by
  intro w
  have hle : w.start ≤ w.stop := b.clamp_start_le _
  refine ⟨nodes.wrap w.start w.stop tag, rfl, nodes.content_wrap hle tag, fun i hi ↦ ?_,
    fun hempty ↦ ?_⟩
  · rw [← nodes.length_eq_length_content] at hi
    exact Forest.wraps_wrap hle tag hi
  · rw [← hempty]
    exact nodes.exists_wrap_empty w.start tag

/-- A stretch from the middle of a text into the middle of an element, and an empty one in it. -/
theorem wraps_stretch_into_element :
    let two : Forest := .leaf (.text "Two".toList) .nil
    let nodes : Forest := .leaf (.text "One".toList) (.leaf .lineBreak (.element ['b'] two .nil))
    let mark := "mark".toList
    (∃ nodes', (ofContent nodes).wrap? ⟨1, 6⟩ mark = some (ofContent nodes') ∧
      Gains mark 1 6 5 [⟨['b'], 4, 7⟩] (nodes'.around 0 5)) ∧
    ∃ nodes' front back : Forest, (ofContent nodes).wrap? ⟨5, 5⟩ mark = some (ofContent nodes') ∧
      nodes.splitAt 5 = front.append back ∧ nodes' = front.append (.element mark .nil back) := by
  intro two nodes mark
  constructor
  · obtain ⟨nodes', hwrap, -, hwraps, -⟩ := wraps_stretch nodes none {} ⟨1, 6⟩ mark
    have hfive : Wraps mark 1 6 5 [⟨['b'], 4, 7⟩] (nodes'.around 0 5) := hwraps 5 (by decide)
    rw [Forest.Wraps, if_pos (by decide)] at hfive
    exact ⟨nodes', hwrap, hfive⟩
  · obtain ⟨nodes', hwrap, -, -, hempty⟩ := wraps_stretch nodes none {} ⟨5, 5⟩ mark
    obtain ⟨front, back, hsplit, heq⟩ := hempty (by decide)
    exact ⟨nodes', front, back, hwrap, hsplit, heq⟩

end Surface

end LineEditor
