import LineEditor.Proofs.Document.Following
import LineEditor.Proofs.Document.LineEdits
import LineEditor.Proofs.Document.Numbers

/-!
# Marks on lines

A mark on a line is a range that is set to the place where the line starts and follows edits from
then on. Inserting lines and deleting lines are edits at the ends of lines and at their starts, so
whether a mark that touches one of them moves is decided by how starts of bounds are moved: an
insertion at a start leaves it where it is, and a deletion up to a start takes it along. For whole
lines this is as it should be, with one exception. The first line starts where the text does, and
lines put in front of it leave the mark at the start of the text.
-/

namespace LineEditor

open Text (closed unlines separator IsLine)

/-! ## Moving the start of bounds -/

namespace Edit

theorem commonStart_nil (t : Text) : commonStart t [] = 0 := by
  cases t <;> rfl

theorem between_nil_left {piece : Text} (h : piece ≠ []) :
    between [] piece = some ⟨0, [], piece⟩ := by
  rw [between, if_neg h.symm]
  simp [commonStart]

theorem between_nil_right {t : Text} (h : t ≠ []) : between t [] = some ⟨0, t, []⟩ := by
  rw [between, if_neg h, commonStart_nil]
  simp [commonStart_nil]

end Edit

namespace Bounds

/-- An insertion moves what is behind it. -/
theorem rebaseStart_insertion (start : Nat) (piece : Text) (offset : Nat) :
    rebaseStart ⟨start, [], piece⟩ offset
      = if offset ≤ start then offset else offset + piece.length := by
  unfold rebaseStart Edit.oldEnd Edit.newEnd
  simp only [List.length_nil]
  repeat' split
  all_goals omega

/-- A deletion moves what is behind it. Right at its end the start of bounds goes to where it was
made. -/
theorem rebaseStart_deletion {start offset : Nat} {removed : Text}
    (h : offset ≤ start ∨ start + removed.length ≤ offset) :
    rebaseStart ⟨start, removed, []⟩ offset
      = if offset ≤ start then offset else offset - removed.length := by
  unfold rebaseStart Edit.oldEnd Edit.newEnd
  simp only [List.length_nil]
  repeat' split
  all_goals omega

end Bounds

namespace Document

variable {d d' : Document} {name other : Text} {id : RangeId} {offset start stop : Nat}

/-- Where the start of bounds goes when a text is replaced. -/
def movedStart (d : Document) (start stop : Nat) (piece : Text) (kind : EditKind) (offset : Nat) :
    Nat :=
  (d.replace start stop piece kind).1.elim offset (Bounds.rebaseStart · offset)

theorem movedStart_insertion (h : start ≤ d.text.length) (piece : Text) (kind : EditKind)
    (offset : Nat) :
    d.movedStart start start piece kind offset
      = if offset ≤ start then offset else offset + piece.length := by
  have hclamp : (Bounds.mk start start).clamp d.length = ⟨start, start⟩ :=
    Bounds.clamp_of_le (b := ⟨start, start⟩) (Nat.le_refl start) h
  have hslice : d.text.slice start start = [] := d.text.slice_eq_nil_of_le (Nat.le_refl start)
  rw [movedStart, fst_replace, hclamp, hslice]
  by_cases hpiece : piece = []
  · subst hpiece
    simp [Edit.between]
  · rw [Edit.between_nil_left hpiece, ← Bounds.rebaseStart_insertion]
    simp [Edit.shift]

theorem movedStart_deletion (hle : start ≤ stop) (h : stop ≤ d.text.length) (kind : EditKind)
    (hoffset : offset ≤ start ∨ stop ≤ offset) :
    d.movedStart start stop [] kind offset
      = if offset ≤ start then offset else offset - (stop - start) := by
  have hclamp : (Bounds.mk start stop).clamp d.length = ⟨start, stop⟩ :=
    Bounds.clamp_of_le (b := ⟨start, stop⟩) hle h
  have hlength : (d.text.slice start stop).length = stop - start := by
    rw [Text.length_slice]
    omega
  rw [movedStart, fst_replace, hclamp, ← hlength]
  by_cases hslice : d.text.slice start stop = []
  · simp [hslice, Edit.between]
  · rw [Edit.between_nil_right hslice, ← Bounds.rebaseStart_deletion (by omega)]
    simp [Edit.shift]

/-! ## Marks -/

/-- A mark with a number of its own follows edits, and starts at an offset. -/
structure MarksAt (d : Document) (name : Text) (id : RangeId) (offset : Nat) : Prop where
  /-- The number of the mark. -/
  named : d.marks.get? name = some id
  /-- Where it starts. -/
  start : ∃ range, d.ranges.held.get? id = some range ∧ range.bounds.start = offset
  /-- It follows edits. -/
  tracked : d.ranges.isTracked id
  /-- No other mark has its number. -/
  alone : ∀ other, d.marks.get? other = some id → other = name
  /-- The number has been given away. -/
  lt : id < d.ranges.fresh

/-- A new mark has a number of its own. -/
theorem marksAt_setMark (h : ∀ name m, d.marks.get? name = some m → m < d.ranges.fresh)
    (name : Text) (b : Bounds) :
    (d.setMark name b).MarksAt name d.ranges.fresh b.start := by
  have hname : d.marks.get? name ≠ some d.ranges.fresh := fun hname ↦
    absurd (h name _ hname) (Nat.lt_irrefl _)
  obtain ⟨hheld, htracked⟩ := get?_held_setMark_fresh hname b
  refine ⟨?_, ⟨_, hheld, rfl⟩, htracked, fun other hother ↦ ?_, ?_⟩
  · rw [get?_marks_setMark, if_pos rfl]
  · rw [get?_marks_setMark] at hother
    split at hother
    · next heq => exact heq.symm
    · exact absurd (h other _ hother) (Nat.lt_irrefl _)
  · rw [fresh_setMark]
    exact Nat.lt_succ_self _

namespace MarksAt

/-- Setting another mark leaves it alone. -/
theorem setMark (h : d.MarksAt name id offset) (hne : other ≠ name) (b : Bounds) :
    (d.setMark other b).MarksAt name id offset := by
  have hother : d.marks.get? other ≠ some id := fun ho ↦ hne (h.alone other ho)
  refine ⟨?_, ?_, ?_, fun x hx ↦ ?_, ?_⟩
  · rw [get?_marks_setMark, if_neg hne, h.named]
  · rw [get?_held_setMark h.lt hother]
    exact h.start
  · rw [isTracked_setMark h.lt hother]
    exact h.tracked
  · rw [get?_marks_setMark] at hx
    split at hx
    · exact absurd (Option.some.inj hx) (Nat.ne_of_gt h.lt)
    · exact h.alone x hx
  · rw [fresh_setMark]
    exact Nat.lt_succ_of_lt h.lt

/-- So does moving another range. -/
theorem movesOnly {working : RangeId} (h : d.MarksAt name id offset)
    (hmoves : d.MovesOnly working d') (hne : id ≠ working) : d'.MarksAt name id offset := by
  refine ⟨hmoves.marks ▸ h.named, hmoves.held id hne ▸ h.start, ?_, hmoves.marks ▸ h.alone,
    hmoves.fresh ▸ h.lt⟩
  rw [Ranges.isTracked, hmoves.tracked]
  exact h.tracked

/-- An edit moves it. -/
theorem replace (h : d.MarksAt name id offset) (start stop : Nat) (piece : Text)
    (kind : EditKind) :
    (d.replace start stop piece kind).2.MarksAt name id
      (d.movedStart start stop piece kind offset) := by
  cases he : (d.replace start stop piece kind).1 with
  | none =>
    rw [movedStart, he, replace_of_none he]
    exact h
  | some e =>
    rw [movedStart, he, replace_of_some he]
    obtain ⟨range, hrange, rfl⟩ := h.start
    have hheld : (d.ranges.rebase e).held.get? id
        = some { range with bounds := range.bounds.rebase e } := by
      rw [Ranges.get?_held_rebase, hrange, Option.map_some, if_pos h.tracked]
    have hhold : d.ranges.isHeld id := by rw [Ranges.isHeld, hrange]; rfl
    exact ⟨h.named, ⟨_, hheld, rfl⟩, Ranges.isTracked_rebase h.tracked hhold e, h.alone, h.lt⟩

/-- Where the mark starts is where `'` finds it. -/
theorem exists_mark? (h : d.MarksAt name id offset) (hlength : offset ≤ d.text.length) :
    ∃ b, d.mark? name = some b ∧ b.start = offset := by
  obtain ⟨range, hrange, rfl⟩ := h.start
  refine ⟨range.bounds.clamp d.length, ?_, Nat.min_eq_left hlength⟩
  rw [mark?, h.named, Option.map_some, Ranges.get, hrange]
  rfl

end MarksAt

/-! ## Lines put in and taken out -/

variable {working : RangeId} {body indent l : Text} {xs ys zs : List Text} {k n : Nat}

/-- A list, cut around one of its elements. -/
theorem exists_cut {ls : List Text} {i : Nat} (h : i < ls.length) :
    ∃ xs x ys, ls = xs ++ x :: ys ∧ xs.length = i := by
  refine ⟨ls.take i, ls[i], ls.drop (i + 1), ?_, ?_⟩
  · rw [List.getElem_cons_drop, List.take_append_drop]
  · rw [List.length_take]
    omega

/-- Lines without carriage returns are in the text that they are inserted into. -/
theorem lines_insertLines (hd : d.surface.IsReliable) (ht : d.text ≠ [])
    (hlines : d.text.lines = xs ++ zs) (hcount : xs.length ≤ d.text.lineCount)
    (hbody : '\r' ∉ body) (hindent : IsLine indent) (id : RangeId) :
    (d.insertLines id xs.length body indent).text.lines
      = xs ++ body.lines.map (Insertion.indentLine indent) ++ zs := by
  obtain ⟨hxs, hzs⟩ := Text.forall_isLine_append hlines
  rw [(becomes_insertLines_of_not_mem hd ht hlines hcount hbody id indent).text,
    ← Insertion.written_of_not_mem hbody]
  refine Text.lines_unlines (List.append_ne_nil_of_left_ne_nil (List.append_ne_nil_of_right_ne_nil
    xs (Insertion.written_ne_nil indent body)) zs) ?_
  exact List.forall_mem_append.mpr ⟨List.forall_mem_append.mpr
    ⟨hxs, fun _ ↦ Insertion.isLine_of_mem_written hindent⟩, hzs⟩

/-! ## Marks on lines -/

/-- A mark is at the start of line `n`, which is `l`. -/
def MarksLine (d : Document) (name : Text) (id : RangeId) (n : Nat) (l : Text) : Prop :=
  ∃ before behind, d.text.lines = before ++ l :: behind ∧ before.length + 1 = n ∧
    d.MarksAt name id (closed before).length

/-- Inserting lines moves a mark that is behind the place where they go. -/
theorem MarksAt.insertLines (h : d.MarksAt name id offset) (hid : id ≠ working)
    (ht : d.text ≠ []) (hlines : d.text.lines = xs ++ zs)
    (hcount : xs.length ≤ d.text.lineCount) (hbody : '\r' ∉ body) (indent : Text) :
    (d.insertLines working xs.length body indent).MarksAt name id
      (if offset ≤ Insertion.placeBehind xs then offset
        else offset + (closed (body.lines.map (Insertion.indentLine indent))).length) := by
  have hzs : xs = [] → zs ≠ [] := by
    rintro rfl
    exact List.nil_append zs ▸ hlines ▸ d.text.lines_ne_nil
  have hnew : body.lines.map (Insertion.indentLine indent) ≠ [] :=
    Insertion.map_lines_ne_nil indent body
  have hplace := (Insertion.splice_pieceBehind hlines hzs hnew).1
  have hmoved := (h.movesOnly (.moveTo d working (.collapsed (Insertion.placeBehind xs)))
    hid).replace (Insertion.placeBehind xs) (Insertion.placeBehind xs)
    (Insertion.pieceBehind xs (body.lines.map (Insertion.indentLine indent))) .command
  rw [movedStart_insertion (d := d.moveTo working _) hplace,
    Insertion.length_pieceBehind hnew] at hmoved
  rw [insertLines_eq ht hlines hcount, Insertion.behindLine_of_not_mem hbody,
    Insertion.written_of_not_mem hbody]
  exact (hmoved.movesOnly (.moveTo _ working _) hid).movesOnly (.moveTo _ working _) hid

/-- A mark at the start of the text stays there, whatever lines are inserted. -/
theorem MarksAt.insertLines_zero (h : d.MarksAt name id 0) (hid : id ≠ working) (k : Nat)
    (body indent : Text) : (d.insertLines working k body indent).MarksAt name id 0 := by
  unfold Document.insertLines
  extract_lets t after
  split
  next place chunk heq =>
  have hplace : place ≤ d.text.length := by
    split at heq
    · exact (Prod.mk.inj heq).1 ▸ Nat.zero_le _
    · split at heq
      · exact (Prod.mk.inj heq).1 ▸ Nat.zero_le _
      · exact (Prod.mk.inj heq).1 ▸ d.text.lineEnd_le_length after
  rw [write_moveTo (b := .collapsed place) (Nat.le_refl _) hplace]
  have hmoved := (h.movesOnly (.moveTo d working (.collapsed place)) hid).replace place place
    (Insertion.prepare d.text place indent chunk) .command
  rw [movedStart_insertion (d := d.moveTo working _) hplace, if_pos (Nat.zero_le _)] at hmoved
  exact (hmoved.movesOnly (.moveTo _ working _) hid).movesOnly (.moveTo _ working _) hid

/-- Deleting lines moves a mark that is behind the bounds around them. -/
theorem MarksAt.deleteLines (h : d.MarksAt name id offset)
    (hlines : d.text.lines = xs ++ ys ++ zs) (hys : ys ≠ []) {b : Bounds}
    (hb : Bounds.aroundLines d.text (xs.length + 1) (xs.length + ys.length) = b)
    (hoffset : offset ≤ b.start ∨ b.stop ≤ offset) :
    (d.deleteLines (xs.length + 1) (xs.length + ys.length)).MarksAt name id
      (if offset ≤ b.start then offset else offset - (b.stop - b.start)) := by
  obtain ⟨hle, hstop, -⟩ := Bounds.aroundLines_cut hlines hys
  rw [hb] at hle hstop
  rw [← movedStart_deletion hle hstop .command hoffset, Document.deleteLines, hb]
  exact h.replace b.start b.stop [] .command

namespace MarksLine

theorem setMark (h : d.MarksLine name id n l) (hne : other ≠ name) (b : Bounds) :
    (d.setMark other b).MarksLine name id n l := by
  obtain ⟨before, behind, hlines, hn, hmark⟩ := h
  exact ⟨before, behind, hlines, hn, hmark.setMark hne b⟩

theorem movesOnly (h : d.MarksLine name id n l) (hmoves : d.MovesOnly working d')
    (hne : id ≠ working) : d'.MarksLine name id n l := by
  obtain ⟨before, behind, hlines, hn, hmark⟩ := h
  exact ⟨before, behind, hmoves.text ▸ hlines, hn, hmark.movesOnly hmoves hne⟩

/-- The mark is on this line. -/
theorem line_eq (h : d.MarksLine name id n l) : d.text.line n = l := by
  obtain ⟨before, behind, hlines, rfl, -⟩ := h
  exact Text.line_of_lines_eq hlines

/-- The mark is found on this line. -/
theorem exists_mark? (h : d.MarksLine name id n l) :
    ∃ b, d.mark? name = some b ∧ d.text.lineAt b.start = n := by
  obtain ⟨before, behind, hlines, rfl, hmark⟩ := h
  have hlength := Text.length_le_of_lines_eq hlines
  obtain ⟨b, hb, hstart⟩ := hmark.exists_mark? (Nat.le_trans hlength.1 hlength.2)
  refine ⟨b, hb, ?_⟩
  have hat := Text.lineAt_closed (Text.forall_isLine_append hlines).1 Text.isLine_nil
    (l ++ Text.opened behind)
  rw [List.append_nil, ← List.append_assoc, ← Text.eq_of_lines_eq_cons hlines] at hat
  rw [hstart, hat]

/-- Lines inserted in front of the line move it along with its mark, if it is not the first one. -/
theorem insertLines_front (h : d.MarksLine name id n l) (hid : id ≠ working)
    (hd : d.surface.IsReliable) (ht : d.text ≠ []) (hcount : k ≤ d.text.lineCount) (hk : k < n)
    (hn : 1 < n) (hbody : '\r' ∉ body) (hindent : IsLine indent) :
    (d.insertLines working k body indent).MarksLine name id (n + body.lines.length) l := by
  obtain ⟨before, behind, hlines, rfl, hmark⟩ := h
  -- the lines go between those in front
  obtain ⟨xs, ys, rfl, rfl⟩ : ∃ xs ys, before = xs ++ ys ∧ xs.length = k :=
    ⟨before.take k, before.drop k, (List.take_append_drop k before).symm, by
      rw [List.length_take]
      omega⟩
  rw [List.append_assoc] at hlines
  have hmoved := hmark.insertLines hid ht hlines hcount hbody indent
  have hxs := Text.length_le_length_closed xs
  have hys := Text.length_le_length_closed ys
  rw [List.length_append] at hn
  rw [Text.closed_append, List.length_append,
    if_neg (by unfold Insertion.placeBehind; omega)] at hmoved
  refine ⟨xs ++ body.lines.map (Insertion.indentLine indent) ++ ys, behind, ?_, ?_, ?_⟩
  · rw [lines_insertLines hd ht hlines hcount hbody hindent, List.append_assoc _ ys]
  · simp only [List.length_append, List.length_map]
    omega
  · have hplace : (closed (xs ++ body.lines.map (Insertion.indentLine indent) ++ ys)).length
        = (closed xs).length + (closed ys).length
          + (closed (body.lines.map (Insertion.indentLine indent))).length := by
      simp only [Text.closed_append, List.length_append]
      omega
    rw [hplace]
    exact hmoved

/-- Lines inserted behind the line leave it alone. -/
theorem insertLines_behind (h : d.MarksLine name id n l) (hid : id ≠ working)
    (hd : d.surface.IsReliable) (ht : d.text ≠ []) (hcount : k ≤ d.text.lineCount) (hk : n ≤ k)
    (hbody : '\r' ∉ body) (hindent : IsLine indent) :
    (d.insertLines working k body indent).MarksLine name id n l := by
  obtain ⟨before, behind, hlines, rfl, hmark⟩ := h
  have hall := Nat.le_trans hcount d.text.lineCount_le_length_lines
  rw [hlines, List.length_append, List.length_cons] at hall
  obtain ⟨ys, zs, rfl, hlength⟩ : ∃ ys zs, behind = ys ++ zs
      ∧ ys.length = k - (before.length + 1) :=
    ⟨_, _, (List.take_append_drop (k - (before.length + 1)) behind).symm, by
      rw [List.length_take]
      omega⟩
  obtain rfl : (before ++ l :: ys).length = k := by
    rw [List.length_append, List.length_cons]
    omega
  rw [← List.cons_append, ← List.append_assoc] at hlines
  have hmoved := hmark.insertLines hid ht hlines hcount hbody indent
  have hline := Text.length_le_length_closed (l :: ys)
  rw [List.length_cons] at hline
  rw [if_pos (by rw [Insertion.placeBehind, Text.closed_append, List.length_append]; omega)]
    at hmoved
  refine ⟨before, ys ++ body.lines.map (Insertion.indentLine indent) ++ zs, ?_, rfl, hmoved⟩
  rw [lines_insertLines hd ht hlines hcount hbody hindent]
  simp only [List.append_assoc, List.cons_append]

/-- A mark on the first line stays on the first line, even if that becomes another one. -/
theorem insertLines_first (h : d.MarksLine name id 1 l) (hid : id ≠ working) (k : Nat)
    (body indent : Text) :
    ∃ l', (d.insertLines working k body indent).MarksLine name id 1 l' := by
  obtain ⟨before, behind, -, hn, hmark⟩ := h
  obtain rfl : before = [] := List.length_eq_zero_iff.mp (Nat.succ.inj hn)
  obtain ⟨l', rest, hlines⟩ := List.exists_cons_of_ne_nil
    (d.insertLines working k body indent).text.lines_ne_nil
  exact ⟨l', [], rest, hlines, rfl, hmark.insertLines_zero hid k body indent⟩

/-- Lines inserted in front of a line move its mark along, unless it is the first one. The mark
stays with its line unless lines are put in front of the first one, or into an empty text. -/
theorem exists_insertLines (h : d.MarksLine name id n l) (hid : id ≠ working)
    (hd : d.surface.IsReliable) (hk : k ≤ d.text.lineCount) (hbody : '\r' ∉ body)
    (hindent : IsLine indent) :
    ∃ l', (d.insertLines working k body indent).MarksLine name id
        (if k < n ∧ 1 < n then n + body.lines.length else n) l' ∧
      (d.text ≠ [] → (k < n → 1 < n) → l' = l) := by
  by_cases hstays : d.text ≠ [] ∧ (k < n → 1 < n)
  · obtain ⟨ht, hfront⟩ := hstays
    refine ⟨l, ?_, fun _ _ ↦ rfl⟩
    by_cases hkn : k < n
    · rw [if_pos ⟨hkn, hfront hkn⟩]
      exact h.insertLines_front hid hd ht hk hkn (hfront hkn) hbody hindent
    · rw [if_neg fun h ↦ hkn h.1]
      exact h.insertLines_behind hid hd ht hk (Nat.le_of_not_lt hkn) hbody hindent
  · obtain rfl : n = 1 := by
      obtain ⟨before, behind, hlines, rfl, -⟩ := h
      by_cases ht : d.text = []
      · have hlength := congrArg List.length hlines
        rw [ht, List.length_append, List.length_cons] at hlength
        change 1 = _ at hlength
        omega
      · have hfront : ¬ (k < before.length + 1 → 1 < before.length + 1) := fun h ↦ hstays ⟨ht, h⟩
        omega
    rw [if_neg fun h ↦ Nat.lt_irrefl 1 h.2]
    obtain ⟨l', hl'⟩ := h.insertLines_first hid k body indent
    exact ⟨l', hl', fun ht hfront ↦ absurd ⟨ht, hfront⟩ hstays⟩

/-- Deleting a line in front of the line moves it along with its mark. -/
theorem deleteLines_front (h : d.MarksLine name id n l) (hk : 1 ≤ k) (hkn : k < n) :
    (d.deleteLines k k).MarksLine name id (n - 1) l := by
  obtain ⟨before, behind, hlines, rfl, hmark⟩ := h
  obtain ⟨xs, x, ys, rfl, hlength⟩ := exists_cut (show k - 1 < before.length by omega)
  obtain rfl : k = xs.length + 1 := by omega
  have hcut : d.text.lines = xs ++ [x] ++ (ys ++ l :: behind) := by
    rw [hlines]
    simp only [List.append_assoc, List.cons_append, List.nil_append]
  have hne : [x] ≠ [] := List.cons_ne_nil x []
  have hrest : ys ++ l :: behind ≠ [] :=
    List.append_ne_nil_of_right_ne_nil ys (List.cons_ne_nil l behind)
  -- the start of the line is behind the separator that is deleted
  have hbounds := Bounds.aroundLines_of_behind hcut hne hrest
  have hsplit : (closed (xs ++ x :: ys)).length
      = (closed xs).length + (closed [x]).length + (closed ys).length := by
    rw [List.append_cons, Text.closed_append, Text.closed_append, List.length_append,
      List.length_append]
  have hpos : 1 ≤ (closed [x]).length := Text.length_le_length_closed [x]
  rw [Text.closed_append, List.length_append] at hbounds
  have hmoved := hmark.deleteLines hcut hne hbounds (by simp only; omega)
  rw [if_neg (by simp only; omega)] at hmoved
  have hplace : (closed (xs ++ ys)).length = (closed (xs ++ x :: ys)).length
      - ((closed xs).length + (closed [x]).length - (closed xs).length) := by
    rw [hsplit, Text.closed_append, List.length_append]
    omega
  refine ⟨xs ++ ys, behind, ?_, ?_, hplace ▸ hmoved⟩
  · have hdeleted := lines_deleteLines hcut hne (List.append_ne_nil_of_right_ne_nil xs hrest)
    rw [List.length_singleton, ← List.append_assoc] at hdeleted
    exact hdeleted
  · simp only [List.length_append, List.length_cons]
    omega

/-- Deleting a line behind the line leaves it alone. -/
theorem deleteLines_behind (h : d.MarksLine name id n l) (hkn : n < k)
    (hcount : k ≤ d.text.lines.length) : (d.deleteLines k k).MarksLine name id n l := by
  obtain ⟨before, behind, hlines, rfl, hmark⟩ := h
  rw [hlines, List.length_append, List.length_cons] at hcount
  obtain ⟨ys, x, zs, rfl, hlength⟩ :=
    exists_cut (show k - before.length - 2 < behind.length by omega)
  obtain rfl : k = (before ++ l :: ys).length + 1 := by
    simp only [List.length_append, List.length_cons]
    omega
  have hcut : d.text.lines = before ++ l :: ys ++ [x] ++ zs := by
    rw [hlines]
    simp only [List.append_assoc, List.cons_append, List.nil_append]
  have hne : [x] ≠ [] := List.cons_ne_nil x []
  -- the line ends before the separator that is deleted
  have hstart := Bounds.le_start_aroundLines hcut hne
  have hpos : 1 ≤ (closed (l :: ys)).length :=
    Nat.le_trans (Nat.le_add_left 1 _) (Text.length_le_length_closed (l :: ys))
  have hbefore : (closed before).length ≤ (Bounds.aroundLines d.text
      ((before ++ l :: ys).length + 1) ((before ++ l :: ys).length + [x].length)).start := by
    rw [Text.closed_append, List.length_append] at hstart
    omega
  have hmoved := hmark.deleteLines hcut hne rfl (.inl hbefore)
  rw [if_pos hbefore] at hmoved
  refine ⟨before, ys ++ zs, ?_, rfl, hmoved⟩
  have hdeleted := lines_deleteLines hcut hne (by simp)
  rw [List.append_assoc, List.cons_append] at hdeleted
  exact hdeleted

/-- Deleting another line moves the line along with its mark if it was in front of it. -/
theorem deleteLines (h : d.MarksLine name id n l) (hk : 1 ≤ k) (hkn : k ≠ n)
    (hcount : k ≤ d.text.lines.length) :
    (d.deleteLines k k).MarksLine name id (if k < n then n - 1 else n) l := by
  by_cases hfront : k < n
  · rw [if_pos hfront]
    exact h.deleteLines_front hk hfront
  · rw [if_neg hfront]
    exact h.deleteLines_behind (by omega) hcount

end MarksLine

end Document

end LineEditor
