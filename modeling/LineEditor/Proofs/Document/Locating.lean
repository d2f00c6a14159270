import LineEditor.Proofs.Document.InPlace

/-!
# Where lines are

The lines of a text are found in two ways: by splitting the text at its separators, and by counting
separators up to an offset. An offset lies in one of the lines, and cuts it in two: so the text is
cut in its list of lines once more, and every count comes down to the lines in front of the cut.

The commands that work on whole lines find out where lines are by counting, and what they hold by
splitting. Both agree on all numbers of lines, also on those that lie behind the last line: its
lines end, and hold nothing, where the text ends.
-/

namespace LineEditor

namespace Text

variable {t l : Text} {xs : List Text} {n offset : Nat}

/-! ## The line of an offset -/

/-- An offset lies in a line, between the characters in front of it and those behind it. -/
theorem exists_lines_eq_of_le (h : offset ≤ t.length) :
    ∃ xs u v zs, t.lines = xs ++ (u ++ v) :: zs ∧ (closed xs ++ u).length = offset := by
  obtain ⟨xs, u, hfront⟩ := exists_lines_eq (t.take offset)
  obtain ⟨v, zs, hback⟩ := List.exists_cons_of_ne_nil (lines_ne_nil (t.drop offset))
  obtain ⟨hxs, hu⟩ := forall_isLine_append hfront
  have hls : ∀ l ∈ (u ++ v) :: zs, IsLine l := by
    have hvs : ∀ l ∈ v :: zs, IsLine l := fun l hl ↦ isLine_of_mem_lines (hback ▸ hl)
    obtain ⟨hv, hzs⟩ := List.forall_mem_cons.mp hvs
    exact List.forall_mem_cons.mpr ⟨isLine_append (hu u List.mem_cons_self) hv, hzs⟩
  have htake : t.take offset = closed xs ++ u := eq_of_lines_eq hfront (List.cons_ne_nil u [])
  have ht : t = closed xs ++ unlines ((u ++ v) :: zs) := by
    rw [unlines_cons, List.append_assoc, ← unlines_cons, ← hback, unlines_lines,
      ← List.append_assoc, ← htake, List.take_append_drop]
  refine ⟨xs, u, v, zs, ?_, ?_⟩
  · rw [ht, lines_closed_append hxs, lines_unlines (List.cons_ne_nil _ zs) hls]
  · rw [← htake, List.length_take_of_le h]

/-- The line of an offset starts and ends around it, and no separator is in between. -/
theorem around_offset (h : offset ≤ t.length) :
    t.lineStart? (t.lineAt offset) = some (t.lineStartFrom offset) ∧
      t.lineStartFrom offset ≤ offset ∧ offset ≤ t.lineEndFrom offset ∧
      separator ∉ t.slice (t.lineStartFrom offset) (t.lineEndFrom offset) := by
  obtain ⟨xs, u, v, zs, hlines, rfl⟩ := exists_lines_eq_of_le h
  obtain ⟨hxs, hls⟩ := forall_isLine_append hlines
  have hline : IsLine (u ++ v) := hls _ List.mem_cons_self
  obtain ⟨hu, hv⟩ : IsLine u ∧ IsLine v := by simpa [IsLine] using hline
  have ht : t = closed xs ++ u ++ (v ++ opened zs) := by
    rw [eq_of_lines_eq_cons hlines]
    simp only [List.append_assoc]
  have hat : t.lineAt (closed xs ++ u).length = xs.length + 1 := by
    rw [ht]
    exact lineAt_closed hxs hu _
  have hstart : t.lineStartFrom (closed xs ++ u).length = (closed xs).length := by
    rw [ht]
    exact lineStartFrom_within hu xs _
  have hend : t.lineEndFrom (closed xs ++ u).length = (closed xs ++ (u ++ v)).length := by
    rw [ht, ← List.append_assoc, lineEndFrom_opened hv, List.append_assoc]
  have hcut : t.lines = xs ++ [u ++ v] ++ zs := hlines.trans (List.append_cons xs _ zs)
  have hslice : t.slice (closed xs).length (closed xs ++ (u ++ v)).length = u ++ v :=
    slice_cut hcut (List.cons_ne_nil _ [])
  rw [hat, hstart, hend, hslice]
  refine ⟨lineStart?_of_lines_eq hlines (List.cons_ne_nil _ zs), ?_, ?_, hline⟩
  · exact (List.prefix_append _ u).length_le
  · rw [← List.append_assoc]
    exact (List.prefix_append _ v).length_le

/-- A separator at the end opens no further line. -/
theorem lineCount_eq (t : Text) :
    t.lineCount = if t.getLast? = some separator then t.count separator
      else t.count separator + 1 := by
  rw [lineCount]
  by_cases hlast : t.getLast? = some separator
  · have hpos : 0 < t.count separator := List.count_pos_iff.mpr (List.mem_of_getLast? hlast)
    rw [if_pos hlast, if_neg fun h ↦ h.2 hlast]
    exact Nat.max_eq_left hpos
  · rw [if_neg hlast]
    by_cases hnil : t = []
    · rw [hnil]
      rfl
    · rw [if_pos ⟨hnil, hlast⟩]
      exact Nat.max_eq_left (Nat.le_add_left 1 _)

/-! ## Behind the last line -/

/-- The last line, and all behind it, end where the text does. -/
theorem lineEnd_of_length_le (h : t.lines.length ≤ n) : t.lineEnd n = t.length := by
  rcases Nat.lt_or_eq_of_le h with hlt | rfl
  · rw [lineEnd, lineStart?_of_length_lt (Nat.lt_of_lt_of_le hlt (Nat.le_max_left _ _))]
  · obtain ⟨xs, l, hlines⟩ := exists_lines_eq t
    rw [hlines, List.length_append, List.length_singleton, lineEnd_of_lines_eq hlines]
    exact congrArg List.length (eq_of_lines_eq hlines (List.cons_ne_nil l [])).symm

/-- The lines between numbers, one by one. -/
theorem lineRange_eq_filterMap {first : Nat} (hfirst : 1 ≤ first) (last : Nat) :
    t.lineRange first last
      = (List.range' first (last + 1 - first)).filterMap fun n ↦ t.lines[n - 1]? := by
  have hpieces (ls : List Text) (i m : Nat) :
      (ls.drop i).take m = (List.range' (i + 1) m).filterMap fun n ↦ ls[n - 1]? := by
    induction m generalizing i with
    | zero => rfl
    | succ m ih =>
      rw [List.range'_succ, List.filterMap_cons, Nat.add_sub_cancel, ← ih]
      by_cases hi : i < ls.length
      · rw [List.drop_eq_getElem_cons hi, List.getElem?_eq_getElem hi, List.take_succ_cons]
      · have hle : ls.length ≤ i := Nat.le_of_not_lt hi
        rw [List.getElem?_eq_none hle, List.drop_of_length_le hle,
          List.drop_of_length_le (Nat.le_succ_of_le hle), List.take_nil, List.take_nil]
  rw [lineRange, hpieces, Nat.sub_add_cancel hfirst, Nat.max_eq_left hfirst]

end Text

open Text (closed unlines separator)

/-- The text in the bounds of lines is the text of the lines, whether there are so many or not. -/
theorem Bounds.slice_inLines {t : Text} {first last : Nat} (hfirst : 1 ≤ first)
    (hle : first ≤ last) :
    t.slice (inLines t first last).start (inLines t first last).stop = t.linesText first last := by
  by_cases hin : first ≤ t.lines.length
  · have hcut := t.lines_eq_lineRange hfirst (Nat.le_succ_of_le hle)
    have hfront : (t.lines.take (first - 1)).length + 1 = first := by
      rw [List.length_take_of_le (by omega), Nat.sub_add_cancel hfirst]
    have hne : t.lineRange first last ≠ [] := by
      rw [← List.length_pos_iff, Text.lineRange, List.length_take, List.length_drop]
      omega
    -- numbers behind the last line end where the last line does
    have hend : t.lineEnd last
        = t.lineEnd ((t.lines.take (first - 1)).length + (t.lineRange first last).length) := by
      have hblock : (t.lineRange first last).length = min last t.lines.length + 1 - first := by
        rw [Text.lineRange, List.length_take, List.length_drop]
        omega
      rcases Nat.le_total last t.lines.length with hlast | hlast
      · congr 1
        omega
      · rw [Text.lineEnd_of_length_le hlast, Text.lineEnd_of_length_le (by omega)]
    have hbounds := inLines_cut hcut hne
    rw [hfront] at hbounds
    have hsame : inLines t first last = inLines t first
        ((t.lines.take (first - 1)).length + (t.lineRange first last).length) := by
      rw [inLines, inLines, hend]
    rw [hsame, hbounds]
    exact Text.slice_cut hcut hne
  · have hlt : t.lines.length < first := Nat.lt_of_not_le hin
    have hstart : (inLines t first last).start = t.length := by
      rw [inLines, Nat.max_eq_left hfirst, Text.lineStart?_of_length_lt hlt]
      rfl
    have hnone : t.lineRange first last = [] := by
      rw [Text.lineRange, List.drop_of_length_le (by omega), List.take_nil]
    rw [hstart, Text.linesText, hnone, Text.slice,
      List.drop_of_length_le (List.length_take_le' _ _)]
    rfl

/-- Counting and splitting agree. The line of an offset starts and ends around it; there is one line
more than there are separators, but for a separator at the end; and the text in the bounds of lines
is that of the pieces with their numbers, as far as there are any. -/
theorem Text.locates_lines (t : Text) :
    (∀ offset ≤ t.length,
      t.lineStart? (t.lineAt offset) = some (t.lineStartFrom offset) ∧
      t.lineStartFrom offset ≤ offset ∧ offset ≤ t.lineEndFrom offset ∧
      separator ∉ t.slice (t.lineStartFrom offset) (t.lineEndFrom offset) ∧
      t.lineAt offset ≤ t.count separator + 1) ∧
    (t.lineCount = if t.getLast? = some separator then t.count separator
      else t.count separator + 1) ∧
    ∀ first last, 1 ≤ first → first ≤ last →
      let b := Bounds.inLines t first last
      t.slice b.start b.stop = t.linesText first last ∧
        t.linesText first last
          = unlines ((List.range' first (last + 1 - first)).filterMap fun n ↦ t.lines[n - 1]?) := by
  refine ⟨fun offset h ↦ ?_, t.lineCount_eq, fun first last hfirst hle ↦ ?_⟩
  · obtain ⟨hstart, hfront, hback, hline⟩ := around_offset h
    exact ⟨hstart, hfront, hback, hline, t.length_lines ▸ t.lineAt_le_length_lines offset⟩
  · exact ⟨Bounds.slice_inLines hfirst hle, congrArg unlines (lineRange_eq_filterMap hfirst last)⟩

/-- In a text with an empty line, the offset of the last separator belongs to the line that it ends,
and the lines from the second one on, more than there are, are the end of the text. -/
theorem Text.locates_lines_behind_end :
    let t : Text := "é\n\nb\n".toList
    t.lineStart? (t.lineAt 4) = some (t.lineStartFrom 4) ∧
      t.slice (Bounds.inLines t 2 9).start (Bounds.inLines t 2 9).stop = t.linesText 2 9 := by
  obtain ⟨hoffset, -, hlines⟩ := Text.locates_lines "é\n\nb\n".toList
  exact ⟨(hoffset 4 (by decide)).1, (hlines 2 9 (by decide) (by decide)).1⟩

end LineEditor
