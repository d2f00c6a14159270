import LineEditor.Proofs.Document.Writing

/-!
# Moving lines

To move lines is to exchange two runs of lines that stand next to each other. Lines that go down are
first written behind the lines that they are to follow, and taken out afterwards; lines that go up
are taken out first. So the number of the line to put them behind is one of the text as it was in
the one case, and one of the text without them in the other, where it means the same line. Lines
that are to go where they are, or behind one of themselves, stay.

Either way the lines are written once, and a deletion misplaces nothing. So the lines are moved
exactly if that one text is not misplaced.
-/

namespace LineEditor

open Text (closed opened unlines separator IsLine)

namespace Text

variable {t : Text} {first last target : Nat} {front block back xs ys zs ws : List Text}

/-! ## Where lines go -/

/-- The lines up to line `target` that are not among lines `first` to `last`. -/
def stayingTo (t : Text) (first last target : Nat) : List Text :=
  (t.lines.take (first - 1)).take target ++ (t.lines.take target).drop last

/-- The lines behind line `target` that are not among lines `first` to `last`. -/
def stayingFrom (t : Text) (first last target : Nat) : List Text :=
  (t.lines.take (first - 1)).drop target ++ t.lines.drop (max last target)

/-- A text cut to move a block of lines behind line `target`, between the lines that stay. -/
inductive MoveCut (t : Text) : (first last target : Nat) → (front block back : List Text) → Prop
  /-- The block stays where it is. -/
  | stay {front block back : List Text} {target : Nat} (h : t.lines = front ++ block ++ back)
    (hblock : block ≠ []) (hle : front.length ≤ target)
    (hge : target ≤ front.length + block.length) :
    MoveCut t (front.length + 1) (front.length + block.length) target front block back
  /-- The block goes down, behind lines `zs`. -/
  | down {xs block zs back : List Text} (h : t.lines = xs ++ block ++ zs ++ back)
    (hblock : block ≠ []) (hzs : zs ≠ []) :
    MoveCut t (xs.length + 1) (xs.length + block.length) (xs ++ block ++ zs).length
      (xs ++ zs) block back
  /-- The block goes up, in front of lines `ys`. -/
  | up {front ys block zs : List Text} (h : t.lines = front ++ ys ++ block ++ zs)
    (hys : ys ≠ []) (hblock : block ≠ []) :
    MoveCut t ((front ++ ys).length + 1) ((front ++ ys).length + block.length) front.length
      front block (ys ++ zs)

/-- A list is cut at any of its lengths. -/
private theorem exists_append_of_le_length {n : Nat} (h : n ≤ xs.length) :
    ∃ ys zs, xs = ys ++ zs ∧ ys.length = n :=
  ⟨xs.take n, xs.drop n, (List.take_append_drop n xs).symm, List.length_take_of_le h⟩

/-- Around a block that is cut out, these are the lines that stay. -/
theorem moveCut_of_lines_eq (h : t.lines = xs ++ ys ++ zs) (hys : ys ≠ [])
    (htarget : target ≤ t.lines.length) :
    t.MoveCut (xs.length + 1) (xs.length + ys.length) target
      (t.stayingTo (xs.length + 1) (xs.length + ys.length) target) ys
      (t.stayingFrom (xs.length + 1) (xs.length + ys.length) target) := by
  have hlength := congrArg List.length h
  have hfront : t.lines.take xs.length = xs := by rw [h, List.append_assoc, List.take_left]
  have hback : t.lines.drop (xs.length + ys.length) = zs := by
    rw [h, ← List.length_append, List.drop_left]
  simp only [List.length_append] at hlength
  simp only [stayingTo, stayingFrom, Nat.add_sub_cancel, hfront]
  rcases Nat.lt_or_ge (xs.length + ys.length) target with hdown | hnotDown
  · -- some of the lines behind the block come in front of it
    obtain ⟨zs, ws, rfl, hzs⟩ := exists_append_of_le_length
      (show target - (xs.length + ys.length) ≤ zs.length by omega)
    obtain rfl : target = (xs ++ ys ++ zs).length := by
      rw [List.length_append, List.length_append]
      omega
    have hne : zs ≠ [] := by
      rw [← List.length_pos_iff]
      omega
    have hcut : t.lines = xs ++ ys ++ zs ++ ws := by rw [h, ← List.append_assoc]
    have hto : (t.lines.take (xs ++ ys ++ zs).length).drop (xs.length + ys.length) = zs := by
      rw [hcut, List.take_left, ← List.length_append, List.drop_left]
    have hfrom : t.lines.drop (xs ++ ys ++ zs).length = ws := by rw [hcut, List.drop_left]
    rw [hto, Nat.max_eq_right (Nat.le_of_lt hdown), hfrom, List.take_of_length_le (by omega),
      List.drop_of_length_le (by omega), List.nil_append]
    exact .down hcut hys hne
  have hnone : (t.lines.take target).drop (xs.length + ys.length) = [] := by
    rw [List.drop_eq_nil_iff, List.length_take]
    omega
  rw [hnone, Nat.max_eq_left hnotDown, hback, List.append_nil]
  rcases Nat.lt_or_ge target xs.length with hup | hstay
  · -- some of the lines in front of the block come behind it
    obtain ⟨xs, ws, rfl, rfl⟩ := exists_append_of_le_length (Nat.le_of_lt hup)
    have hne : ws ≠ [] := by
      rw [← List.length_pos_iff]
      rw [List.length_append] at hup
      omega
    rw [List.take_left, List.drop_left]
    exact .up h hne hys
  · rw [List.take_of_length_le hstay, List.drop_of_length_le hstay, List.nil_append]
    exact .stay h hys hstay hnotDown

/-- Lines of a text can be moved behind any line of it. -/
theorem moveCut (hfirst : 1 ≤ first) (hle : first ≤ last) (hlast : last ≤ t.lines.length)
    (htarget : target ≤ t.lines.length) :
    t.MoveCut first last target (t.stayingTo first last target) (t.lineRange first last)
      (t.stayingFrom first last target) := by
  have hcut := t.lines_eq_lineRange hfirst (Nat.le_succ_of_le hle)
  have hlength := t.length_lineRange hfirst (Nat.le_succ_of_le hle) hlast
  have hfront : (t.lines.take (first - 1)).length = first - 1 := by
    rw [List.length_take]
    omega
  have hblock : t.lineRange first last ≠ [] := by
    rw [← List.length_pos_iff]
    omega
  have hmove := moveCut_of_lines_eq hcut hblock htarget
  rw [hlength, hfront, Nat.sub_add_cancel hfirst] at hmove
  rwa [show first - 1 + (last + 1 - first) = last by omega] at hmove

/-- The block is the lines to move. -/
theorem MoveCut.lineRange_eq (h : t.MoveCut first last target front block back) :
    t.lineRange first last = block := by
  cases h with
  | stay h => exact lineRange_of_lines_eq h
  | down h => exact lineRange_of_lines_eq (List.append_assoc _ _ _ ▸ h)
  | up h => exact lineRange_of_lines_eq h

theorem MoveCut.block_ne_nil (h : t.MoveCut first last target front block back) : block ≠ [] := by
  cases h <;> assumption

theorem MoveCut.first_le (h : t.MoveCut first last target front block back) : first ≤ last := by
  have hpos := List.length_pos_iff.mpr h.block_ne_nil
  cases h <;> omega

/-- Two runs of lines are exchanged. -/
private theorem perm_exchange (xs ys zs ws : List Text) :
    (xs ++ zs ++ ys ++ ws).Perm (xs ++ ys ++ zs ++ ws) := by
  rw [List.append_assoc xs zs, List.append_assoc xs ys]
  exact (List.perm_append_comm.append_left xs).append_right ws

/-- Around a block that is to go where it is nothing changes. -/
theorem MoveCut.lines_eq (h : t.MoveCut first last target front block back)
    (hstay : first ≤ target + 1 ∧ target ≤ last) : t.lines = front ++ block ++ back := by
  cases h with
  | stay h => exact h
  | @down xs _ zs _ h hblock hzs =>
    have hzs := List.length_pos_iff.mpr hzs
    simp only [List.length_append] at hstay
    omega
  | @up _ ys _ _ h hys hblock =>
    have hys := List.length_pos_iff.mpr hys
    simp only [List.length_append] at hstay
    omega

/-- No line is lost, and none is there twice. -/
theorem MoveCut.perm (h : t.MoveCut first last target front block back) :
    (front ++ block ++ back).Perm t.lines := by
  cases h with
  | stay h => exact h ▸ .refl _
  | down h => exact h ▸ perm_exchange _ _ _ _
  | up h =>
    rw [h, ← List.append_assoc]
    exact perm_exchange _ _ _ _

end Text

/-! ## Writing lines and taking them out -/

namespace LineWrite

variable {d : Document} {t body : Text} {xs ys zs : List Text} {n : Nat}

/-- Lines are written behind those in front of a cut, if these are counted. -/
theorem before_behind (ht : t ≠ []) (h : t.lines = xs ++ zs) (hcount : xs.length ≤ t.lineCount)
    (body indent : Text) : (behind xs.length body indent).before t = xs := by
  rw [before, if_neg ht, Nat.min_eq_left hcount, h, List.take_left]

theorem after_behind (ht : t ≠ []) (h : t.lines = xs ++ zs) (hcount : xs.length ≤ t.lineCount)
    (body indent : Text) : (behind xs.length body indent).after t = zs := by
  rw [after, if_neg ht, Nat.min_eq_left hcount, h, List.drop_left]

/-- Even where it misplaces text, writing lines leaves alone what is in front of them. -/
theorem take_text_perform {w : LineWrite} (hw : w.Fits d.text) (id : RangeId) :
    (w.perform d id).text.take (w.stretch d.text).start
      = d.text.take (w.stretch d.text).start := by
  obtain ⟨hle, hstop, -⟩ := splice_piece hw
  rw [← Document.take_text_replace hle hstop (w.piece d.text) .command]
  exact congrArg (·.text.take (w.stretch d.text).start) (surface_perform hw id)

/-- So the lines in front of the last one of these are still there. -/
theorem exists_lines_perform (ht : d.text ≠ []) (h : d.text.lines = xs ++ ys ++ zs)
    (hys : ys ≠ []) (hcount : (xs ++ ys).length ≤ d.text.lineCount) (body : Text) (id : RangeId) :
    ∃ rest, rest ≠ [] ∧
      ((behind (xs ++ ys).length body []).perform d id).text.lines = xs ++ rest := by
  obtain ⟨ks, l, rfl⟩ : ∃ ks l, ys = ks ++ [l] := ⟨_, _, (List.dropLast_concat_getLast hys).symm⟩
  have hbefore := before_behind ht h hcount body []
  have htake := take_text_perform (w := behind (xs ++ (ks ++ [l])).length body []) (d := d)
    Text.isLine_nil id
  generalize (behind (xs ++ (ks ++ [l])).length body []).perform d id = d' at *
  have hstart : ((behind (xs ++ (ks ++ [l])).length body []).stretch d.text).start
      = (closed (xs ++ ks) ++ l).length := by
    rw [stretch, hbefore, ← List.append_assoc]
    exact Insertion.placeBehind_append _ _
  have hcut : d.text.lines = xs ++ ks ++ l :: zs := by rw [h]; simp
  rw [hstart, Text.take_end_of_lines_eq hcut, Text.closed_append, List.append_assoc] at htake
  obtain ⟨hxs, -⟩ := Text.forall_isLine_append (List.append_assoc _ _ _ ▸ h)
  obtain ⟨rest, hrest⟩ : ∃ rest, d'.text = closed xs ++ rest := by
    refine ⟨closed ks ++ l ++ d'.text.drop (closed xs ++ (closed ks ++ l)).length, ?_⟩
    have hcutAt := List.take_append_drop (closed xs ++ (closed ks ++ l)).length d'.text
    rw [htake, List.append_assoc] at hcutAt
    exact hcutAt.symm
  refine ⟨rest.lines, Text.lines_ne_nil rest, ?_⟩
  rw [hrest, Text.lines_closed_append hxs]

/-- What the lines become that are written behind those in front of a cut. -/
theorem linesAfter_behind (ht : t ≠ []) (h : t.lines = xs ++ zs)
    (hcount : xs.length ≤ t.lineCount) (body : Text) :
    (behind xs.length body []).linesAfter t
      = xs ++ Insertion.written [] (Insertion.behindLine xs.length body) ++ zs := by
  rw [linesAfter_eq, before_behind ht h hcount, after_behind ht h hcount, lines, if_neg ht]

end LineWrite

namespace Text

variable {t : Text} {first last target : Nat} {front back : List Text}

/-- What lines become that are moved: they are written anew, unless they stay where they are. -/
def movedLines (t : Text) (first last target : Nat) : List Text :=
  if first ≤ target + 1 ∧ target ≤ last then t.lineRange first last
  else Insertion.written [] (Insertion.behindLine target (t.linesText first last))

/-- The text of lines has those lines. -/
theorem lines_linesText (h : t.lineRange first last ≠ []) :
    (t.linesText first last).lines = t.lineRange first last :=
  lines_unlines h fun _ ↦ isLine_of_mem_lineRange

/-- They are what they were exactly if no carriage return is in them, or they stay. -/
theorem movedLines_eq_iff (h : t.lineRange first last ≠ []) :
    t.movedLines first last target = t.lineRange first last ↔
      first ≤ target + 1 ∧ target ≤ last ∨ '\r' ∉ t.linesText first last := by
  by_cases hstay : first ≤ target + 1 ∧ target ≤ last
  · rw [movedLines, if_pos hstay]
    exact iff_of_true rfl (.inl hstay)
  · rw [movedLines, if_neg hstay, or_iff_right hstay, ← lines_linesText h]
    exact Insertion.written_nil_eq_iff fun hreturn ↦ Insertion.behindLine_of_not_mem hreturn target

/-- So a text with lines moved to among others has the lines that it is to have, unless there is a
carriage return in those that are moved. -/
theorem hasLinesIff_of_movedLines {u : Text} (hblock : t.lineRange first last ≠ [])
    (h : u.lines = front ++ t.movedLines first last target ++ back) :
    u.HasLinesIff (front ++ t.lineRange first last ++ back)
      (first ≤ target + 1 ∧ target ≤ last ∨ '\r' ∉ t.linesText first last) := by
  by_cases hstay : first ≤ target + 1 ∧ target ≤ last
  · rw [movedLines, if_pos hstay] at h
    exact ⟨fun _ ↦ h, fun _ ↦ .inl hstay⟩
  · rw [movedLines, if_neg hstay] at h
    rw [or_iff_right hstay, ← lines_linesText hblock]
    exact hasLinesIff_of_written h fun hreturn ↦ Insertion.behindLine_of_not_mem hreturn target

end Text

namespace Document

variable {d : Document} {first last target : Nat} {front block back xs ys zs ws : List Text}

/-- The lines that are moved stay where they are, or their text is not misplaced. It is written
before they are taken out if they go down, and afterwards if they go up. -/
def PlacesMoved (d : Document) (first last target : Nat) : Prop :=
  let d' := if last < target then d else d.deleteLines first last
  first ≤ target + 1 ∧ target ≤ last ∨
    ∀ e, (LineWrite.behind target (d.text.linesText first last) []).edit? d'.text = some e →
      ¬ d'.surface.Misplaces e.call

/-- Lines that are to go where they are stay, and the range is put on them. -/
theorem moveLines_of_stay (h : first ≤ target + 1 ∧ target ≤ last) (d : Document) (id : RangeId) :
    d.moveLines id first last target = d.moveToLines id first last := by
  have hstay : (first ≤ target ∧ target ≤ last) ∨ target + 1 = first := by omega
  rw [moveLines]
  exact if_pos hstay

/-- Lines that go down are written first. -/
theorem lines_deleteLines_perform (h : d.text.lines = xs ++ ys ++ zs ++ ws) (hys : ys ≠ [])
    (hzs : zs ≠ []) (hcount : (xs ++ ys ++ zs).length ≤ d.text.lineCount) (id : RangeId) :
    let w := LineWrite.behind (xs ++ ys ++ zs).length (unlines ys) []
    ((w.perform d id).deleteLines (xs.length + 1) (xs.length + ys.length)).text.lines
        = xs ++ (zs ++ Insertion.written []
          (Insertion.behindLine (xs ++ ys ++ zs).length (unlines ys)) ++ ws) ↔
      ∀ e, w.edit? d.text = some e → ¬ d.surface.Misplaces e.call := by
  intro w
  have ht : d.text ≠ [] := by
    intro hnil
    have hlength := congrArg List.length h
    have hys := List.length_pos_iff.mpr hys
    have hzs := List.length_pos_iff.mpr hzs
    rw [hnil, List.length_append, List.length_append, List.length_append] at hlength
    change 1 = _ at hlength
    omega
  have hafter := LineWrite.linesAfter_behind ht h hcount (unlines ys)
  -- wherever the text has gone, the lines to take out are those that were there before
  obtain ⟨rest, hrest, hwritten⟩ := LineWrite.exists_lines_perform ht h hzs hcount (unlines ys) id
  have hdeleted := lines_deleteLines hwritten hys (List.append_ne_nil_of_right_ne_nil xs hrest)
  have hiff := LineWrite.lines_perform_iff (w := w) (d := d) Text.isLine_nil id
  rw [hwritten, hafter, List.append_assoc (xs ++ ys) zs, List.append_assoc (xs ++ ys),
    List.append_cancel_left_eq] at hiff
  rw [hdeleted, List.append_cancel_left_eq]
  exact hiff

/-- Lines in front of others are counted without some that are behind both. -/
theorem lines_deleteLines_behind (h : d.text.lines = xs ++ ys ++ zs ++ ws) (hys : ys ≠ [])
    (hzs : zs ≠ []) :
    let d' := d.deleteLines ((xs ++ ys).length + 1) ((xs ++ ys).length + zs.length)
    d'.text.lines = xs ++ (ys ++ ws) ∧ xs.length ≤ d'.text.lineCount := by
  intro d'
  have hne : xs ++ ys ++ ws ≠ [] :=
    List.append_ne_nil_of_left_ne_nil (List.append_ne_nil_of_right_ne_nil xs hys) ws
  have hlines : d'.text.lines = xs ++ (ys ++ ws) := by
    rw [← List.append_assoc]
    exact lines_deleteLines h hzs hne
  exact ⟨hlines, Text.length_le_lineCount hlines (List.append_ne_nil_of_left_ne_nil hys ws)⟩

/-- Lines that go up are taken out first. -/
theorem lines_perform_deleteLines (h : d.text.lines = xs ++ ys ++ zs ++ ws) (hys : ys ≠ [])
    (hzs : zs ≠ []) (hleft : unlines (xs ++ ys ++ ws) ≠ []) (id : RangeId) :
    let w := LineWrite.behind xs.length (unlines zs) []
    let d' := d.deleteLines ((xs ++ ys).length + 1) ((xs ++ ys).length + zs.length)
    (w.perform d' id).text.lines
        = xs ++ Insertion.written [] (Insertion.behindLine xs.length (unlines zs)) ++ (ys ++ ws) ↔
      ∀ e, w.edit? d'.text = some e → ¬ d'.surface.Misplaces e.call := by
  intro w d'
  have ht : d'.text ≠ [] := text_deleteLines h hzs ▸ hleft
  obtain ⟨hlines, hcount⟩ := lines_deleteLines_behind h hys hzs
  rw [← LineWrite.linesAfter_behind ht hlines hcount]
  exact LineWrite.lines_perform_iff (w := w) (d := d') Text.isLine_nil id

private theorem length_lt_length_append (hys : ys ≠ []) : xs.length < (xs ++ ys).length := by
  rw [List.length_append]
  exact Nat.lt_add_of_pos_right (List.length_pos_iff.mpr hys)

private theorem length_add_lt_length_append (hzs : zs ≠ []) :
    xs.length + ys.length < (xs ++ ys ++ zs).length := by
  rw [← List.length_append]
  exact length_lt_length_append hzs

/-- Lines that go down, as one operation. -/
theorem moveLines_of_down (h : last < target) (hle : first ≤ last) (d : Document) (id : RangeId) :
    d.moveLines id first last target
      = (((LineWrite.behind target (d.text.linesText first last) []).perform d id).deleteLines first
          last).moveToLines id (target - (last - first + 1) + 1) target := by
  have hstay : ¬ ((first ≤ target ∧ target ≤ last) ∨ target + 1 = first) := by omega
  simp only [moveLines, if_neg hstay, if_pos h]
  rfl

theorem moveLines_of_up (h : target + 1 < first) (hle : first ≤ last) (d : Document)
    (id : RangeId) :
    d.moveLines id first last target
      = (LineWrite.behind target (d.text.linesText first last) []).perform
          (d.deleteLines first last) id := by
  have hstay : ¬ ((first ≤ target ∧ target ≤ last) ∨ target + 1 = first) := by omega
  have hdown : ¬ last < target := by omega
  simp only [moveLines, if_neg hstay, if_neg hdown]
  rfl

/-- **Moving lines.** The lines that are moved are taken out and put in behind the line they are to
go behind exactly if their text is not misplaced. Some text has to be left where they are taken
out first. -/
theorem lines_moveLines_iff (hcut : d.text.MoveCut first last target front block back)
    (htarget : target ≤ d.text.lineCount)
    (hleft : target + 1 < first →
      unlines (d.text.lines.take (first - 1) ++ d.text.lines.drop last) ≠ []) (id : RangeId) :
    (d.moveLines id first last target).text.lines
        = front ++ d.text.movedLines first last target ++ back ↔
      d.PlacesMoved first last target := by
  have htext : d.text.linesText first last = unlines block := by
    rw [Text.linesText, hcut.lineRange_eq]
  have hfirst := hcut.first_le
  rw [Text.movedLines, PlacesMoved, htext, hcut.lineRange_eq]
  cases hcut with
  | stay h hblock hle hge =>
    have hstay : front.length + 1 ≤ target + 1 ∧ target ≤ front.length + block.length :=
      ⟨Nat.succ_le_succ hle, hge⟩
    rw [moveLines_of_stay hstay, if_pos hstay]
    exact iff_of_true h (.inl hstay)
  | @down xs _ zs _ h hblock hzs =>
    have hdown : xs.length + block.length < (xs ++ block ++ zs).length :=
      length_add_lt_length_append hzs
    have hmoved := lines_deleteLines_perform h hblock hzs htarget id
    rw [← List.append_assoc, ← List.append_assoc] at hmoved
    rw [moveLines_of_down hdown hfirst, text_moveToLines, if_neg fun h ↦ Nat.not_le_of_lt hdown h.2,
      or_iff_right fun h ↦ Nat.not_le_of_lt hdown h.2, if_pos hdown, htext]
    exact hmoved
  | @up _ ys _ zs h hys hblock =>
    have hup : front.length + 1 < (front ++ ys).length + 1 :=
      Nat.succ_lt_succ (length_lt_length_append hys)
    have hdown : ¬ (front ++ ys).length + block.length < front.length := by omega
    have hrest : d.text.lines.take ((front ++ ys).length + 1 - 1)
        ++ d.text.lines.drop ((front ++ ys).length + block.length) = front ++ ys ++ zs := by
      rw [h, Nat.add_sub_cancel, List.append_assoc (front ++ ys), List.take_left,
        ← List.append_assoc, ← List.length_append, List.drop_left]
    rw [moveLines_of_up hup hfirst, if_neg fun h ↦ Nat.not_le_of_lt hup h.1,
      or_iff_right fun h ↦ Nat.not_le_of_lt hup h.1, if_neg hdown, htext]
    exact lines_perform_deleteLines h hys hblock (hrest ▸ hleft hup) id

/-- The range is put on the lines that have been moved. -/
theorem bounds_moveLines (hcut : d.text.MoveCut first last target front block back)
    (htarget : target ≤ d.text.lineCount)
    (hleft : target + 1 < first →
      unlines (d.text.lines.take (first - 1) ++ d.text.lines.drop last) ≠ [])
    (hplaces : d.PlacesMoved first last target) (hreturn : '\r' ∉ unlines block) (id : RangeId) :
    (d.moveLines id first last target).bounds id
      = ⟨(closed front).length, (closed front ++ unlines block).length⟩ := by
  have hlines := (lines_moveLines_iff hcut htarget hleft id).mpr hplaces
  have hfirst := hcut.first_le
  have htext : d.text.linesText first last = unlines block := by
    rw [Text.linesText, hcut.lineRange_eq]
  have hsame : d.text.movedLines first last target = block := by
    rw [(Text.movedLines_eq_iff (hcut.lineRange_eq ▸ hcut.block_ne_nil)).mpr
      (.inr (htext ▸ hreturn)), hcut.lineRange_eq]
  rw [hsame] at hlines
  have hcovers := Bounds.ofLines_cut hlines hcut.block_ne_nil
  rw [← hcovers]
  cases hcut with
  | stay h hblock hle hge =>
    have hstay : front.length + 1 ≤ target + 1 ∧ target ≤ front.length + block.length :=
      ⟨Nat.succ_le_succ hle, hge⟩
    rw [moveLines_of_stay hstay]
    exact bounds_moveToLines _ _ _ _
  | @down xs _ zs _ h hblock hzs =>
    have hdown : xs.length + block.length < (xs ++ block ++ zs).length :=
      length_add_lt_length_append hzs
    have hpos := List.length_pos_iff.mpr hblock
    have hstart : (xs ++ block ++ zs).length - (xs.length + block.length - (xs.length + 1) + 1) + 1
        = (xs ++ zs).length + 1 := by
      simp only [List.length_append]
      omega
    have hstop : (xs ++ block ++ zs).length = (xs ++ zs).length + block.length := by
      simp only [List.length_append]
      omega
    rw [moveLines_of_down hdown hfirst, bounds_moveToLines, text_moveToLines, hstart, hstop]
  | @up _ ys _ zs h hys hblock =>
    have hup : front.length + 1 < (front ++ ys).length + 1 :=
      Nat.succ_lt_succ (length_lt_length_append hys)
    obtain ⟨-, hcount⟩ := lines_deleteLines_behind h hys hblock
    have hbody : (unlines block).lines.length = block.length := by
      rw [← htext, Text.lines_linesText, Text.lineRange_of_lines_eq h]
      rwa [Text.lineRange_of_lines_eq h]
    rw [moveLines_of_up hup hfirst, htext]
    refine (bounds_insertLines _ id _ _ _).trans ?_
    rw [Nat.min_eq_left hcount, hbody]
    rfl

/-! ## Surfaces that misplace nothing -/

/-- Which text is misplaced depends on nothing but the surface. -/
theorem placesMoved_congr {d' : Document} (h : d'.surface = d.surface) (first last target : Nat) :
    d'.PlacesMoved first last target ↔ d.PlacesMoved first last target := by
  have hwritten : (if last < target then d' else d'.deleteLines first last).surface
      = (if last < target then d else d.deleteLines first last).surface := by
    split
    · exact h
    · exact surface_deleteLines_congr h first last
  simp only [PlacesMoved, text, hwritten, h]

theorem placesMoved_of_isReliable (hd : d.surface.IsReliable) (first last target : Nat) :
    d.PlacesMoved first last target := by
  refine .inr fun e _ ↦ Surface.obeys_iff.mp (Surface.IsReliable.obeys ?_ e.call)
  split
  · exact hd
  · exact reliable_replace hd _ _ _ _

/-- Lines are written behind others and taken out where they were. -/
theorem lines_deleteLines_perform_of_isReliable (hd : d.surface.IsReliable) (hfirst : 1 ≤ first)
    (hle : first ≤ last) (hlast : last ≤ min target d.text.lineCount) (ht : d.text ≠ [])
    (body : Text) (id : RangeId) :
    let n := min target d.text.lineCount
    (((LineWrite.behind target body []).perform d id).deleteLines first last).text.lines
      = d.text.stayingTo first last n ++ Insertion.written [] (Insertion.behindLine target body)
        ++ d.text.stayingFrom first last n := by
  intro n
  have hcount := d.text.lineCount_le_length_lines
  have hwritten : ((LineWrite.behind target body []).perform d id).text.lines
      = d.text.lines.take n ++ Insertion.written [] (Insertion.behindLine target body)
        ++ d.text.lines.drop n := by
    refine ((LineWrite.lines_perform_iff (w := .behind target body []) Text.isLine_nil id).mpr
      fun e _ ↦ Surface.obeys_iff.mp (hd.obeys e.call)).trans ?_
    simp only [LineWrite.linesAfter_eq, LineWrite.before, LineWrite.lines, LineWrite.after,
      if_neg ht]
    rfl
  -- the lines to take out are among those in front
  have hend : last ≤ d.text.lines.length :=
    Nat.le_trans hlast (Nat.le_trans (Nat.min_le_right _ _) hcount)
  have hlength := d.text.length_lineRange hfirst (Nat.le_succ_of_le hle) hend
  have hstart : (d.text.lines.take (first - 1)).length = first - 1 := by
    rw [List.length_take]
    omega
  have hfront : d.text.lines.take n = d.text.lines.take (first - 1) ++ d.text.lineRange first last
      ++ (d.text.lines.take n).drop last := by
    rw [← Text.take_lines_eq hfirst (Nat.le_succ_of_le hle) hend]
    have hcut := List.take_append_drop last (d.text.lines.take n)
    rw [List.take_take, Nat.min_eq_left hlast] at hcut
    exact hcut.symm
  have hne : d.text.lineRange first last ≠ [] := by
    rw [← List.length_pos_iff]
    omega
  rw [hfront, List.append_assoc, List.append_assoc] at hwritten
  have hdeleted := lines_deleteLines hwritten hne (List.append_ne_nil_of_right_ne_nil _
    (List.append_ne_nil_of_right_ne_nil _ (List.append_ne_nil_of_left_ne_nil
      (Insertion.written_ne_nil _ _) _)))
  rw [hstart, hlength, Nat.sub_add_cancel hfirst,
    show first - 1 + (last + 1 - first) = last by omega] at hdeleted
  have hshort : (d.text.lines.take (first - 1)).length ≤ n := by
    rw [hstart]
    omega
  rw [hdeleted, Text.stayingTo, Text.stayingFrom, List.take_of_length_le hshort,
    List.drop_of_length_le hshort, Nat.max_eq_right hlast]
  simp only [n, List.nil_append, List.append_assoc]

/-- There a block goes behind any line of the text, as far as lines are counted, and carriage
returns in it become separators. -/
theorem lines_moveLines_of_isReliable (hd : d.surface.IsReliable) (hfirst : 1 ≤ first)
    (hle : first ≤ last) (hlast : last ≤ d.text.lines.length)
    (htarget : target ≤ d.text.lines.length)
    (hleft : target + 1 < first →
      unlines (d.text.lines.take (first - 1) ++ d.text.lines.drop last) ≠ []) (id : RangeId) :
    let n := min target d.text.lineCount
    (d.moveLines id first last target).text.lines
      = d.text.stayingTo first last n ++ d.text.movedLines first last target
        ++ d.text.stayingFrom first last n := by
  intro n
  have hn : n ≤ d.text.lines.length := Nat.le_trans (Nat.min_le_left _ _) htarget
  have hcut := Text.moveCut hfirst hle hlast hn
  rcases Nat.lt_or_ge d.text.lineCount target with hbehind | hcounted
  · have hn : n = d.text.lineCount := Nat.min_eq_right (Nat.le_of_lt hbehind)
    have hcount := d.text.length_lines_le_lineCount_succ
    by_cases hstay : first ≤ target + 1 ∧ target ≤ last
    · rw [moveLines_of_stay hstay, Text.movedLines, if_pos hstay]
      exact hcut.lines_eq (by omega)
    · -- the lines are written behind the last one that is counted
      have hdown : last < target := by omega
      rw [moveLines_of_down hdown hle, text_moveToLines, Text.movedLines, if_neg hstay]
      have ht : d.text ≠ [] := by
        intro hnil
        have hlength : d.text.lines.length = 1 := congrArg (·.lines.length) hnil
        omega
      exact lines_deleteLines_perform_of_isReliable hd hfirst hle (by omega) ht _ id
  · have hn : n = target := Nat.min_eq_left hcounted
    rw [hn] at hcut ⊢
    exact (lines_moveLines_iff hcut hcounted hleft id).mpr (placesMoved_of_isReliable hd _ _ _)

end Document

end LineEditor
