import LineEditor.Proofs.Document.LineEdits

/-!
# Lines put in place of others

Two commands work out new lines from those that they are given and put them in their place, without
going through a range: the text of the old lines is replaced by that of the new ones. One edit is
made for it, or none if both are the same; and the lines are those that they are to be exactly if
this edit does not misplace its text.
-/

namespace LineEditor

open Text (closed unlines separator IsLine)

/-- Between the lines in front of a cut and those behind it is the text of its lines. -/
theorem Text.slice_cut {t : Text} {xs ys zs : List Text} (h : t.lines = xs ++ ys ++ zs)
    (hys : ys ≠ []) : t.slice (closed xs).length (closed xs ++ unlines ys).length = unlines ys := by
  have hle : (closed xs).length ≤ (closed xs ++ unlines ys).length :=
    (List.prefix_append _ _).length_le
  rw [eq_of_lines_eq_append h hys, slice, Nat.max_eq_right hle, List.take_left, List.drop_left]

/-- Where as many lines are put in place of some, they have the numbers of these. -/
theorem Text.lineRange_of_exchange {t u : Text} {first last : Nat} {new : List Text}
    (hfirst : 1 ≤ first) (hle : first ≤ last) (hlast : last ≤ t.lines.length)
    (hlength : new.length = (t.lineRange first last).length)
    (h : u.lines = t.lines.take (first - 1) ++ new ++ t.lines.drop last) :
    u.lines.take (first - 1) = t.lines.take (first - 1) ∧ u.lineRange first last = new ∧
      u.lines.drop last = t.lines.drop last := by
  have hfront : (t.lines.take (first - 1)).length = first - 1 :=
    List.length_take_of_le (by omega)
  have hblock : (t.lines.take (first - 1) ++ new).length = last := by
    rw [List.length_append, hfront, hlength,
      t.length_lineRange hfirst (Nat.le_succ_of_le hle) hlast]
    omega
  have hrange := lineRange_of_lines_eq h
  rw [← List.length_append, hblock, hfront, Nat.sub_add_cancel hfirst] at hrange
  refine ⟨?_, hrange, ?_⟩
  · rw [h, List.append_assoc]
    exact List.take_left' hfront
  · rw [h]
    exact List.drop_left' hblock

/-- The edit that puts lines in place of lines `first` to `last`, if it changes anything. -/
def Text.exchange? (t : Text) (first last : Nat) (new : List Text) : Option Edit :=
  (Edit.between (t.linesText first last) (unlines new)).map
    (·.shift (Bounds.inLines t first last).start)

namespace Document

variable {d : Document} {first last : Nat} {new : List Text}

/-- The edit that puts lines in place of others does not misplace its text. -/
def PlacesLines (d : Document) (first last : Nat) (new : List Text) : Prop :=
  ∀ e, d.text.exchange? first last new = some e → ¬ d.surface.Misplaces e.call

/-- On a flat surface it never does. -/
theorem placesLines_of_isFlat (h : d.surface.IsFlat) (first last : Nat) (new : List Text) :
    d.PlacesLines first last new := fun e _ ↦ h.not_misplaces e.call

/-- The bounds of lines between numbers, of which there is at least one. -/
theorem inLines_lineRange (hfirst : 1 ≤ first) (hle : first ≤ last)
    (hlast : last ≤ d.text.lines.length) :
    d.text.lineRange first last ≠ [] ∧
      Bounds.inLines d.text first last
        = ⟨(closed (d.text.lines.take (first - 1))).length,
          (closed (d.text.lines.take (first - 1)) ++ d.text.linesText first last).length⟩ := by
  have hcut := d.text.lines_eq_lineRange hfirst (Nat.le_succ_of_le hle)
  have hlength := d.text.length_lineRange hfirst (Nat.le_succ_of_le hle) hlast
  have hfront : (d.text.lines.take (first - 1)).length = first - 1 :=
    List.length_take_of_le (by omega)
  have hne : d.text.lineRange first last ≠ [] := by
    rw [← List.length_pos_iff]
    omega
  have hbounds := Bounds.inLines_cut hcut hne
  rw [hfront, hlength, Nat.sub_add_cancel hfirst,
    show first - 1 + (last + 1 - first) = last by omega] at hbounds
  exact ⟨hne, hbounds⟩

/-- Putting lines in place of others makes the lines that it is to make exactly if the edit does not
misplace its text. -/
theorem lines_edit_iff (hfirst : 1 ≤ first) (hle : first ≤ last)
    (hlast : last ≤ d.text.lines.length) (hnew : new ≠ []) (hlines : ∀ l ∈ new, IsLine l) :
    (d.edit (.inLines d.text first last) (unlines new)).text.lines
        = d.text.lines.take (first - 1) ++ new ++ d.text.lines.drop last ↔
      d.PlacesLines first last new := by
  have hcut := d.text.lines_eq_lineRange hfirst (Nat.le_succ_of_le hle)
  obtain ⟨hne, hbounds⟩ := inLines_lineRange hfirst hle hlast
  obtain ⟨hstart, hstop, hsplice⟩ := Text.splice_lines hcut hne hnew
  have hslice := Text.slice_cut hcut hne
  have hplaced : d.PlacesLines first last new ↔
      (d.edit (.inLines d.text first last) (unlines new)).text
        = unlines (d.text.lines.take (first - 1) ++ new ++ d.text.lines.drop last) := by
    have hclamp : (Bounds.mk _ _).clamp d.length = _ := Bounds.clamp_of_le hstart hstop
    have hreplace := text_replace_iff (b := ⟨_, _⟩) hstart hstop (unlines new) .command
    rw [hsplice, fst_replace] at hreplace
    simp only [hclamp, hslice] at hreplace
    rw [edit, PlacesLines, Text.exchange?, hbounds]
    exact hreplace.symm
  have hall : ∀ l ∈ d.text.lines.take (first - 1) ++ new ++ d.text.lines.drop last, IsLine l := by
    refine List.forall_mem_append.mpr ⟨List.forall_mem_append.mpr ⟨fun l hl ↦ ?_, hlines⟩,
      fun l hl ↦ ?_⟩
    · exact Text.isLine_of_mem_lines (List.mem_of_mem_take hl)
    · exact Text.isLine_of_mem_lines (List.mem_of_mem_drop hl)
  have hsome : d.text.lines.take (first - 1) ++ new ++ d.text.lines.drop last ≠ [] :=
    List.append_ne_nil_of_left_ne_nil (List.append_ne_nil_of_right_ne_nil _ hnew) _
  rw [hplaced]
  constructor
  · intro hsame
    rw [← hsame, Text.unlines_lines]
  · intro hsame
    rw [hsame, Text.lines_unlines hsome hall]

end Document

end LineEditor
