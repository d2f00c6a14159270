import LineEditor.Proofs.Document.Replacing

/-!
# Writing through a range

The bounds of a range are cut to the text only where they are used, so they may point anywhere when
a text is written through it. What is written is prepared first: its line breaks are turned into
separators, and lines that it begins are indented. On a flat surface the prepared text then takes
the place of what the range held, and the range covers it.

If the range is tracked, the edit moves it before its bounds are set. This leaves no trace, for they
are set to what was worked out in front of the edit.
-/

namespace LineEditor

namespace Insertion

open Text (separator)

variable {indent piece : Text} {c : Char}

/-- A text is written the same whichever line breaks it comes with. -/
theorem prepare_brokenBy {br : Text} (hbr : br ∈ Text.lineBreaks) (t : Text) (start : Nat)
    (indent piece : Text) :
    prepare t start indent (piece.normalizeBreaks.brokenBy br) = prepare t start indent piece := by
  rw [prepare, prepare, Text.normalizeBreaks_brokenBy piece.not_mem_normalizeBreaks hbr]

theorem mem_of_mem_indentLine {l : Text} (h : c ∈ indentLine indent l) : c ∈ indent ∨ c ∈ l := by
  rw [indentLine] at h
  split at h
  · exact absurd h List.not_mem_nil
  · exact List.mem_append.mp h

/-- Indenting adds no characters but those of the indentation. -/
theorem mem_of_mem_indentLines (hc : c ≠ separator) {fromStart : Bool}
    (h : c ∈ indentLines indent fromStart piece) : c ∈ indent ∨ c ∈ piece := by
  obtain ⟨first, later, hlines⟩ := List.exists_cons_of_ne_nil piece.lines_ne_nil
  change piece.lines = first :: later at hlines
  have hline : ∀ l ∈ first :: later, c ∈ l → c ∈ piece := fun l hl hmem ↦
    (Text.mem_iff_mem_lines hc).mpr ⟨l, hlines ▸ hl, hmem⟩
  simp only [indentLines, hlines, Text.unlines_cons, List.mem_append, Text.opened,
    List.mem_flatMap] at h
  rcases h with h | ⟨k, hk, hmem⟩
  · have hfirst : c ∈ indent ∨ c ∈ first := by
      split at h
      · exact mem_of_mem_indentLine h
      · exact .inr h
    exact hfirst.imp_right (hline first List.mem_cons_self)
  · obtain ⟨l, hl, rfl⟩ := List.mem_map.mp hk
    have hlater := mem_of_mem_indentLine ((List.mem_cons.mp hmem).resolve_left hc)
    exact hlater.imp_right (hline l (List.mem_cons_of_mem first hl))

/-- No carriage return is written but those of the indentation. -/
theorem not_mem_prepare (h : '\r' ∉ indent) (t : Text) (start : Nat) (piece : Text) :
    '\r' ∉ prepare t start indent piece := by
  rw [prepare]
  split
  · exact piece.not_mem_normalizeBreaks
  · intro hmem
    rcases mem_of_mem_indentLines (by decide) hmem with hmem | hmem
    · exact h hmem
    · exact piece.not_mem_normalizeBreaks hmem

end Insertion

namespace Document

variable {d : Document}

/-- A range whose bounds are set to those of a stretch covers it. -/
theorem covers_moveTo {x y z : Text} (h : d.text = x ++ y ++ z) (id : RangeId) :
    let d' := d.moveTo id ⟨x.length, x.length + y.length⟩
    d'.bounds id = ⟨x.length, x.length + y.length⟩ ∧ d'.textOf id = y := by
  intro d'
  have hle : x.length ≤ x.length + y.length := Nat.le_add_right _ _
  have hstop : x.length + y.length ≤ d'.text.length := by
    rw [text_moveTo, h, List.length_append, List.length_append]
    exact Nat.le_add_right _ _
  have hbounds : d'.bounds id = ⟨x.length, x.length + y.length⟩ := bounds_moveTo hle hstop id
  refine ⟨hbounds, ?_⟩
  have hclamp : (Bounds.mk x.length (x.length + y.length)).clamp d'.length
      = ⟨x.length, x.length + y.length⟩ := Bounds.clamp_of_le hle hstop
  have hslice : d'.textOf id = d'.text.slice x.length (x.length + y.length) := by
    simp only [textOf, slice, hbounds, hclamp]
    rfl
  rw [hslice, text_moveTo, h, Text.slice, Nat.max_eq_right hle, ← List.length_append,
    List.take_left, List.drop_left]

/-- **Writing through a range.** On a flat surface, whatever the bounds of the range are, the text
prepared for its place stands afterwards between what was in front of the bounds, cut to the text,
and what was behind them; the range covers it and reads back as that text. There is no carriage
return in it unless the indentation has one, and it is the same whichever line breaks the text to be
written comes with. A text without carriage returns is one with separators already, and without an
indentation it is written as it is. -/
theorem write_overwrites (hd : d.surface.IsFlat) (id : RangeId) (piece : Text) (kind : EditKind)
    (indent : Text) :
    let b := (d.ranges.get id).bounds.clamp d.length
    let prepared := Insertion.prepare d.text b.start indent piece
    let d' := (d.write id piece kind indent).2
    d'.text = d.text.take b.start ++ prepared ++ d.text.drop b.stop ∧
      d'.bounds id = ⟨b.start, b.start + prepared.length⟩ ∧
      d'.textOf id = prepared ∧
      ('\r' ∉ indent → '\r' ∉ prepared) ∧
      (∀ br ∈ Text.lineBreaks,
        Insertion.prepare d.text b.start indent (piece.normalizeBreaks.brokenBy br) = prepared) ∧
      ('\r' ∉ piece → piece.normalizeBreaks = piece ∧ (indent = [] → prepared = piece)) := by
  intro b prepared d'
  have hle : b.start ≤ b.stop := (d.ranges.get id).bounds.clamp_start_le d.length
  have hstop : b.stop ≤ d.length := (d.ranges.get id).bounds.clamp_stop_le d.length
  have hclamp : (Bounds.mk b.start b.stop).clamp d.length = b := Bounds.clamp_of_le hle hstop
  have hfront : (d.text.take b.start).length = b.start :=
    List.length_take_of_le (Nat.le_trans hle hstop)
  have htext : (d.replace b.start b.stop prepared kind).2.text
      = d.text.take b.start ++ prepared ++ d.text.drop b.stop := by
    rw [text_replace hd, hclamp]
  -- the bounds are set behind the edit, so where the edit has moved the range does not matter
  have hwritten : d' = (d.replace b.start b.stop prepared kind).2.moveTo id
      ⟨b.start, b.start + prepared.length⟩ := rfl
  have hcovers := covers_moveTo htext id
  rw [hfront, ← hwritten] at hcovers
  refine ⟨htext, hcovers.1, hcovers.2, ?_, ?_, ?_⟩
  · intro hindent
    exact Insertion.not_mem_prepare hindent d.text b.start piece
  · intro br hbr
    exact Insertion.prepare_brokenBy hbr d.text b.start indent piece
  · intro hreturn
    refine ⟨Text.normalizeBreaks_of_not_mem hreturn, ?_⟩
    rintro rfl
    exact Text.normalizeBreaks_of_not_mem hreturn

/-- Inverted bounds that reach beyond the text, of a tracked range: what is written goes behind the
last separator and is indented there. -/
theorem write_overwrites_tracked :
    let r := (ofSurface (.ofField "a\n".toList) {}).moveTo 0 ⟨9, 1⟩
    let d := { r with ranges := r.ranges.track 0 }
    let d' := (d.write 0 "b\r\nc\rd".toList .command "  ".toList).2
    d.ranges.isTracked 0 = true ∧ d'.text = "a\n  b\n  c\n  d".toList ∧
      d'.textOf 0 = "  b\n  c\n  d".toList ∧ d'.bounds 0 = ⟨2, 13⟩ := by
  intro r d d'
  have hflat : d.surface.IsFlat := trivial
  obtain ⟨htext, hbounds, hread, -⟩ :=
    write_overwrites hflat 0 "b\r\nc\rd".toList .command "  ".toList
  exact ⟨by decide, htext.trans (by decide), hread.trans (by decide), hbounds.trans (by decide)⟩

end Document

end LineEditor
