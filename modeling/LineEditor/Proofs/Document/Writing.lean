import LineEditor.Proofs.Document.Covering

/-!
# Lines written to any surface

What writing lines does to the list of lines of a text can be said without a word about offsets.
How it is done is another matter. There are three ways to insert lines, in an empty text, in front
of the first line and behind the end of a line, and one to put lines in place of others; but each
comes down to one replacement, of a stretch by a piece that is worked out from the text alone.

So whatever the surface, one call to it is made at most, and the lines are those they are to be
exactly if this call does not misplace its text.
-/

namespace LineEditor

open Text (closed opened unlines separator)

namespace Document

/-- Where a range is set before makes no difference to what a replacement does to the surface. -/
theorem surface_moveTo_replace (d : Document) (id : RangeId) (b : Bounds) (start stop : Nat)
    (piece : Text) (kind : EditKind) :
    ((d.moveTo id b).replace start stop piece kind).2.surface
      = (d.replace start stop piece kind).2.surface :=
  surface_replace_congr (d.surface_moveTo id b) start stop piece kind

end Document

/-- What is written without an indentation is what was given exactly if no carriage return is in
it. -/
theorem Insertion.written_nil_eq_iff {piece body : Text} (h : '\r' ∉ body → piece = body) :
    Insertion.written [] piece = body.lines ↔ '\r' ∉ body := by
  rw [Insertion.written_nil]
  constructor
  · intro hlines
    have hbody : piece.normalizeBreaks = body := by
      rw [← Text.unlines_lines piece.normalizeBreaks, hlines, Text.unlines_lines]
    exact hbody ▸ Text.not_mem_normalizeBreaks piece
  · intro hbody
    rw [h hbody, Text.normalizeBreaks_of_not_mem hbody]

namespace Text

/-- The lines of a text with others put in behind line `n`, or behind the last one that is counted.
Of an empty text no line stays. -/
def linesWith (t : Text) (n : Nat) (new : List Text) : List Text :=
  if t = [] then new
  else t.lines.take (min n t.lineCount) ++ new ++ t.lines.drop (min n t.lineCount)

/-- They are the lines of the text and the others. -/
theorem perm_linesWith {t : Text} (ht : t ≠ []) (n : Nat) (new : List Text) :
    (t.linesWith n new).Perm (new ++ t.lines) := by
  rw [linesWith, if_neg ht]
  have hfront : (t.lines.take (min n t.lineCount) ++ new).Perm
      (new ++ t.lines.take (min n t.lineCount)) := List.perm_append_comm
  have hperm := hfront.append_right (t.lines.drop (min n t.lineCount))
  rwa [List.append_assoc new, List.take_append_drop] at hperm

/-- If `p`, the text has lines `ls`. If not, it does not have them in any order. -/
def HasLinesIff (t : Text) (ls : List Text) (p : Prop) : Prop :=
  (p → t.lines = ls) ∧ (t.lines.Perm ls → p)

/-- Lines that are written among others arrive as they were exactly if no carriage return is in
them. -/
theorem hasLinesIff_of_written {t piece body : Text} {xs zs : List Text}
    (h : t.lines = xs ++ Insertion.written [] piece ++ zs) (hpiece : '\r' ∉ body → piece = body) :
    t.HasLinesIff (xs ++ body.lines ++ zs) ('\r' ∉ body) := by
  constructor
  · intro hreturn
    rw [h, (Insertion.written_nil_eq_iff hpiece).mpr hreturn]
  · intro hperm hreturn
    rw [h, List.perm_append_right_iff, List.perm_append_left_iff, Insertion.written_nil] at hperm
    -- the line with the carriage return is not among those written
    have hne : '\r' ≠ separator := by decide
    obtain ⟨l, hl, hmem⟩ := (mem_iff_mem_lines hne).mp hreturn
    exact not_mem_normalizeBreaks piece
      ((mem_iff_mem_lines hne).mpr ⟨l, hperm.mem_iff.mpr hl, hmem⟩)

end Text

namespace LineWrite

variable {d : Document} {t : Text} {w : LineWrite}

/-! ## As an operation on the list of lines -/

/-- The lines of the text afterwards. Lines go behind line `n`, or behind the last one that is
counted if there are not so many, and take the place of an empty text. In front of all lines, the
text of those written is closed by a separator before its line breaks are turned into separators. -/
def linesAfter (w : LineWrite) (t : Text) : List Text :=
  match w with
  | behind n body indent =>
    if t = [] then body.normalizeBreaks.lines.map (Insertion.indentLine indent)
    else
      let n := min n t.lineCount
      let body : Text :=
        if n = 0 then (body ++ [separator]).normalizeBreaks.dropLast else body.normalizeBreaks
      t.lines.take n ++ body.lines.map (Insertion.indentLine indent) ++ t.lines.drop n
  | inPlace first last body indent =>
    t.lines.take (first - 1) ++ body.normalizeBreaks.lines.map (Insertion.indentLine indent)
      ++ t.lines.drop last

/-- They are the lines written, between those that stay. -/
theorem linesAfter_eq (w : LineWrite) (t : Text) :
    w.linesAfter t = w.before t ++ w.lines t ++ w.after t := by
  cases w with
  | behind n body indent =>
    by_cases ht : t = []
    · simp only [linesAfter, before, lines, after, if_pos ht, List.nil_append, List.append_nil]
      rfl
    · have hbody : (if n = 0 then (body ++ [separator]).normalizeBreaks.dropLast
          else body.normalizeBreaks) = (Insertion.behindLine n body).normalizeBreaks := by
        rw [Insertion.behindLine]
        split
        · rw [Text.normalizeBreaks_append_separator, List.dropLast_concat]
        · rfl
      simp only [linesAfter, before, lines, after, if_neg ht,
        Insertion.min_lineCount_eq_zero_iff, hbody]
      rfl
  | inPlace => rfl

/-- Lines are put in as they are exactly if no carriage return is in their text. -/
theorem hasLinesIff_of_linesAfter {u : Text} {n : Nat} {body : Text}
    (h : u.lines = (behind n body []).linesAfter t) :
    u.HasLinesIff (t.linesWith n body.lines) ('\r' ∉ body) := by
  rw [linesAfter_eq] at h
  rw [Text.linesWith]
  by_cases ht : t = []
  · simp only [before, lines, after, if_pos ht] at h
    rw [if_pos ht, ← List.nil_append body.lines, ← List.append_nil ([] ++ body.lines)]
    exact Text.hasLinesIff_of_written h fun _ ↦ rfl
  · simp only [before, lines, after, if_neg ht] at h
    rw [if_neg ht]
    exact Text.hasLinesIff_of_written h fun hreturn ↦ Insertion.behindLine_of_not_mem hreturn n

/-! ## As a replacement -/

/-- The stretch of the text in whose place the lines are put. -/
def stretch (w : LineWrite) (t : Text) : Bounds :=
  match w with
  | behind _ _ _ => .collapsed (Insertion.placeBehind (w.before t))
  | inPlace first last _ _ => .inLines t first last

/-- What is put there: the text of the lines, with a separator in front of it or behind it where
lines stay. -/
def piece (w : LineWrite) (t : Text) : Text :=
  match w with
  | behind _ _ _ =>
    if t = [] then unlines (w.lines t) else Insertion.pieceBehind (w.before t) (w.lines t)
  | inPlace _ _ _ _ => unlines (w.lines t)

/-- The edit that is made, if there is anything to edit. -/
def edit? (w : LineWrite) (t : Text) : Option Edit :=
  (Edit.between (t.slice (w.stretch t).start (w.stretch t).stop) (w.piece t)).map
    (·.shift (w.stretch t).start)

/-- The stretch is one of the text, and what is put in its place makes the text afterwards. -/
theorem splice_piece (hw : w.Fits t) :
    (w.stretch t).start ≤ (w.stretch t).stop ∧ (w.stretch t).stop ≤ t.length ∧
      t.take (w.stretch t).start ++ w.piece t ++ t.drop (w.stretch t).stop = w.result t := by
  cases w with
  | behind n body indent =>
    by_cases ht : t = []
    · subst ht
      refine ⟨Nat.le_refl _, Nat.le_refl 0, ?_⟩
      simp only [piece, result, before, lines, after, if_true, List.take_nil, List.drop_nil,
        List.nil_append, List.append_nil]
    · obtain ⟨hcut, -⟩ := cut_behind t n
      -- behind no line at all there are some
      have hafter : t.lines.take (min n t.lineCount) = [] →
          t.lines.drop (min n t.lineCount) ≠ [] := by
        intro hnil
        rw [hnil, List.nil_append] at hcut
        rw [← hcut]
        exact t.lines_ne_nil
      obtain ⟨hplace, hsplice⟩ := Insertion.splice_pieceBehind hcut hafter
        (lines_ne_nil (behind n body indent) t)
      simp only [stretch, piece, result, before, after, if_neg ht]
      exact ⟨Nat.le_refl _, hplace, hsplice⟩
  | inPlace first last body indent =>
    obtain ⟨hcut, hne, hfirst, hlast⟩ := cut_inPlace hw
    have hbounds := Bounds.inLines_cut hcut hne
    rw [hlast, hfirst] at hbounds
    simp only [stretch, hbounds]
    exact Text.splice_lines hcut hne (lines_ne_nil (inPlace first last body indent) t)

/-- Writing lines does to the surface what one replacement does. -/
theorem surface_perform (hw : w.Fits d.text) (id : RangeId) :
    (w.perform d id).surface
      = (d.replace (w.stretch d.text).start (w.stretch d.text).stop (w.piece d.text)
          .command).2.surface := by
  cases w with
  | behind n body indent =>
    by_cases ht : d.text = []
    · have hwrite := Document.write_moveTo (b := .collapsed 0) (Nat.le_refl 0) (Nat.zero_le _) id
        body .command indent (d := d)
      rw [Bounds.collapsed, Insertion.prepare_of_lineStart rfl] at hwrite
      simp only [perform, Document.insertLines, stretch, piece, before, lines, if_pos ht]
      rw [Document.surface_moveToLines, Bounds.collapsed, hwrite, Document.surface_moveTo,
        Document.surface_moveTo_replace]
      rfl
    · obtain ⟨hcut, hlength⟩ := cut_behind d.text n
      have hcount : (d.text.lines.take (min n d.text.lineCount)).length ≤ d.text.lineCount := by
        rw [hlength]
        exact Nat.min_le_right _ _
      have hinsert := Document.insertLines_eq ht hcut hcount id body indent
      rw [hlength, d.insertLines_min, Insertion.behindLine_min] at hinsert
      simp only [perform, stretch, piece, before, lines, if_neg ht]
      rw [hinsert, Document.surface_moveToLines, Document.surface_moveTo,
        Document.surface_moveTo_replace]
      rfl
  | inPlace first last body indent =>
    obtain ⟨hcut, hne, hfirst, hlast⟩ := cut_inPlace hw
    have hchange := Document.changeLines_eq hcut hne id body indent
    have hbounds := Bounds.inLines_cut hcut hne
    rw [hlast, hfirst] at hchange hbounds
    simp only [perform, stretch, hbounds]
    rw [hchange, Document.surface_moveToLines, Document.surface_moveTo,
      Document.surface_moveTo_replace]
    rfl

/-- The edit made by this replacement. -/
theorem fst_replace_stretch (hw : w.Fits d.text) (kind : EditKind) :
    (d.replace (w.stretch d.text).start (w.stretch d.text).stop (w.piece d.text) kind).1
      = w.edit? d.text := by
  obtain ⟨hle, hstop, -⟩ := splice_piece hw
  have hclamp : (Bounds.mk (w.stretch d.text).start (w.stretch d.text).stop).clamp d.length
      = w.stretch d.text := Bounds.clamp_of_le hle hstop
  rw [Document.fst_replace, hclamp, edit?]

/-- Writing lines makes the lines that it is to make exactly if the edit does not misplace its
text. -/
theorem lines_perform_iff (hw : w.Fits d.text) (id : RangeId) :
    (w.perform d id).text.lines = w.linesAfter d.text ↔
      ∀ e, w.edit? d.text = some e → ¬ d.surface.Misplaces e.call := by
  obtain ⟨hle, hstop, hsplice⟩ := splice_piece hw
  have htext : (w.perform d id).text
      = (d.replace (w.stretch d.text).start (w.stretch d.text).stop (w.piece d.text)
          .command).2.text := congrArg Surface.text (surface_perform hw id)
  have hlines : (w.perform d id).text.lines = w.linesAfter d.text ↔
      (w.perform d id).text = w.result d.text := by
    rw [linesAfter_eq, ← lines_result hw]
    constructor
    · intro hsame
      rw [← Text.unlines_lines (w.perform d id).text, hsame, Text.unlines_lines]
    · intro hsame
      rw [hsame]
  rw [hlines, htext, ← hsplice, Document.text_replace_iff hle hstop, fst_replace_stretch hw]

/-! ## Where text is misplaced -/

/-- Even then the text has the characters that it is to have. -/
theorem perm_text_perform (hw : w.Fits d.text) (id : RangeId) :
    (w.perform d id).text.Perm (w.result d.text) := by
  obtain ⟨hle, hstop, hsplice⟩ := splice_piece hw
  have htext : (w.perform d id).text
      = (d.replace (w.stretch d.text).start (w.stretch d.text).stop (w.piece d.text)
          .command).2.text := congrArg Surface.text (surface_perform hw id)
  rw [htext, ← hsplice]
  exact Document.perm_text_replace hle hstop _ _

/-- And as many lines as it is to have. -/
theorem length_lines_perform (hw : w.Fits d.text) (id : RangeId) :
    (w.perform d id).text.lines.length
      = (w.before d.text).length + (w.lines d.text).length + (w.after d.text).length := by
  rw [Text.length_lines, (perm_text_perform hw id).count_eq, ← Text.length_lines, lines_result hw,
    List.length_append, List.length_append]

variable {n : Nat} {body body' : Text}

/-- The same lines are put in the same place. -/
theorem text_perform_behind_congr
    (h : (behind n body' []).lines d.text = (behind n body []).lines d.text) (id : RangeId) :
    ((behind n body' []).perform d id).text = ((behind n body []).perform d id).text := by
  have hsurface (body : Text) := surface_perform (w := behind n body []) (d := d) Text.isLine_nil id
  have hpiece : (behind n body' []).piece d.text = (behind n body []).piece d.text := by
    simp only [piece, before, h]
  have hstretch : (behind n body' []).stretch d.text = (behind n body []).stretch d.text := rfl
  refine congrArg Surface.text ((hsurface body').trans ?_)
  rw [hpiece, hstretch, ← hsurface body]

/-- Where lines make the same text, they have as many characters. -/
theorem length_unlines_of_text_perform_behind {id : RangeId}
    (h : ((behind n body' []).perform d id).text = ((behind n body []).perform d id).text) :
    (unlines ((behind n body' []).lines d.text)).length
      = (unlines ((behind n body []).lines d.text)).length := by
  have hresult (body : Text) : ((behind n body []).perform d id).text.length
      = (closed ((behind n body []).before d.text)).length
        + (unlines ((behind n body []).lines d.text)).length
        + (opened ((behind n body []).after d.text)).length := by
    have hperm := perm_text_perform (w := behind n body []) (d := d) Text.isLine_nil id
    rw [hperm.length_eq, result, Text.unlines_append_append (lines_ne_nil _ _),
      List.length_append, List.length_append]
  have hlength := congrArg List.length h
  rw [hresult body', hresult body] at hlength
  simp only [before, after] at hlength
  omega

end LineWrite

end LineEditor
