import LineEditor.Proofs.Document.LineEdits

/-!
# Covering the lines written

An operation that writes lines leaves its range on them. Where they will be is not read off the
text: it is worked out in advance, from the number of the line that they go to and from how many
lines the text given has. What is written may have more lines, since carriage returns that stand
alone become separators; and the only line of an empty text is not kept, so that lines put behind it
come to stand in its place. Otherwise the range covers exactly the lines written.
-/

namespace LineEditor

open Text (closed opened unlines separator IsLine)

/-! ## Bounds of some of the lines -/

namespace Bounds

variable {t : Text} {xs ys zs : List Text} {n : Nat}

/-- The bounds of the first few of some lines are those of all of them only if they are all. -/
theorem ofLines_eq_iff (h : t.lines = xs ++ ys ++ zs) (hn : 0 < n) (hle : n ≤ ys.length) :
    ofLines t (xs.length + 1 : Nat) (xs.length + n : Nat)
        = ⟨(closed xs).length, (closed xs ++ unlines ys).length⟩ ↔ n = ys.length := by
  have hne : ys.take n ≠ [] := by
    rw [← List.length_pos_iff, List.length_take]
    omega
  have hcut : t.lines = xs ++ ys.take n ++ (ys.drop n ++ zs) := by
    rw [h, List.append_assoc, List.append_assoc, ← List.append_assoc (ys.take n),
      List.take_append_drop]
  have hlength : (ys.take n).length = n := by rw [List.length_take]; omega
  have hbounds := ofLines_cut hcut hne
  have hunlines : unlines ys = unlines (ys.take n) ++ opened (ys.drop n) := by
    rw [← Text.unlines_append_opened hne, List.take_append_drop]
  rw [hlength] at hbounds
  rw [hbounds, hunlines, mk.injEq, and_iff_right rfl]
  simp only [List.length_append]
  constructor
  · intro heq
    have hnil : opened (ys.drop n) = [] := List.length_eq_zero_iff.mp (by omega)
    rcases List.eq_nil_or_concat (ys.drop n) with hdrop | ⟨ks, l, hdrop⟩
    · have hlen := congrArg List.length hdrop
      rw [List.length_drop, List.length_nil] at hlen
      omega
    · rw [hdrop] at hnil
      simp [opened] at hnil
  · rintro rfl
    rw [List.drop_length]
    rfl

/-- Where there is text, a line behind the first one does not start with it. -/
theorem ofLine_start_pos (ht : t ≠ []) (hn : 2 ≤ n) : 0 < (ofLine t n).start := by
  obtain ⟨n, rfl⟩ : ∃ k, n = k + 2 := ⟨n - 2, by omega⟩
  rw [ofLine, if_neg (by omega), Int.toNat_natCast]
  cases hstart : t.lineStart? (n + 2) with
  | none => exact List.length_pos_iff.mpr ht
  | some start =>
    cases t with
    | nil => exact absurd rfl ht
    | cons c t =>
      obtain ⟨k, -, rfl⟩ := Option.map_eq_some_iff.mp hstart
      exact Nat.succ_pos k

end Bounds

/-! ## Lines to write -/

namespace Insertion

variable {indent piece : Text}

theorem length_written (indent piece : Text) :
    (written indent piece).length = piece.lines.length + piece.loneReturns := by
  rw [written, List.length_map, Text.length_lines_normalizeBreaks]

theorem length_lines_behindLine (n : Nat) (piece : Text) :
    (behindLine n piece).lines.length = piece.lines.length := by
  rw [Text.length_lines, Text.length_lines, behindLine]
  split
  · rw [Text.count_withoutReturn]
  · rfl

/-- Cutting the number of a line to those counted does not make it 0. -/
theorem min_lineCount_eq_zero_iff (t : Text) (n : Nat) : min n t.lineCount = 0 ↔ n = 0 := by
  have hone := t.one_le_lineCount
  omega

theorem behindLine_min (t : Text) (n : Nat) (piece : Text) :
    behindLine (min n t.lineCount) piece = behindLine n piece := by
  simp only [behindLine, min_lineCount_eq_zero_iff]

theorem unlines_written_eq_nil_iff : unlines (written indent piece) = [] ↔ piece = [] := by
  constructor
  · intro hnil
    obtain ⟨l, ls, hlines⟩ := List.exists_cons_of_ne_nil piece.normalizeBreaks.lines_ne_nil
    change piece.normalizeBreaks.lines = l :: ls at hlines
    rw [written, hlines, List.map_cons, Text.unlines_cons, List.append_eq_nil_iff] at hnil
    have hl : l = [] := by
      obtain ⟨hl, -⟩ := hnil
      unfold indentLine at hl
      split at hl
      · assumption
      · exact (List.append_eq_nil_iff.mp hl).2
    have hls : ls = [] := by
      cases ls with
      | nil => rfl
      | cons k ks => exact absurd hnil.2 (List.cons_ne_nil _ _)
    rw [← Text.normalizeBreaks_eq_nil_iff, ← Text.unlines_lines piece.normalizeBreaks, hlines, hl,
      hls]
    rfl
  · rintro rfl
    rfl

end Insertion

/-- Lines to write, and where. -/
inductive LineWrite where
  /-- Behind line `n`, or in front of all lines if that is 0. -/
  | behind (n : Nat) (body indent : Text)
  /-- In place of lines `first` to `last`. -/
  | inPlace (first last : Nat) (body indent : Text)

namespace LineWrite

variable {t : Text} {w : LineWrite}

/-- Writes the lines through a range. -/
def perform (w : LineWrite) (d : Document) (id : RangeId) : Document :=
  match w with
  | behind n body indent => d.insertLines id n body indent
  | inPlace first last body indent => d.changeLines id first last body indent

/-- The lines that stay in front of those written. Of an empty text none does. -/
def before (w : LineWrite) (t : Text) : List Text :=
  match w with
  | behind n _ _ => if t = [] then [] else t.lines.take (min n t.lineCount)
  | inPlace first _ _ _ => t.lines.take (first - 1)

/-- The lines written. -/
def lines (w : LineWrite) (t : Text) : List Text :=
  match w with
  | behind n body indent =>
    Insertion.written indent (if t = [] then body else Insertion.behindLine n body)
  | inPlace _ _ body indent => Insertion.written indent body

/-- The lines that stay behind those written. -/
def after (w : LineWrite) (t : Text) : List Text :=
  match w with
  | behind n _ _ => if t = [] then [] else t.lines.drop (min n t.lineCount)
  | inPlace _ last _ _ => t.lines.drop last

/-- The text afterwards. -/
def result (w : LineWrite) (t : Text) : Text := unlines (w.before t ++ w.lines t ++ w.after t)

/-- The bounds of the lines written: from where the first one starts to where the last one ends. -/
def covered (w : LineWrite) (t : Text) : Bounds :=
  ⟨(closed (w.before t)).length, (closed (w.before t) ++ unlines (w.lines t)).length⟩

/-- It is right what is worked out in advance: as many lines are written as the text given has, and
they are not moved to the front because there is no line to put them behind. -/
def IsForeseen (w : LineWrite) (t : Text) : Prop :=
  match w with
  | behind n body _ =>
    if t = [] then body.loneReturns = 0 ∧ (n = 0 ∨ body = [])
    else (Insertion.behindLine n body).loneReturns = 0
  | inPlace _ _ body _ => body.loneReturns = 0

instance (w : LineWrite) (t : Text) : Decidable (w.IsForeseen t) := by
  unfold IsForeseen
  cases w <;> infer_instance

/-- The lines to replace are lines of the text, and the indentation is within one line. -/
def Fits (w : LineWrite) (t : Text) : Prop :=
  match w with
  | behind _ _ indent => IsLine indent
  | inPlace first last _ indent =>
    IsLine indent ∧ 1 ≤ first ∧ first ≤ last ∧ last ≤ t.lines.length

end LineWrite

/-! ## Writing them -/

namespace Document

variable {d : Document} {xs zs : List Text}

/-- Line numbers are cut to those counted. -/
theorem insertLines_min (d : Document) (id : RangeId) (n : Nat) (body indent : Text) :
    d.insertLines id (min n d.text.lineCount) body indent = d.insertLines id n body indent := by
  unfold insertLines
  simp only [Nat.min_assoc, Nat.min_self]

/-- An empty text is replaced by the lines inserted. -/
theorem becomes_insertLines_nil (hd : d.surface.IsReliable) (ht : d.text = []) (id : RangeId)
    (n : Nat) (body indent : Text) :
    d.Becomes (unlines (Insertion.written indent body)) (d.insertLines id n body indent) := by
  have hbecomes := becomes_write (b := .collapsed 0) hd (Nat.le_refl 0) (Nat.zero_le _) id body
    .command indent
  have hnil : (unlines (Insertion.written indent body)) ++ d.text
      = unlines (Insertion.written indent body) := by rw [ht, List.append_nil]
  rw [Bounds.collapsed, Insertion.prepare_of_lineStart rfl, List.take_zero, List.nil_append,
    List.drop_zero, hnil] at hbecomes
  simp only [insertLines, if_pos ht]
  exact hbecomes.moveTo id _

/-- The range is set to the lines worked out. -/
theorem bounds_insertLines (d : Document) (id : RangeId) (n : Nat) (body indent : Text) :
    (d.insertLines id n body indent).bounds id
      = .ofLines (d.insertLines id n body indent).text (min n d.text.lineCount + 1 : Nat)
          (min n d.text.lineCount + body.lines.length : Nat) := by
  unfold insertLines
  extract_lets t after
  split
  rw [bounds_moveToLines, text_moveToLines]

theorem bounds_changeLines (d : Document) (id : RangeId) (first last : Nat) (body indent : Text) :
    (d.changeLines id first last body indent).bounds id
      = .ofLines (d.changeLines id first last body indent).text first
          (first + body.lines.length - 1 : Nat) := by
  unfold changeLines
  rw [bounds_moveToLines, text_moveToLines]

end Document

namespace LineWrite

variable {d : Document} {t : Text} {w : LineWrite} {n : Nat}

/-- A text that is not empty, cut behind a line. -/
theorem cut_behind (t : Text) (n : Nat) :
    t.lines = t.lines.take (min n t.lineCount) ++ t.lines.drop (min n t.lineCount) ∧
      (t.lines.take (min n t.lineCount)).length = min n t.lineCount := by
  refine ⟨(List.take_append_drop _ _).symm, ?_⟩
  have hcount := t.lineCount_le_length_lines
  rw [List.length_take]
  omega

/-- A text cut around the lines to replace. -/
theorem cut_inPlace {first last : Nat} {body indent : Text}
    (hw : (inPlace first last body indent).Fits t) :
    t.lines = t.lines.take (first - 1) ++ t.lineRange first last ++ t.lines.drop last ∧
      t.lineRange first last ≠ [] ∧ (t.lines.take (first - 1)).length + 1 = first ∧
      (t.lines.take (first - 1)).length + (t.lineRange first last).length = last := by
  obtain ⟨-, hfirst, hle, hlast⟩ := hw
  have hlength := Text.length_lineRange hfirst (Nat.le_succ_of_le hle) hlast
  have hbefore : (t.lines.take (first - 1)).length + 1 = first := by
    rw [List.length_take]
    omega
  refine ⟨Text.lines_eq_lineRange hfirst (Nat.le_succ_of_le hle), ?_, hbefore, by omega⟩
  rw [← List.length_pos_iff]
  omega

/-- Writing lines makes the text that it is to make. -/
theorem becomes_perform (hd : d.surface.IsReliable) (hw : w.Fits d.text) (id : RangeId) :
    d.Becomes (w.result d.text) (w.perform d id) := by
  cases w with
  | behind n body indent =>
    by_cases ht : d.text = []
    · have hbecomes := Document.becomes_insertLines_nil hd ht id n body indent
      simpa only [perform, result, before, lines, after, if_pos ht, List.nil_append,
        List.append_nil] using hbecomes
    · obtain ⟨hcut, hlength⟩ := cut_behind d.text n
      have hcount : (d.text.lines.take (min n d.text.lineCount)).length ≤ d.text.lineCount := by
        rw [hlength]
        exact Nat.min_le_right _ _
      have hbecomes := Document.becomes_insertLines hd ht hcut hcount id body indent
      rw [hlength, d.insertLines_min, Insertion.behindLine_min] at hbecomes
      simpa only [perform, result, before, lines, after, if_neg ht] using hbecomes
  | inPlace first last body indent =>
    obtain ⟨hcut, hne, hfirst, hlast⟩ := cut_inPlace hw
    have hbecomes := Document.becomes_changeLines hd hcut hne id body indent
    rw [hlast, hfirst] at hbecomes
    exact hbecomes

theorem isLine_of_mem_before {l : Text} (h : l ∈ w.before t) : IsLine l := by
  unfold before at h
  split at h
  · split at h
    · exact absurd h List.not_mem_nil
    · exact Text.isLine_of_mem_lines (List.mem_of_mem_take h)
  · exact Text.isLine_of_mem_lines (List.mem_of_mem_take h)

theorem isLine_of_mem_after {l : Text} (h : l ∈ w.after t) : IsLine l := by
  unfold after at h
  split at h
  · split at h
    · exact absurd h List.not_mem_nil
    · exact Text.isLine_of_mem_lines (List.mem_of_mem_drop h)
  · exact Text.isLine_of_mem_lines (List.mem_of_mem_drop h)

theorem isLine_of_mem_lines (hw : w.Fits t) {l : Text} (h : l ∈ w.lines t) : IsLine l := by
  cases w with
  | behind => exact Insertion.isLine_of_mem_written hw h
  | inPlace => exact Insertion.isLine_of_mem_written hw.1 h

theorem lines_ne_nil (w : LineWrite) (t : Text) : w.lines t ≠ [] := by
  cases w <;> exact Insertion.written_ne_nil _ _

/-- The lines of the text afterwards. -/
theorem lines_result (hw : w.Fits t) :
    (w.result t).lines = w.before t ++ w.lines t ++ w.after t := by
  refine Text.lines_unlines (List.append_ne_nil_of_left_ne_nil
    (List.append_ne_nil_of_right_ne_nil _ (w.lines_ne_nil t)) _) fun l hl ↦ ?_
  rcases List.mem_append.mp hl with hl | hl
  · rcases List.mem_append.mp hl with hl | hl
    · exact isLine_of_mem_before hl
    · exact isLine_of_mem_lines hw hl
  · exact isLine_of_mem_after hl

/-- The range is set to as many lines as the text given has, from the right one on. -/
theorem ofLines_result_iff (hw : w.Fits t) (body : Text) (n : Nat)
    (hlength : (w.lines t).length = body.lines.length + n) :
    Bounds.ofLines (w.result t) ((w.before t).length + 1 : Nat)
        ((w.before t).length + body.lines.length : Nat) = w.covered t ↔ n = 0 := by
  have hpos : 0 < body.lines.length := List.length_pos_iff.mpr body.lines_ne_nil
  rw [covered, Bounds.ofLines_eq_iff (lines_result hw) hpos (by omega)]
  omega

/-- Lines that are put behind the only line of an empty text are not found there. -/
theorem ofLines_result_behind_nil (n : Nat) (body indent : Text) :
    Bounds.ofLines ((behind n body indent).result []) (1 + 1 : Nat) (1 + body.lines.length : Nat)
        = (behind n body indent).covered [] ↔ body = [] := by
  constructor
  · intro hbounds
    refine Decidable.byContradiction fun hbody ↦ ?_
    have hresult : (behind n body indent).result [] ≠ [] := fun hnil ↦ hbody <|
      Insertion.unlines_written_eq_nil_iff.mp (by simpa [result, before, lines, after] using hnil)
    have hpos : 1 ≤ body.lines.length := List.length_pos_iff.mpr body.lines_ne_nil
    have hfirst := Bounds.ofLine_start_pos hresult (Nat.le_refl (1 + 1))
    have hlast := Bounds.ofLine_start_pos hresult (Nat.add_le_add_left hpos 1)
    have hstart := congrArg Bounds.start hbounds
    rw [Bounds.ofLines, Bounds.union] at hstart
    change min _ _ = 0 at hstart
    omega
  · rintro rfl
    rfl

/-- **Covering the lines written.** The range is left on exactly the lines written if and only if
they are foreseen. -/
theorem bounds_perform_iff (hd : d.surface.IsReliable) (hw : w.Fits d.text) (id : RangeId) :
    (w.perform d id).bounds id = w.covered d.text ↔ w.IsForeseen d.text := by
  have htext := (becomes_perform hd hw id).text
  cases w with
  | behind n body indent =>
    have hbounds := d.bounds_insertLines id n body indent
    change ((behind n body indent).perform d id).bounds id
      = .ofLines ((behind n body indent).perform d id).text _ _ at hbounds
    rw [hbounds, htext]
    by_cases ht : d.text = []
    · have hcount : d.text.lineCount = 1 := by rw [ht]; rfl
      rw [hcount, IsForeseen, if_pos ht]
      by_cases hn : n = 0
      · have hbefore : (behind n body indent).before d.text = [] := if_pos ht
        have hiff := ofLines_result_iff hw body body.loneReturns
          (by simp only [lines, if_pos ht, Insertion.length_written])
        rw [hbefore] at hiff
        rw [hn] at hiff ⊢
        simpa using hiff
      · have hone : min n 1 = 1 := by omega
        rw [hone, ht, ofLines_result_behind_nil]
        constructor
        · rintro rfl
          exact ⟨rfl, .inr rfl⟩
        · exact fun h ↦ h.2.resolve_left hn
    · have hbefore : ((behind n body indent).before d.text).length = min n d.text.lineCount := by
        simp only [before, if_neg ht]
        exact (cut_behind d.text n).2
      have hiff := ofLines_result_iff hw body (Insertion.behindLine n body).loneReturns
        (by simp only [lines, if_neg ht, Insertion.length_written,
          Insertion.length_lines_behindLine])
      rw [hbefore] at hiff
      rw [hiff, IsForeseen, if_neg ht]
  | inPlace first last body indent =>
    have hbounds := d.bounds_changeLines id first last body indent
    change ((inPlace first last body indent).perform d id).bounds id
      = .ofLines ((inPlace first last body indent).perform d id).text _ _ at hbounds
    have hbefore : ((inPlace first last body indent).before d.text).length + 1 = first :=
      (cut_inPlace hw).2.2.1
    have hend : ((inPlace first last body indent).before d.text).length + body.lines.length
        = first + body.lines.length - 1 := by omega
    have hiff := ofLines_result_iff hw body body.loneReturns
      (Insertion.length_written indent body)
    rw [hbefore, hend] at hiff
    rw [hbounds, htext, hiff, IsForeseen]

end LineWrite

end LineEditor
