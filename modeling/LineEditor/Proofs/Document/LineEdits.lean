import LineEditor.Document.Lines
import LineEditor.Proofs.Document.Replay
import LineEditor.Proofs.Text.Breaks

/-!
# What editing whole lines does

The line commands find offsets by counting separators and splice texts there, and whether a
separator goes along is decided case by case: at the start of the text, at its end, and in an empty
one. Seen as an operation on the list of lines each of them is simple: lines are taken out, put in,
or put in place of others. This is shown for surfaces that are *reliable*, where no call misplaces
its text.

Lines can be put in behind every line that is counted. A last piece of the text that is empty is
not, and the first line of an empty text is the only one that is there without being kept.
-/

namespace LineEditor

open Text (closed opened unlines separator IsLine)

/-! ## Surfaces -/

/-- No call misplaces its text, however many calls are made. -/
def Surface.IsReliable (s : Surface) : Prop := ∀ cs, s.Throughout Obeys cs

namespace Surface

variable {s : Surface}

theorem isReliable_of_isFlat (h : s.IsFlat) : s.IsReliable := throughout_obeys_of_isFlat h

theorem IsReliable.obeys (h : s.IsReliable) (c : Call) : s.Obeys c := (h [c]).1

theorem IsReliable.call (h : s.IsReliable) (c : Call) : (s.call c).IsReliable :=
  fun cs ↦ (h (c :: cs)).2

end Surface

/-! ## Bounds of lines -/

namespace Bounds

variable {t l : Text} {xs ys zs : List Text}

private theorem lineStart?_max (h : t.lines = xs ++ ys) (hys : ys ≠ []) :
    t.lineStart? (max (xs.length + 1) 1) = some (closed xs).length := by
  rw [Nat.max_eq_left (Nat.le_add_left _ _)]
  exact Text.lineStart?_of_lines_eq h hys

/-- With lines behind them, lines go with the separators that end them. -/
theorem aroundLines_of_behind (h : t.lines = xs ++ ys ++ zs) (hys : ys ≠ []) (hzs : zs ≠ []) :
    aroundLines t (xs.length + 1) (xs.length + ys.length)
      = ⟨(closed xs).length, (closed (xs ++ ys)).length⟩ := by
  have hfirst := lineStart?_max (List.append_assoc _ _ _ ▸ h)
    (List.append_ne_nil_of_left_ne_nil hys zs)
  have hnext := Text.lineStart?_of_lines_eq h hzs
  rw [List.length_append] at hnext
  simp only [aroundLines, hfirst, hnext, Option.getD_some]

/-- The last lines go with the separator in front of them, if there is one. -/
theorem aroundLines_of_last (h : t.lines = xs ++ ys) (hys : ys ≠ []) :
    aroundLines t (xs.length + 1) (xs.length + ys.length)
      = ⟨(closed xs).length - 1, t.length⟩ := by
  have hfirst := lineStart?_max h hys
  have hnext := t.lineStart?_length_lines
  rw [h, List.length_append] at hnext
  simp only [aroundLines, hfirst, hnext, Option.getD_some]
  split
  · rfl
  · next hnil =>
    obtain rfl : xs = [] := List.length_eq_zero_iff.mp (by omega)
    rfl

/-- They start no earlier than at the separator in front of the lines. -/
theorem le_start_aroundLines (h : t.lines = xs ++ ys ++ zs) (hys : ys ≠ []) :
    (closed xs).length - 1 ≤ (aroundLines t (xs.length + 1) (xs.length + ys.length)).start := by
  by_cases hzs : zs = []
  · subst hzs
    rw [List.append_nil] at h
    exact Nat.le_of_eq (congrArg start (aroundLines_of_last h hys)).symm
  · rw [aroundLines_of_behind h hys hzs]
    exact Nat.sub_le _ _

/-- Taking out the bounds around lines takes the lines out of the list. -/
theorem aroundLines_cut (h : t.lines = xs ++ ys ++ zs) (hys : ys ≠ []) :
    let b := aroundLines t (xs.length + 1) (xs.length + ys.length)
    b.start ≤ b.stop ∧ b.stop ≤ t.length ∧
      t.take b.start ++ t.drop b.stop = unlines (xs ++ zs) := by
  intro b
  have hfront : t.lines = xs ++ (ys ++ zs) := List.append_assoc _ _ _ ▸ h
  have ht := Text.eq_of_lines_eq hfront (List.append_ne_nil_of_left_ne_nil hys zs)
  by_cases hzs : zs = []
  · have hb : b = ⟨(closed xs).length - 1, t.length⟩ := by
      rw [hzs, List.append_nil] at h
      exact aroundLines_of_last h hys
    have hle : (closed xs).length ≤ t.length := by
      rw [ht, List.length_append]
      exact Nat.le_add_right _ _
    rw [hb, hzs, List.append_nil]
    refine ⟨Nat.le_trans (Nat.sub_le _ _) hle, Nat.le_refl _, ?_⟩
    rw [List.drop_length, List.append_nil]
    by_cases hxs : xs = []
    · rw [hxs]
      rfl
    · rw [ht, Text.closed_eq hxs, List.length_append, List.length_singleton, Nat.add_sub_cancel,
        List.append_assoc, List.take_left]
  · have hb : b = ⟨(closed xs).length, (closed (xs ++ ys)).length⟩ :=
      aroundLines_of_behind h hys hzs
    have hback := Text.eq_of_lines_eq h hzs
    have htake : t.take (closed xs).length = closed xs := by rw [ht, List.take_left]
    have hdrop : t.drop (closed (xs ++ ys)).length = unlines zs := by rw [hback, List.drop_left]
    rw [hb]
    refine ⟨?_, ?_, ?_⟩
    · simp only [Text.closed_append, List.length_append]
      exact Nat.le_add_right _ _
    · simp only [hback, List.length_append]
      exact Nat.le_add_right _ _
    · rw [htake, hdrop, Text.unlines_append _ hzs]

/-- The bounds of a line hold its text. -/
theorem ofLine_cut (h : t.lines = xs ++ l :: zs) :
    ofLine t (xs.length + 1 : Nat) = ⟨(closed xs).length, (closed xs ++ l).length⟩ := by
  have hend := Text.lineEnd_of_lines_eq h
  rw [Text.lineEnd, lineStart?_max h (List.cons_ne_nil l zs)] at hend
  rw [ofLine, if_neg (by omega), Int.toNat_natCast,
    Text.lineStart?_of_lines_eq h (List.cons_ne_nil l zs)]
  simp only at hend ⊢
  rw [hend]

/-- So do those of several lines. -/
theorem ofLines_cut (h : t.lines = xs ++ ys ++ zs) (hys : ys ≠ []) :
    ofLines t (xs.length + 1 : Nat) (xs.length + ys.length : Nat)
      = ⟨(closed xs).length, (closed xs ++ unlines ys).length⟩ := by
  obtain ⟨ks, l, hlast, hlength, hend⟩ := Text.exists_last_of_lines_eq h hys
  obtain ⟨m, ms, rfl⟩ := List.exists_cons_of_ne_nil hys
  have hfirst : t.lines = xs ++ m :: (ms ++ zs) := by rw [h, List.append_assoc]; rfl
  have hstart : (closed xs).length ≤ (closed (xs ++ ks)).length := by
    rw [Text.closed_append, List.length_append]
    exact Nat.le_add_right _ _
  have hstop : (closed xs ++ m).length ≤ (closed xs ++ unlines (m :: ms)).length := by
    rw [Text.unlines_cons, ← List.append_assoc]
    exact (List.prefix_append _ _).length_le
  rw [ofLines, ← hlength, ofLine_cut hfirst, ofLine_cut hlast, hend, union,
    Nat.min_eq_left hstart, Nat.max_eq_right hstop]

theorem ofLine_le (t : Text) (n : Int) :
    (ofLine t n).start ≤ (ofLine t n).stop ∧ (ofLine t n).stop ≤ t.length := by
  unfold ofLine
  split
  · exact ⟨Nat.le_refl 0, Nat.zero_le _⟩
  · cases hstart : t.lineStart? n.toNat with
    | none => exact ⟨Nat.le_refl _, Nat.le_refl _⟩
    | some start =>
      exact ⟨Nat.le_add_right _ _, Text.lineEndFrom_le_length (Text.lineStart?_le_length hstart)⟩

/-- The bounds of lines fit the text. -/
theorem clamp_ofLines (t : Text) (first last : Int) :
    (ofLines t first last).clamp t.length = ofLines t first last := by
  obtain ⟨hfirst, hfirst'⟩ := ofLine_le t first
  obtain ⟨hlast, hlast'⟩ := ofLine_le t last
  exact clamp_of_le (Nat.le_trans (Nat.min_le_left _ _) (Nat.le_trans hfirst (Nat.le_max_left _ _)))
    (Nat.max_le.mpr ⟨hfirst', hlast'⟩)

/-- The text of lines, without the separators around it. -/
theorem inLines_cut (h : t.lines = xs ++ ys ++ zs) (hys : ys ≠ []) :
    inLines t (xs.length + 1) (xs.length + ys.length)
      = ⟨(closed xs).length, (closed xs ++ unlines ys).length⟩ := by
  have hfirst := lineStart?_max (List.append_assoc _ _ _ ▸ h)
    (List.append_ne_nil_of_left_ne_nil hys zs)
  have hle : (closed xs).length ≤ (closed xs ++ unlines ys).length :=
    (List.prefix_append _ _).length_le
  simp only [inLines, hfirst, Text.lineEnd_last h hys, Option.getD_some, Nat.max_eq_left hle]

/-- The bounds of a line touch that line only. -/
theorem lineNumbers_cut (h : t.lines = xs ++ l :: zs) :
    lineNumbers t ⟨(closed xs).length, (closed xs ++ l).length⟩
      = (xs.length + 1, xs.length + 1) := by
  obtain ⟨hxs, hls⟩ := Text.forall_isLine_append h
  have hl : IsLine l := hls l List.mem_cons_self
  have ht := Text.eq_of_lines_eq_cons h
  have hstart : t.lineAt (closed xs).length = xs.length + 1 := by
    have hat := Text.lineAt_closed hxs Text.isLine_nil (l ++ opened zs)
    rw [List.append_nil, ← List.append_assoc, ← ht] at hat
    exact hat
  have hstop : t.lineAt (closed xs ++ l).length = xs.length + 1 := by
    have hat := Text.lineAt_closed hxs hl (opened zs)
    rw [← ht] at hat
    exact hat
  have hlast : ¬ ((closed xs).length < (closed xs ++ l).length ∧
      t[(closed xs ++ l).length - 1]? = some separator) := by
    rintro ⟨hlt, hsome⟩
    rw [List.length_append] at hlt
    rw [List.length_append, ht, List.append_assoc, List.getElem?_append_right (by omega),
      List.getElem?_append_left (by omega)] at hsome
    exact hl (List.mem_of_getElem? hsome)
  simp only [lineNumbers, if_neg hlast, hstart, hstop, Nat.max_self]

end Bounds

/-! ## Texts about to be written -/

namespace Insertion

variable {t indent piece : Text} {start : Nat}

theorem indentLine_nil (l : Text) : indentLine [] l = l := by
  unfold indentLine
  split
  · next h => exact h.symm
  · rfl

theorem isLine_indentLine (hindent : IsLine indent) {l : Text} (hl : IsLine l) :
    IsLine (indentLine indent l) := by
  unfold indentLine
  split
  · exact Text.isLine_nil
  · exact List.not_mem_append hindent hl

theorem map_lines_ne_nil (indent piece : Text) : piece.lines.map (indentLine indent) ≠ [] := by
  rw [Ne, List.map_eq_nil_iff]
  exact piece.lines_ne_nil

/-- The lines of a text about to be written, with the breaks of other systems and an indentation. -/
def written (indent piece : Text) : List Text := piece.normalizeBreaks.lines.map (indentLine indent)

theorem written_of_not_mem {piece : Text} (h : '\r' ∉ piece) (indent : Text) :
    written indent piece = piece.lines.map (indentLine indent) := by
  rw [written, Text.normalizeBreaks_of_not_mem h]

theorem written_ne_nil (indent piece : Text) : written indent piece ≠ [] :=
  map_lines_ne_nil indent piece.normalizeBreaks

theorem written_nil (piece : Text) : written [] piece = piece.normalizeBreaks.lines :=
  List.map_id'' indentLine_nil _

theorem isLine_of_mem_written (hindent : IsLine indent) {l : Text}
    (h : l ∈ written indent piece) : IsLine l := by
  obtain ⟨k, hk, rfl⟩ := List.mem_map.mp h
  exact isLine_indentLine hindent (Text.isLine_of_mem_lines hk)

/-- Written at the start of a line, all lines of a text are indented. -/
theorem prepare_of_lineStart (hstart : t.lineStartFrom start = start) (indent piece : Text) :
    prepare t start indent piece = unlines (written indent piece) := by
  obtain ⟨l, ls, hlines⟩ := List.exists_cons_of_ne_nil piece.normalizeBreaks.lines_ne_nil
  change piece.normalizeBreaks.lines = l :: ls at hlines
  by_cases hindent : indent = []
  · rw [hindent, written_nil, Text.unlines_lines]
    rfl
  · simp only [prepare, if_neg hindent, indentLines, written, hlines, hstart, decide_true, if_true,
      List.map_cons]

/-- Written behind a line, a text is indented from its second line on. -/
theorem prepare_separator_cons (t : Text) (start : Nat) (indent piece : Text) :
    prepare t start indent (separator :: piece) = separator :: unlines (written indent piece) := by
  rw [prepare, Text.normalizeBreaks_separator_cons]
  by_cases hindent : indent = []
  · rw [hindent, written_nil, Text.unlines_lines]
    rfl
  · -- the empty piece in front of the separator stays empty
    have hfirst : ∀ b : Bool, (if b = true then indentLine indent [] else []) = [] := by
      intro b
      cases b <;> rfl
    simp only [if_neg hindent, indentLines, Text.lines_cons_separator, hfirst]
    exact Text.unlines_append [[]] (written_ne_nil indent piece)

/-- What is written of a text behind line `n`. In front of all lines a separator goes behind it, and
a carriage return at its end makes one line break with that. -/
def behindLine (n : Nat) (piece : Text) : Text := if n = 0 then piece.withoutReturn else piece

theorem behindLine_of_not_mem {piece : Text} (h : '\r' ∉ piece) (n : Nat) :
    behindLine n piece = piece := by
  rw [behindLine, Text.withoutReturn_of_not_mem h, ite_self]

/-- With a separator behind it, a text is written as lines that are closed. -/
theorem prepare_append_separator (hstart : t.lineStartFrom start = start) (indent piece : Text) :
    prepare t start indent (piece ++ [separator])
      = closed (written indent piece.withoutReturn) := by
  rw [prepare_of_lineStart hstart, written, Text.normalizeBreaks_append_separator,
    Text.lines_append_singleton, List.map_append]
  exact (Text.unlines_append _ (List.cons_ne_nil [] [])).trans (List.append_nil _)

/-- Where lines go that are inserted behind others: to the end of the last one of these, if there
is one. -/
def placeBehind (xs : List Text) : Nat := (closed xs).length - 1

/-- What is written there: the lines with a separator in front of them, or behind them if there is
nothing to put them behind. -/
def pieceBehind (xs new : List Text) : Text :=
  if xs = [] then closed new else separator :: unlines new

theorem placeBehind_append (xs : List Text) (l : Text) :
    placeBehind (xs ++ [l]) = (closed xs ++ l).length := by
  rw [placeBehind, Text.closed_append, Text.closed_singleton, ← List.append_assoc,
    List.length_append, List.length_singleton, Nat.add_sub_cancel]

theorem pieceBehind_append (xs : List Text) (l : Text) (new : List Text) :
    pieceBehind (xs ++ [l]) new = separator :: unlines new :=
  if_neg (List.append_ne_nil_of_right_ne_nil xs (List.cons_ne_nil l []))

theorem length_pieceBehind {new : List Text} (hnew : new ≠ []) (xs : List Text) :
    (pieceBehind xs new).length = (closed new).length := by
  unfold pieceBehind
  split
  · rfl
  · rw [Text.closed_eq hnew, List.length_append]
    rfl

/-- Put in there, the lines come to stand between those in front and those behind. -/
theorem splice_pieceBehind {xs zs new : List Text} (h : t.lines = xs ++ zs)
    (hzs : xs = [] → zs ≠ []) (hnew : new ≠ []) :
    placeBehind xs ≤ t.length ∧
      t.take (placeBehind xs) ++ pieceBehind xs new ++ t.drop (placeBehind xs)
        = unlines (xs ++ new ++ zs) := by
  rcases xs.eq_nil_or_concat with rfl | ⟨ys, l, rfl⟩
  · refine ⟨Nat.zero_le _, ?_⟩
    rw [Text.unlines_append _ (hzs rfl), Text.eq_of_lines_eq h (hzs rfl)]
    rfl
  · rw [List.concat_eq_append] at h ⊢
    have hcut : t.lines = ys ++ l :: zs := by rw [h, List.append_assoc]; rfl
    rw [placeBehind_append, pieceBehind_append]
    refine ⟨(Text.length_le_of_lines_eq hcut).2, ?_⟩
    rw [Text.take_end_of_lines_eq hcut, Text.drop_of_lines_eq hcut,
      Text.unlines_append_append hnew, Text.closed_append, Text.closed_singleton]
    simp [List.append_assoc]

end Insertion

/-! ## Documents -/

/-- The text has become another one on a reliable surface, and the options are the same. -/
structure Document.Becomes (d : Document) (u : Text) (d' : Document) : Prop where
  /-- The new text. -/
  text : d'.text = u
  /-- No call will misplace its text. -/
  reliable : d'.surface.IsReliable
  /-- The options are the same. -/
  options : d'.options = d.options

namespace Document

variable {d d' : Document} {u indent body : Text} {id : RangeId} {xs ys zs : List Text} {l : Text}

theorem Becomes.trans (h : d.Becomes l d') {d'' : Document} (h' : d'.Becomes u d'') :
    d.Becomes u d'' := ⟨h'.text, h'.reliable, h'.options.trans h.options⟩

/-- Moving a range leaves everything else alone. -/
theorem Becomes.moveTo (h : d.Becomes u d') (id : RangeId) (b : Bounds) :
    d.Becomes u (d'.moveTo id b) := ⟨h.text, h.reliable, h.options⟩

/-- Nor does it matter whether the range was moved before. -/
theorem Becomes.of_moveTo {b : Bounds} (h : (d.moveTo id b).Becomes u d') : d.Becomes u d' :=
  ⟨h.text, h.reliable, h.options⟩

/-- No call will misplace its text after a replacement either. -/
theorem reliable_replace (hd : d.surface.IsReliable) (start stop : Nat) (piece : Text)
    (kind : EditKind) : (d.replace start stop piece kind).2.surface.IsReliable := by
  cases he : (d.replace start stop piece kind).1 with
  | none =>
    rw [replace_of_none he]
    exact hd
  | some e =>
    rw [replace_of_some he]
    exact hd.call e.call

/-- A replacement that makes no edit leaves the text that it is to make. -/
theorem splice_of_replace_eq_none {b : Bounds} (hle : b.start ≤ b.stop)
    (hstop : b.stop ≤ d.text.length) {piece : Text} {kind : EditKind}
    (he : (d.replace b.start b.stop piece kind).1 = none) :
    d.text.take b.start ++ piece ++ d.text.drop b.stop = d.text := by
  have hclamp : (Bounds.mk b.start b.stop).clamp d.length = b := Bounds.clamp_of_le hle hstop
  rw [fst_replace, hclamp, Option.map_eq_none_iff, Edit.between_eq_none_iff] at he
  rw [← he, d.text.take_append_slice_append_drop hle]

/-- A replacement that makes an edit calls the surface to make its text. -/
theorem target_of_replace_eq_some {b : Bounds} (hle : b.start ≤ b.stop)
    (hstop : b.stop ≤ d.text.length) {piece : Text} {kind : EditKind} {e : Edit}
    (he : (d.replace b.start b.stop piece kind).1 = some e) :
    e.call.target d.surface = d.text.take b.start ++ piece ++ d.text.drop b.stop := by
  have hclamp : (Bounds.mk b.start b.stop).clamp d.length = b := Bounds.clamp_of_le hle hstop
  rw [fst_replace, hclamp, Option.map_eq_some_iff] at he
  obtain ⟨f, hf, rfl⟩ := he
  exact (leads_of_between_slice hf hle hstop).target_call

/-- A replacement splices the text unless the surface misplaces what is edited. -/
theorem text_replace_iff {b : Bounds} (hle : b.start ≤ b.stop) (hstop : b.stop ≤ d.text.length)
    (piece : Text) (kind : EditKind) :
    (d.replace b.start b.stop piece kind).2.text
        = d.text.take b.start ++ piece ++ d.text.drop b.stop ↔
      ∀ e, (d.replace b.start b.stop piece kind).1 = some e → ¬ d.surface.Misplaces e.call := by
  cases he : (d.replace b.start b.stop piece kind).1 with
  | none =>
    rw [replace_of_none he, splice_of_replace_eq_none hle hstop he]
    exact iff_of_true rfl nofun
  | some e =>
    rw [replace_of_some he, ← target_of_replace_eq_some hle hstop he]
    simp only [Option.some.injEq, forall_eq', ← Surface.text_call_iff]
    rfl

/-- Even where it misplaces text, a replacement makes one of the same characters. -/
theorem perm_text_replace {b : Bounds} (hle : b.start ≤ b.stop) (hstop : b.stop ≤ d.text.length)
    (piece : Text) (kind : EditKind) :
    (d.replace b.start b.stop piece kind).2.text.Perm
      (d.text.take b.start ++ piece ++ d.text.drop b.stop) := by
  cases he : (d.replace b.start b.stop piece kind).1 with
  | none => rw [replace_of_none he, splice_of_replace_eq_none hle hstop he]
  | some e =>
    rw [replace_of_some he, ← target_of_replace_eq_some hle hstop he]
    exact d.surface.perm_text_call e.call

/-- Nor does it touch what is in front of the stretch. -/
theorem take_text_replace {b : Bounds} (hle : b.start ≤ b.stop) (hstop : b.stop ≤ d.text.length)
    (piece : Text) (kind : EditKind) :
    (d.replace b.start b.stop piece kind).2.text.take b.start = d.text.take b.start := by
  have hclamp : (Bounds.mk b.start b.stop).clamp d.length = b := Bounds.clamp_of_le hle hstop
  cases he : (d.replace b.start b.stop piece kind).1 with
  | none => rw [replace_of_none he]
  | some e =>
    rw [replace_of_some he]
    rw [fst_replace, hclamp, Option.map_eq_some_iff] at he
    obtain ⟨f, hf, rfl⟩ := he
    have hstart : (f.shift b.start).start ≤ d.surface.text.length :=
      (leads_of_between_slice hf hle hstop).start_le_length
    obtain ⟨x, y, -, htext⟩ := d.surface.exists_text_call (f.shift b.start).call
    have hfirst : (f.shift b.start).call.first d.surface = (f.shift b.start).start :=
      Nat.min_eq_left hstart
    have hbehind : b.start ≤ (f.shift b.start).start := Nat.le_add_left _ _
    change (d.surface.call (f.shift b.start).call).text.take b.start = _
    rw [htext, hfirst, List.take_append_of_le_length, List.take_take, Nat.min_eq_left hbehind]
    · rfl
    · rw [List.length_take_of_le hstart]
      exact hbehind

theorem options_replace (d : Document) (start stop : Nat) (piece : Text) (kind : EditKind) :
    (d.replace start stop piece kind).2.options = d.options := by
  cases he : (d.replace start stop piece kind).1 with
  | none => rw [replace_of_none he]
  | some e =>
    rw [replace_of_some he]
    rfl

/-- On a reliable surface a replacement always splices the text. -/
theorem becomes_replace (hd : d.surface.IsReliable) {b : Bounds} (hle : b.start ≤ b.stop)
    (hstop : b.stop ≤ d.text.length) (piece : Text) (kind : EditKind) :
    d.Becomes (d.text.take b.start ++ piece ++ d.text.drop b.stop)
      (d.replace b.start b.stop piece kind).2 := by
  refine ⟨(text_replace_iff hle hstop piece kind).mpr fun e _ ↦ ?_, ?_, ?_⟩
  · exact Surface.obeys_iff.mp (hd.obeys e.call)
  · exact reliable_replace hd _ _ _ _
  · exact options_replace d _ _ _ _

/-- Writing through a range replaces its text by one that is prepared for its place. -/
theorem write_moveTo {b : Bounds} (hle : b.start ≤ b.stop) (hstop : b.stop ≤ d.text.length)
    (id : RangeId) (piece : Text) (kind : EditKind) (indent : Text) :
    let written := Insertion.prepare d.text b.start indent piece
    ((d.moveTo id b).write id piece kind indent).2
      = ((d.moveTo id b).replace b.start b.stop written kind).2.moveTo id
          ⟨b.start, b.start + written.length⟩ := by
  intro written
  have hbounds : (d.moveTo id b).bounds id = b := by
    rw [bounds, moveTo, Ranges.get_put]
    exact Bounds.clamp_of_le hle hstop
  simp only [write, hbounds]
  rfl

/-- So it splices the text. -/
theorem becomes_write (hd : d.surface.IsReliable) {b : Bounds} (hle : b.start ≤ b.stop)
    (hstop : b.stop ≤ d.text.length) (id : RangeId) (piece : Text) (kind : EditKind)
    (indent : Text) :
    d.Becomes (d.text.take b.start ++ Insertion.prepare d.text b.start indent piece
        ++ d.text.drop b.stop) ((d.moveTo id b).write id piece kind indent).2 := by
  rw [write_moveTo hle hstop]
  have hbecomes := becomes_replace (d := d.moveTo id b) hd hle hstop
    (Insertion.prepare d.text b.start indent piece) kind
  exact hbecomes.of_moveTo.moveTo id _

@[simp] theorem surface_moveTo (d : Document) (id : RangeId) (b : Bounds) :
    (d.moveTo id b).surface = d.surface := rfl

@[simp] theorem surface_moveToLines (d : Document) (id : RangeId) (first last : Nat) :
    (d.moveToLines id first last).surface = d.surface := rfl

@[simp] theorem text_moveToLines (d : Document) (id : RangeId) (first last : Nat) :
    (d.moveToLines id first last).text = d.text := rfl

/-- A range that is set to lines has their bounds. -/
theorem bounds_moveToLines (d : Document) (id : RangeId) (first last : Nat) :
    (d.moveToLines id first last).bounds id = .ofLines d.text first last := by
  rw [bounds, moveToLines, moveTo, Ranges.get_put]
  exact Bounds.clamp_ofLines d.text first last

/-- A range that is set to a line touches that line only. -/
theorem lines_moveToLines (h : d.text.lines = xs ++ l :: zs) (id : RangeId) :
    (d.moveToLines id (xs.length + 1) (xs.length + 1)).lines id
      = (xs.length + 1, xs.length + 1) := by
  have hcut : d.text.lines = xs ++ [l] ++ zs := by rw [h, List.append_assoc]; rfl
  rw [lines, bounds_moveToLines]
  exact (congrArg _ (Bounds.ofLines_cut hcut (List.cons_ne_nil l []))).trans
    (Bounds.lineNumbers_cut h)

/-- Where text is only taken out, no surface can misplace any. -/
theorem text_edit_nil {b : Bounds} (hle : b.start ≤ b.stop) (hstop : b.stop ≤ d.text.length) :
    (d.edit b []).text = d.text.take b.start ++ d.text.drop b.stop := by
  rw [← List.append_nil (d.text.take _)]
  refine (text_replace_iff hle hstop [] .command).mpr fun e he ↦ ?_
  rw [fst_replace, Option.map_eq_some_iff] at he
  obtain ⟨f, hf, rfl⟩ := he
  exact Surface.not_misplaces_of_piece_eq_nil (Edit.leads_of_between hf).inserted_eq_nil

/-- Deleting lines takes them out of the list. -/
theorem text_deleteLines (h : d.text.lines = xs ++ ys ++ zs) (hys : ys ≠ []) :
    (d.deleteLines (xs.length + 1) (xs.length + ys.length)).text = unlines (xs ++ zs) := by
  obtain ⟨hle, hstop, htext⟩ := Bounds.aroundLines_cut h hys
  rw [← htext]
  exact text_edit_nil hle hstop

/-- Deleting no lines takes nothing out. -/
theorem text_deleteLines_nil (h : d.text.lines = xs ++ zs) (hzs : zs ≠ []) :
    (d.deleteLines (xs.length + 1) xs.length).text = d.text := by
  have hstart := Text.lineStart?_of_lines_eq h hzs
  have haround : Bounds.aroundLines d.text (xs.length + 1) xs.length
      = .collapsed (closed xs).length := by
    simp only [Bounds.aroundLines, Nat.max_eq_left (Nat.le_add_left 1 xs.length), hstart,
      Option.getD_some]
    rfl
  have hstop : (closed xs).length ≤ d.text.length := Text.lineStart?_le_length hstart
  rw [deleteLines, haround, text_edit_nil (Nat.le_refl _) hstop]
  exact List.take_append_drop _ _

/-- The other lines are left when lines are deleted. -/
theorem lines_deleteLines (h : d.text.lines = xs ++ ys ++ zs) (hys : ys ≠ [])
    (hne : xs ++ zs ≠ []) :
    (d.deleteLines (xs.length + 1) (xs.length + ys.length)).text.lines = xs ++ zs := by
  obtain ⟨hfront, hzs⟩ := Text.forall_isLine_append h
  obtain ⟨hxs, -⟩ := List.forall_mem_append.mp hfront
  rw [text_deleteLines h hys]
  exact Text.lines_unlines hne (List.forall_mem_append.mpr ⟨hxs, hzs⟩)

theorem becomes_deleteLines (hd : d.surface.IsReliable) (h : d.text.lines = xs ++ ys ++ zs)
    (hys : ys ≠ []) :
    d.Becomes (unlines (xs ++ zs)) (d.deleteLines (xs.length + 1) (xs.length + ys.length)) :=
  ⟨text_deleteLines h hys, reliable_replace hd _ _ _ _, options_replace d _ _ _ _⟩

/-- What it does depends on nothing but the surface. -/
theorem surface_deleteLines_congr (h : d'.surface = d.surface) (first last : Nat) :
    (d'.deleteLines first last).surface = (d.deleteLines first last).surface := by
  have htext : d'.text = d.text := congrArg Surface.text h
  unfold deleteLines
  rw [htext]
  exact surface_replace_congr h _ _ _ _

/-- Putting lines in place of others replaces their text. -/
theorem changeLines_eq (h : d.text.lines = xs ++ ys ++ zs) (hys : ys ≠ []) (id : RangeId)
    (body indent : Text) :
    let b : Bounds := ⟨(closed xs).length, (closed xs ++ unlines ys).length⟩
    let piece := unlines (Insertion.written indent body)
    d.changeLines id (xs.length + 1) (xs.length + ys.length) body indent
      = (((d.moveTo id b).replace b.start b.stop piece .command).2.moveTo id
          ⟨b.start, b.start + piece.length⟩).moveToLines id (xs.length + 1)
            (xs.length + 1 + body.lines.length - 1) := by
  intro b piece
  have ht := Text.eq_of_lines_eq_append h hys
  have hprepare : Insertion.prepare d.text b.start indent body = piece := by
    refine Insertion.prepare_of_lineStart ?_ indent body
    rw [ht, List.append_assoc]
    exact Text.lineStartFrom_closed xs _
  obtain ⟨hle, hstop, -⟩ := Text.splice_lines h hys (Insertion.written_ne_nil indent body)
  have hwrite := write_moveTo (b := b) hle hstop id body .command indent
  rw [hprepare] at hwrite
  rw [changeLines, Bounds.inLines_cut h hys]
  exact congrArg (·.moveToLines id (xs.length + 1) (xs.length + 1 + body.lines.length - 1)) hwrite

/-- So it does in the list. -/
theorem becomes_changeLines (hd : d.surface.IsReliable) (h : d.text.lines = xs ++ ys ++ zs)
    (hys : ys ≠ []) (id : RangeId) (body indent : Text) :
    d.Becomes (unlines (xs ++ Insertion.written indent body ++ zs))
      (d.changeLines id (xs.length + 1) (xs.length + ys.length) body indent) := by
  obtain ⟨hle, hstop, hsplice⟩ := Text.splice_lines h hys
    (Insertion.written_ne_nil indent body)
  rw [changeLines_eq h hys, ← hsplice]
  have hbecomes := becomes_replace (b := ⟨(closed xs).length, (closed xs ++ unlines ys).length⟩)
    (d := d.moveTo id ⟨(closed xs).length, (closed xs ++ unlines ys).length⟩) hd hle hstop
    (unlines (Insertion.written indent body)) .command
  exact (hbecomes.of_moveTo.moveTo id _).moveTo id _

/-- Inserting lines behind others replaces nothing by a text at one place. -/
theorem insertLines_eq (ht : d.text ≠ []) (h : d.text.lines = xs ++ zs)
    (hcount : xs.length ≤ d.text.lineCount) (id : RangeId) (body indent : Text) :
    let place := Insertion.placeBehind xs
    let piece := Insertion.pieceBehind xs
      (Insertion.written indent (Insertion.behindLine xs.length body))
    d.insertLines id xs.length body indent
      = (((d.moveTo id (.collapsed place)).replace place place piece .command).2.moveTo id
          ⟨place, place + piece.length⟩).moveToLines id (xs.length + 1)
            (xs.length + body.lines.length) := by
  rcases xs.eq_nil_or_concat with rfl | ⟨ys, l, rfl⟩
  · have hwrite := write_moveTo (b := .collapsed 0) (Nat.le_refl 0) (Nat.zero_le _) id
      (body ++ [separator]) .command indent (d := d)
    rw [Bounds.collapsed, Insertion.prepare_append_separator rfl] at hwrite
    simp only [insertLines, if_neg ht, List.length_nil, Nat.zero_min, if_true]
    exact congrArg (·.moveToLines id (0 + 1) (0 + body.lines.length)) hwrite
  · rw [List.concat_eq_append] at h hcount ⊢
    have hcut : d.text.lines = ys ++ l :: zs := by rw [h, List.append_assoc]; rfl
    have hwrite := write_moveTo (b := .collapsed (closed ys ++ l).length) (Nat.le_refl _)
      (Text.length_le_of_lines_eq hcut).2 id (separator :: body) .command indent
    have hlength : (ys ++ [l]).length = ys.length + 1 := by simp
    rw [Bounds.collapsed, Insertion.prepare_separator_cons] at hwrite
    simp only [Insertion.placeBehind_append, Insertion.pieceBehind_append]
    rw [hlength] at hcount ⊢
    simp only [insertLines, Nat.min_eq_left hcount, if_neg ht, if_neg (Nat.succ_ne_zero ys.length),
      Text.lineEnd_of_lines_eq hcut, Insertion.behindLine]
    exact congrArg (·.moveToLines id (ys.length + 1 + 1) (ys.length + 1 + body.lines.length)) hwrite

/-- Inserting lines puts them into the list, behind a line that is counted. -/
theorem becomes_insertLines (hd : d.surface.IsReliable) (ht : d.text ≠ [])
    (h : d.text.lines = xs ++ zs) (hcount : xs.length ≤ d.text.lineCount) (id : RangeId)
    (body indent : Text) :
    d.Becomes
      (unlines (xs ++ Insertion.written indent (Insertion.behindLine xs.length body) ++ zs))
      (d.insertLines id xs.length body indent) := by
  have hzs : xs = [] → zs ≠ [] := by
    rintro rfl
    exact List.nil_append zs ▸ h ▸ d.text.lines_ne_nil
  obtain ⟨hplace, hsplice⟩ := Insertion.splice_pieceBehind h hzs
    (Insertion.written_ne_nil indent (Insertion.behindLine xs.length body))
  rw [insertLines_eq ht h hcount, ← hsplice]
  generalize Insertion.pieceBehind xs _ = piece
  have hbecomes := becomes_replace (b := .collapsed (Insertion.placeBehind xs))
    (d := d.moveTo id (.collapsed (Insertion.placeBehind xs))) hd (Nat.le_refl _) hplace piece
    .command
  exact (hbecomes.of_moveTo.moveTo id _).moveTo id _

/-- A text without carriage returns is inserted line by line. -/
theorem becomes_insertLines_of_not_mem (hd : d.surface.IsReliable) (ht : d.text ≠ [])
    (h : d.text.lines = xs ++ zs) (hcount : xs.length ≤ d.text.lineCount) (hbody : '\r' ∉ body)
    (id : RangeId) (indent : Text) :
    d.Becomes (unlines (xs ++ body.lines.map (Insertion.indentLine indent) ++ zs))
      (d.insertLines id xs.length body indent) := by
  have hbecomes := becomes_insertLines hd ht h hcount id body indent
  rw [Insertion.behindLine_of_not_mem hbody, Insertion.written_of_not_mem hbody] at hbecomes
  exact hbecomes

/-- What is written without an indentation holds no carriage return. -/
theorem count_return_write (hd : d.surface.IsReliable) {offset : Nat}
    (h : offset ≤ d.text.length) (id : RangeId) (piece : Text) :
    ((d.moveTo id (.collapsed offset)).write id piece .command []).2.text.count '\r'
      = d.text.count '\r' := by
  have hbecomes := becomes_write (b := .collapsed offset) hd (Nat.le_refl _) h id piece .command []
  have hpiece : (Insertion.prepare d.text offset [] piece).count '\r' = 0 :=
    List.count_eq_zero.mpr (Text.not_mem_normalizeBreaks piece)
  have hsplit : d.text.count '\r'
      = (d.text.take offset).count '\r' + (d.text.drop offset).count '\r' := by
    rw [← List.count_append, List.take_append_drop]
  rw [hbecomes.text, Bounds.collapsed, List.count_append, List.count_append, hpiece, hsplit,
    Nat.add_zero]

theorem count_return_insertLines (hd : d.surface.IsReliable) (id : RangeId) (after : Nat)
    (body : Text) : (d.insertLines id after body []).text.count '\r' = d.text.count '\r' := by
  unfold insertLines
  extract_lets t n
  split
  next offset chunk heq =>
  have hoffset : offset ≤ d.text.length := by
    split at heq
    · exact (Prod.mk.inj heq).1 ▸ Nat.zero_le _
    · split at heq
      · exact (Prod.mk.inj heq).1 ▸ Nat.zero_le _
      · exact (Prod.mk.inj heq).1 ▸ d.text.lineEnd_le_length n
  rw [text_moveToLines]
  exact count_return_write hd hoffset id chunk

end Document

end LineEditor
