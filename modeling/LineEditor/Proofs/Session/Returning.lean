import LineEditor.Proofs.Session.Covering
import LineEditor.Proofs.Session.Spans

/-!
# Returning to lines

Lines that are given by their numbers are turned into bounds, and bounds are turned back into the
numbers of the lines that they touch. Bounds that end right behind a separator do not touch the line
behind it. This is what they are meant to do, but it is also how the bounds of lines end the last of
which is empty: such a line is lost on the way back, unless it is the only one. No other line is.
-/

namespace LineEditor

open Text (closed opened unlines separator IsLine)

/-! ## From lines to bounds and back -/

namespace Bounds

variable {t l : Text} {xs ks zs : List Text}

/-- Where a line that is not empty ends, there is no separator in front. -/
theorem getElem?_end_ne_separator (h : t.lines = xs ++ l :: zs) (hl : l ≠ []) :
    t[(closed xs ++ l).length - 1]? ≠ some separator := by
  obtain ⟨-, hlines⟩ := Text.forall_isLine_append h
  have hline : IsLine l := hlines l List.mem_cons_self
  have hpos := List.length_pos_iff.mpr hl
  intro hat
  rw [Text.eq_of_lines_eq_cons h, List.length_append, List.append_assoc,
    List.getElem?_append_right (by omega), List.getElem?_append_left (by omega)] at hat
  exact hline (List.mem_of_getElem? hat)

/-- An offset where a line starts or ends is in that line. -/
theorem lineAt_of_lines_eq (h : t.lines = xs ++ l :: zs) :
    t.lineAt (closed xs).length = xs.length + 1 ∧
      t.lineAt (closed xs ++ l).length = xs.length + 1 := by
  obtain ⟨hxs, hlines⟩ := Text.forall_isLine_append h
  have hstart := Text.lineAt_closed hxs Text.isLine_nil (l ++ opened zs)
  have hstop := Text.lineAt_closed hxs (hlines l List.mem_cons_self) (opened zs)
  rw [List.append_nil, ← List.append_assoc, ← Text.eq_of_lines_eq_cons h] at hstart
  rw [← Text.eq_of_lines_eq_cons h] at hstop
  exact ⟨hstart, hstop⟩

/-- Behind a line that is not the last one there is a separator. -/
theorem getElem?_end_of_lines_eq {m : Text} (h : t.lines = xs ++ m :: l :: zs) :
    t[(closed xs ++ m).length]? = some separator ∧
      (closed (xs ++ [m])).length = (closed xs ++ m).length + 1 := by
  constructor
  · rw [Text.eq_of_lines_eq_cons h, List.getElem?_append_right (Nat.le_refl _), Nat.sub_self]
    rfl
  · rw [Text.closed_append, Text.closed_singleton, ← List.append_assoc, List.length_append]
    rfl

/-- The bounds of lines touch all of them but the last one, and that one too unless it is empty and
there are others. -/
theorem lineNumbers_of_lines_eq (h : t.lines = xs ++ ks ++ l :: zs) :
    lineNumbers t ⟨(closed xs).length, (closed (xs ++ ks) ++ l).length⟩
      = (xs.length + 1,
        if ks ≠ [] ∧ l = [] then xs.length + ks.length else xs.length + ks.length + 1) := by
  rcases ks.eq_nil_or_concat with rfl | ⟨ms, m, rfl⟩
  · rw [List.append_nil] at h ⊢
    rw [lineNumbers_cut h, if_neg fun hl ↦ hl.1 rfl]
    rfl
  rw [List.concat_eq_append, ← List.append_assoc] at h ⊢
  have hlength : (xs ++ ms ++ [m]).length = xs.length + (ms ++ [m]).length := by
    rw [List.append_assoc, List.length_append]
  have hne : ms ++ [m] ≠ [] := List.append_ne_nil_of_right_ne_nil _ (List.cons_ne_nil m [])
  have hm : t.lines = xs ++ ms ++ m :: l :: zs := by
    rw [h, List.append_assoc (xs ++ ms)]
    rfl
  obtain ⟨hseparator, hsucc⟩ := getElem?_end_of_lines_eq hm
  have hstart : t.lineAt (closed xs).length = xs.length + 1 := by
    obtain ⟨k, rest, hrest⟩ := List.exists_cons_of_ne_nil
      (List.append_ne_nil_of_left_ne_nil hne (l :: zs))
    have hk : t.lines = xs ++ k :: rest := by
      rw [h, ← hrest, List.append_assoc, List.append_assoc, List.append_assoc]
    exact (lineAt_of_lines_eq hk).1
  have hle : (closed xs).length ≤ (closed (xs ++ ms)).length := by
    rw [Text.closed_append, List.length_append]
    exact Nat.le_add_right _ _
  rw [List.length_append] at hsucc
  by_cases hl : l = []
  · -- the bounds end right behind the separator that ends the line in front
    subst hl
    have hlast : (closed (xs ++ ms ++ [m]) ++ []).length - 1 = (closed (xs ++ ms) ++ m).length := by
      rw [List.append_nil, hsucc, List.length_append]
      rfl
    have hlt : (closed xs).length < (closed (xs ++ ms ++ [m]) ++ []).length := by
      rw [List.append_nil, hsucc]
      omega
    have hat := (lineAt_of_lines_eq hm).2
    simp only [lineNumbers, hlast, hseparator, hlt, and_self, if_true, hat, hstart]
    rw [if_pos ⟨hne, trivial⟩]
    simp only [List.length_append, List.length_singleton]
    congr 1
    omega
  · have hnot := getElem?_end_ne_separator h hl
    have hat := (lineAt_of_lines_eq h).2
    simp only [lineNumbers, hnot, and_false, if_false, hat, hstart, hlength]
    rw [if_neg fun h ↦ hl h.2]
    congr 1
    omega

/-- The last line that the bounds of lines `a` to `b` touch: an empty one is not touched, unless it
is the only one. -/
def lastTouched (t : Text) (a b : Nat) : Nat := if a < b ∧ t.line b = [] then b - 1 else b

/-- The numbers of lines are turned into bounds and back. -/
theorem lineNumbers_ofLines {a b : Nat} (ha : 1 ≤ a) (hab : a ≤ b) (hb : b ≤ t.lines.length) :
    lineNumbers t (ofLines t a b) = (a, lastTouched t a b) := by
  obtain ⟨xs, ks, l, zs, hlines, rfl, rfl⟩ : ∃ xs ks l zs, t.lines = xs ++ ks ++ l :: zs ∧
      xs.length + 1 = a ∧ xs.length + ks.length + 1 = b := by
    have hdrop : t.lines.drop (b - 1) ≠ [] := by
      rw [← List.length_pos_iff, List.length_drop]
      omega
    obtain ⟨l, zs, hrest⟩ := List.exists_cons_of_ne_nil hdrop
    refine ⟨(t.lines.take (b - 1)).take (a - 1), (t.lines.take (b - 1)).drop (a - 1), l, zs, ?_⟩
    rw [List.take_append_drop, ← hrest, List.take_append_drop, List.length_take, List.length_drop,
      List.length_take]
    refine ⟨rfl, ?_, ?_⟩ <;> omega
  have hcut : t.lines = xs ++ (ks ++ [l]) ++ zs := by
    rw [hlines]
    simp only [List.append_assoc, List.singleton_append]
  have hline : t.line (xs.length + ks.length + 1) = l := by
    rw [← List.length_append]
    exact Text.line_of_lines_eq hlines
  have hbounds := ofLines_cut hcut (List.append_ne_nil_of_right_ne_nil ks (List.cons_ne_nil l []))
  have hstop : closed xs ++ unlines (ks ++ [l]) = closed (xs ++ ks) ++ l := by
    rw [Text.unlines_append ks (List.cons_ne_nil l []), Text.closed_append, List.append_assoc]
    rfl
  have hks : ks ≠ [] ↔ xs.length + 1 < xs.length + ks.length + 1 := by
    rw [← List.length_pos_iff]
    omega
  rw [List.length_append, List.length_singleton, ← Nat.add_assoc] at hbounds
  rw [hbounds, hstop, lineNumbers_of_lines_eq hlines, lastTouched, hline]
  simp only [hks, Nat.add_sub_cancel]

end Bounds

/-- A range that is set to lines touches them, but for an empty last one. -/
theorem Document.lines_moveToLines_eq {d : Document} {a b : Nat} (ha : 1 ≤ a) (hab : a ≤ b)
    (hb : b ≤ d.text.lines.length) (id : RangeId) :
    (d.moveToLines id a b).lines id = (a, Bounds.lastTouched d.text a b) := by
  rw [lines, bounds_moveToLines]
  exact Bounds.lineNumbers_ofLines ha hab hb

/-! ## Addresses alone -/

/-- Lines `a` to `b`, addressed by their numbers without a command, as `a,b` does. -/
def Command.bare (a b : Nat) : Command :=
  ⟨[.address ⟨.line a, 0⟩, .comma, .address ⟨.line b, 0⟩], none, false, 1, []⟩

namespace Run

variable {s : Scene} {c : Command} {a b : Nat}

/-- Addresses alone put the range on the lines that they mean, and do nothing else to the text. -/
theorem exists_run_bare (hs : s.IsApart) (hname : c.name = none) {span : Span}
    (hresolve : (resolve c.addresses).run s = (.ok (some span), s)) (runLine : Text → Run Unit) :
    ∃ s', (executeWith runLine c).run s = (.ok (), s') ∧ s'.document.text = s.document.text ∧
      s'.document.bounds s'.range
        = .ofLines s.document.text (max span.first 1 : Nat) (max span.last 1 : Nat) := by
  let s₁ := s.withDocument (s.document.bookmark s.range previousMark)
  let s₂ := s₁.withDocument
    (s₁.document.moveToLines s₁.range (max span.first 1) (max span.last 1))
  let s₃ := s₂.withDocument (s₂.document.bookmark s₂.range currentMark)
  have hrun : (executeWith runLine c).run s = (.ok (), s₃) := by
    have happroach : (approach c).run s = (.ok none, s₃) := by
      rw [approach, run_bind, hresolve]
      simp only [hname, Option.isSome_some, if_true]
      rfl
    rw [executeWith, run_bind, happroach]
    rfl
  -- both marks are other ranges than the one that is moved
  have hapart : s₁.document.IsApart s.range := by
    have hset := Document.IsApart.setMark hs previousMark (s.document.bounds s.range)
    exact ⟨hset.lt, hset.marks_lt, hset.marks_ne⟩
  have hmoved : s₂.document.IsApart s.range := ⟨hapart.lt, hapart.marks_lt, hapart.marks_ne⟩
  have hbounds : s₃.document.bounds s.range = s₂.document.bounds s.range :=
    hmoved.bounds_setMark currentMark _
  exact ⟨s₃, hrun, rfl, hbounds.trans (Document.bounds_moveToLines s₁.document s.range _ _)⟩

/-- **Returning to lines.** A range that is set to lines that are counted touches the same lines,
but for an empty last one with others in front of it. So does the range of the scene when the lines
are addressed by their numbers alone, and then `%%` means the lines that it touches. For this the
range has a number of its own, and the numbers fit into the integers that addresses are worked out
in. -/
theorem returns_to_lines (runLine : Text → Run Unit) (ha : 1 ≤ a) (hab : a ≤ b)
    (hb : b ≤ s.document.text.lineCount) :
    let t := s.document.text
    let last := Bounds.lastTouched t a b
    (∀ id, (s.document.moveToLines id a b).lines id = (a, last)) ∧
      (s.IsApart → (b : Int) ≤ Text.maxInteger →
        ∃ s', (executeWith runLine (.bare a b)).run s = (.ok (), s') ∧ s'.document.text = t ∧
          s'.document.lines s'.range = (a, last) ∧
          (resolve [.address ⟨.currentRange, 0⟩]).run s' = (.ok (some ⟨a, last⟩), s')) := by
  intro t last
  have hlines : b ≤ t.lines.length := Nat.le_trans hb t.lineCount_le_length_lines
  have hlast : last ≤ b ∧ a ≤ last := by
    simp only [last, Bounds.lastTouched]
    split <;> omega
  refine ⟨Document.lines_moveToLines_eq ha hab hlines, fun hs hmax ↦ ?_⟩
  obtain ⟨s', hrun, htext, hbounds⟩ :=
    exists_run_bare (c := .bare a b) hs rfl (run_resolve_lines hab hb hmax) runLine
  have htouched : s'.document.lines s'.range = (a, last) := by
    rw [Document.lines, hbounds, htext, Nat.max_eq_left ha, Nat.max_eq_left (Nat.le_trans ha hab)]
    exact Bounds.lineNumbers_ofLines ha hab hlines
  refine ⟨s', hrun, htext, htouched, ?_⟩
  have hmeant := run_resolve_currentRange 0 s'
  have hcounted : last ≤ s'.document.text.lineCount := htext ▸ Nat.le_trans hlast.1 hb
  have hfits : (last : Int) ≤ Text.maxInteger := Int.le_trans (Int.ofNat_le.mpr hlast.1) hmax
  rw [htouched] at hmeant
  simp only [Address.lineAt_zero hcounted hfits, Span.between, Nat.min_eq_left hlast.2,
    Nat.max_eq_right hlast.2] at hmeant
  exact hmeant

/-- The last two of four lines, the first of them empty. -/
theorem returns_to_lines_empty_first :
    let s := Cli.initial {} {} [] "a\nb\n\nc\n".toList
    s.document.text.lineCount = 4 ∧
      ∃ s', (execute (.bare 3 4)).run s = (.ok (), s') ∧
        (resolve [.address ⟨.currentRange, 0⟩]).run s' = (.ok (some ⟨3, 4⟩), s') := by
  intro s
  obtain ⟨-, hreturns⟩ := returns_to_lines (s := s) (a := 3) (b := 4) innerLine (by decide)
    (by decide) (by decide +kernel)
  obtain ⟨s', hrun, -, -, hmeant⟩ := hreturns (Scene.isApart_initial _ _ _ _) (by decide)
  exact ⟨by decide +kernel, s', hrun, hmeant⟩

/-- A line and an empty one behind it: the range touches the first one only. -/
theorem not_returns_to_lines :
    let s := Cli.initial {} {} [] "a\n\nb".toList
    let s' := ((execute (.bare 1 2)).run s).2
    s.document.text.lineCount = 3 ∧
      (s.document.moveToLines s.range 1 2).lines s.range = (1, 1) ∧
      (s.document.moveToLines s.range 1 2).lines s.range ≠ (1, 2) ∧
      ((resolve [.address ⟨.currentRange, 0⟩]).run s').1.toOption = some (some ⟨1, 1⟩) := by
  decide +kernel

end Run

end LineEditor
