import LineEditor.Proofs.Session.Addressed
import LineEditor.Proofs.Session.LineEdits

/-!
# Putting deleted lines back

Lines that are deleted go into the unnamed register, and putting them where they were undoes the
deletion. Each of the two has its own idea of the separator that goes along with whole lines:
deleting takes the one behind the lines, or the one in front of the last lines; the register gets
one more, which is left out when its text is put back with a separator in front or behind. That they
fit together is seen on the list of lines.

What is put in is a text that is written through a range, and so its carriage returns become
separators. Deleted lines that hold one are not put back as they were.
-/

namespace LineEditor

open Text (unlines separator)

/-! ## Lines that are not all lines -/

namespace Text

variable {t : Text} {xs ys zs : List Text} {l : Text}

/-- If the last piece of a text is counted, the text does not end with a separator. -/
theorem getLast?_ne_of_lineCount (ht : 1 < t.lineCount) (h : t.lineCount = t.lines.length) :
    t.getLast? ≠ some separator := by
  obtain ⟨ms, l, hlines⟩ := exists_lines_eq t
  obtain ⟨-, hl⟩ := forall_isLine_append hlines
  have hne : l ≠ [] := by
    rintro rfl
    have hcount := lineCount_of_lines_eq hlines
    rw [hlines, List.length_append, List.length_singleton] at h
    rw [if_pos rfl] at hcount
    omega
  rw [eq_of_lines_eq hlines (List.cons_ne_nil l [])]
  exact getLast?_ne_separator (hl l List.mem_cons_self) hne _

/-- What is left when lines are taken out from between others. The lines in front are still counted
in it. -/
structure Leaves (xs zs : List Text) (u : Text) : Prop where
  /-- The lines that are left. -/
  lines : u.lines = xs ++ zs
  /-- It is not empty. -/
  ne_nil : u ≠ []
  /-- The lines in front are counted. -/
  le_lineCount : xs.length ≤ u.lineCount

/-- Lines with lines behind them are taken out, but not all that are counted. -/
theorem leaves_of_behind (h : t.lines = xs ++ ys ++ zs) (hys : ys ≠ []) (hzs : zs ≠ [])
    (hpart : xs = [] → ys.length ≠ t.lineCount) : Leaves xs zs (unlines (xs ++ zs)) := by
  obtain ⟨hfront, hbehind⟩ := forall_isLine_append h
  obtain ⟨hxs, -⟩ := List.forall_mem_append.mp hfront
  have hlines : (unlines (xs ++ zs)).lines = xs ++ zs :=
    lines_unlines (List.append_ne_nil_of_right_ne_nil _ hzs)
      (List.forall_mem_append.mpr ⟨hxs, hbehind⟩)
  refine ⟨hlines, fun hnil ↦ ?_, length_le_lineCount hlines hzs⟩
  rw [hnil] at hlines
  rcases List.singleton_eq_append_iff.mp hlines with ⟨rfl, rfl⟩ | ⟨-, hnone⟩
  · refine hpart rfl ?_
    have hpos := List.length_pos_iff.mpr hys
    rw [lineCount_of_lines_eq h, if_pos rfl, List.nil_append, Nat.add_zero]
    exact (Nat.max_eq_left hpos).symm
  · exact hzs hnone

/-- The last lines are taken out from behind a line that is not empty. -/
theorem leaves_of_last (h : t.lines = xs ++ [l] ++ ys) (hl : l ≠ []) :
    Leaves (xs ++ [l]) [] (unlines (xs ++ [l] ++ [])) := by
  have hlines : (unlines (xs ++ [l] ++ [])).lines = xs ++ [l] ++ [] := by
    refine lines_unlines (by simp) ?_
    rw [List.append_nil]
    exact (forall_isLine_append h).1
  refine ⟨hlines, fun hnil ↦ ?_, ?_⟩
  · rw [hnil, List.append_nil] at hlines
    rcases List.singleton_eq_append_iff.mp hlines with ⟨-, hsingle⟩ | ⟨-, hnone⟩
    · exact hl (List.cons.inj hsingle).1
    · exact absurd hnone (List.cons_ne_nil l [])
  · rw [List.append_nil] at hlines ⊢
    rw [List.length_append]
    exact length_succ_le_lineCount hlines hl

/-- Lines that are counted, but are not all lines, can be taken out so that the lines in front are
still counted; unless they are the last ones, and the line in front of them is empty. -/
theorem exists_leaves {a b : Nat} (ha : 1 ≤ a) (hab : a ≤ b) (hb : b ≤ t.lineCount)
    (hpart : ¬ (a = 1 ∧ b = t.lineCount))
    (hlast : b = t.lineCount → t.getLast? ≠ some separator → t.line (a - 1) ≠ []) :
    ∃ xs ys zs, t.lines = xs ++ ys ++ zs ∧ ys ≠ [] ∧ a = xs.length + 1 ∧
      b = xs.length + ys.length ∧ Leaves xs zs (unlines (xs ++ zs)) := by
  have hfits : Span.Fits ⟨a, b⟩ t := ⟨hab, Nat.le_trans hb t.lineCount_le_length_lines⟩
  have hlines := hfits.lines_eq
  obtain ⟨hfirst, hend⟩ := hfits.length_eq
  simp only [Nat.max_eq_left ha] at hlines hfirst hend
  generalize t.lines.take (a - 1) = xs at hlines hfirst hend
  generalize t.lineRange a b = ys at hlines hend
  generalize t.lines.drop b = zs at hlines
  have hys : ys ≠ [] := by
    rintro rfl
    rw [List.length_nil] at hend
    omega
  refine ⟨xs, ys, zs, hlines, hys, hfirst.symm, hend.symm, ?_⟩
  by_cases hzs : zs = []
  · subst hzs
    rw [List.append_nil] at hlines
    have hcount : b = t.lineCount := by
      have hle := t.lineCount_le_length_lines
      rw [hlines, List.length_append] at hle
      omega
    rcases xs.eq_nil_or_concat with rfl | ⟨ws, l, rfl⟩
    · exact absurd ⟨hfirst.symm, hcount⟩ hpart
    · rw [List.concat_eq_append] at hlines hfirst hend ⊢
      rw [List.length_append, List.length_singleton] at hfirst hend
      have hpos := List.length_pos_iff.mpr hys
      have hall : t.lineCount = t.lines.length := by
        rw [hlines, List.length_append, List.length_append, List.length_singleton]
        omega
      have hline : t.line (ws.length + 1) = l := by
        rw [List.append_assoc] at hlines
        exact line_of_lines_eq hlines
      refine leaves_of_last hlines (hline ▸ ?_)
      rw [← hfirst, Nat.add_sub_cancel] at hlast
      exact hlast hcount (getLast?_ne_of_lineCount (by omega) hall)
  · refine leaves_of_behind hlines hys hzs ?_
    rintro rfl hall
    exact hpart ⟨hfirst.symm, hend.symm.trans ((Nat.zero_add _).trans hall)⟩

end Text

/-! ## Deleting and putting back -/

namespace Command

/-- Deletes lines that are addressed by their numbers, as `a,b d` does. -/
def deleting (a b : Nat) : Command :=
  ⟨[.address ⟨.line a, 0⟩, .comma, .address ⟨.line b, 0⟩], some .delete, false, 1, []⟩

/-- Puts the text of the unnamed register behind a line, as `n pu` does, or in front of all lines,
as `1 pu!` does. -/
def puttingBehind : Nat → Command
  | 0 => ⟨[.address ⟨.line 1, 0⟩], some .put, true, 1, []⟩
  | n + 1 => ⟨[.address ⟨.line (n + 1), 0⟩], some .put, false, 1, []⟩

end Command

namespace Run

variable {s : Scene} {xs ys zs : List Text} {t : Text} {n : Nat}

theorem exists_run_deleting (hs : s.document.surface.IsReliable)
    (h : s.document.text.lines = xs ++ ys ++ zs) (hys : ys ≠ [])
    (hcount : xs.length + ys.length ≤ s.document.text.lineCount)
    (hmax : ((xs.length + ys.length : Nat) : Int) ≤ Text.maxInteger) :
    ∃ s', (execute (.deleting (xs.length + 1) (xs.length + ys.length))).run s = (.ok (), s') ∧
      s.document.Becomes (unlines (xs ++ zs)) s'.document ∧
      s'.session.registers.get? none = some (unlines ys ++ [separator]) := by
  have hpos := List.length_pos_iff.mpr hys
  obtain ⟨s₁, happroach, happroached⟩ := run_approach_of_resolve
    (c := .deleting (xs.length + 1) (xs.length + ys.length)) rfl
    (run_resolve_lines (by omega) hcount hmax)
  have hopened := happroached.stays
  have hlines : s₁.opened.document.text.lines = xs ++ ys ++ zs := by rw [hopened.text, h]
  obtain ⟨s₂, hrun, hdeleted, hregister, -⟩ := run_deleteOrYank (Nat.le_add_left 1 xs.length)
    (Nat.le_trans hpos (Nat.le_add_left _ _)) true s₁.opened
  have hbecomes := Document.becomes_deleteLines (hopened.surface ▸ hs) hlines hys
  rw [Text.linesText, Text.lineRange_of_lines_eq hlines] at hregister
  refine ⟨_, run_executeWith rfl happroach hrun, ?_, hregister⟩
  exact hopened.left
    (hbecomes.stays (hdeleted.stays.trans (s₂.stays_closed.trans ⟨rfl, rfl⟩)))

/-- The text of the unnamed register is inserted as lines. -/
theorem exists_run_put {c : Command} {span : Span} (hname : c.name = some .put)
    (hparameter : c.parameter = [])
    (hresolve : (resolve c.addresses).run s = (.ok (some span), s))
    (hbehind : (if c.bang then span.first - 1 else span.last) = n)
    (h : s.session.registers.get? none = some (t ++ [separator])) :
    ∃ d id s', (execute c).run s = (.ok (), s') ∧ s.document.Stays d ∧
      (d.insertLines id n t []).Stays s'.document := by
  obtain ⟨s₁, happroach, happroached⟩ := run_approach_of_resolve hname hresolve
  have hput : (dispatch innerLine .put c span).run s₁.opened = (.ok (), s₁.opened.withDocument
      (s₁.opened.document.insertLines s₁.opened.range n t [])) := by
    have hregister : s₁.opened.session.registers.get? none = some (t ++ [separator]) := by
      rw [← h, happroached.session]
    rw [← hbehind, ← run_put hregister span c.bang, ← hparameter]
    rfl
  obtain ⟨s', hrun, -, hafter, -⟩ := exists_run_executeWith rfl happroach hput
  exact ⟨s₁.opened.document, s₁.opened.range, s', hrun, happroached.stays,
    (Scene.stays_withDocument _ _).trans hafter⟩

theorem exists_run_puttingBehind (hn : n ≤ s.document.text.lineCount)
    (hmax : (n : Int) ≤ Text.maxInteger)
    (h : s.session.registers.get? none = some (t ++ [separator])) :
    ∃ d id s', (execute (.puttingBehind n)).run s = (.ok (), s') ∧ s.document.Stays d ∧
      (d.insertLines id n t []).Stays s'.document := by
  cases n with
  | zero =>
    have hone : ((1 : Nat) : Int) ≤ Text.maxInteger := by decide
    exact exists_run_put rfl rfl (run_resolve_line (Text.one_le_lineCount _) hone) rfl h
  | succ n => exact exists_run_put rfl rfl (run_resolve_line hn hmax) rfl h

/-- **Deleting and putting back.** Lines of a text that are counted, but are not all lines, are
deleted and put back where they were. Both commands succeed, and they restore the text exactly if
the deleted lines hold no carriage return. If the lines are the last ones and no separator is behind
them, the line in front of them is not to be empty: it would end the text that is left, and would
not be counted there. The numbers fit into the integers that addresses are worked out in. -/
theorem text_put_deleting {a b : Nat} (hs : s.document.surface.IsReliable) (ha : 1 ≤ a)
    (hab : a ≤ b) (hb : b ≤ s.document.text.lineCount) (hmax : (b : Int) ≤ Text.maxInteger)
    (hpart : ¬ (a = 1 ∧ b = s.document.text.lineCount))
    (hlast : b = s.document.text.lineCount → s.document.text.getLast? ≠ some separator →
      s.document.text.line (a - 1) ≠ []) :
    ∃ s₁ s₂, (execute (.deleting a b)).run s = (.ok (), s₁) ∧
      (execute (.puttingBehind (a - 1))).run s₁ = (.ok (), s₂) ∧
      (s₂.document.text = s.document.text ↔ '\r' ∉ s.document.text.linesText a b) := by
  obtain ⟨xs, ys, zs, hlines, hys, rfl, rfl, hleaves⟩ := Text.exists_leaves ha hab hb hpart hlast
  obtain ⟨s₁, hdelete, hdeleted, hregister⟩ := exists_run_deleting hs hlines hys hb hmax
  rw [← hdeleted.text] at hleaves
  obtain ⟨d, id, s₂, hput, hstays, hwritten⟩ := exists_run_puttingBehind hleaves.le_lineCount
    (by omega) hregister
  refine ⟨s₁, s₂, hdelete, hput, ?_⟩
  have hd : d.surface.IsReliable := hstays.surface ▸ hdeleted.reliable
  rw [← hstays.text] at hleaves
  rw [hwritten.text, Text.linesText, Text.lineRange_of_lines_eq hlines]
  constructor
  · -- the carriage returns of the deleted lines are missed
    intro htext
    have hcount := d.count_return_insertLines hd id xs.length (unlines ys)
    have hdeletedText : d.text = unlines (xs ++ zs) := hstays.text.trans hdeleted.text
    have hne : '\r' ≠ separator := by decide
    rw [htext, hdeletedText, ← s.document.text.unlines_lines, hlines] at hcount
    simp only [Text.count_unlines_append hne] at hcount
    rw [← List.count_eq_zero]
    omega
  · intro hreturn
    have hbecomes := Document.becomes_insertLines_of_not_mem hd hleaves.ne_nil hleaves.lines
      hleaves.le_lineCount hreturn id []
    obtain ⟨hfront, -⟩ := Text.forall_isLine_append hlines
    have hsame : (unlines ys).lines.map (Insertion.indentLine []) = ys := by
      rw [Text.lines_unlines hys (List.forall_mem_append.mp hfront).2]
      exact List.map_id'' Insertion.indentLine_nil ys
    rw [hsame, ← hlines, Text.unlines_lines] at hbecomes
    exact hbecomes.text

/-- Two lines at the end of a text are put back, the first of them empty. -/
theorem text_put_deleting_at_end :
    let s : Scene := { document := .ofSurface (.ofField "a\nb\n\nc".toList) {}, range := 0 }
    ∃ s₁ s₂, (execute (.deleting 3 4)).run s = (.ok (), s₁) ∧
      (execute (.puttingBehind 2)).run s₁ = (.ok (), s₂) ∧
      s₂.document.text = "a\nb\n\nc".toList := by
  intro s
  have hlast : 4 = s.document.text.lineCount → s.document.text.getLast? ≠ some separator →
      s.document.text.line 2 ≠ [] := by
    decide
  obtain ⟨s₁, s₂, hdelete, hput, hrestores⟩ := text_put_deleting (s := s) (a := 3) (b := 4)
    (Surface.isReliable_of_isFlat trivial) (by decide) (by decide) (by decide) (by decide)
    (by decide) hlast
  exact ⟨s₁, s₂, hdelete, hput, hrestores.mpr (by decide)⟩

/-- A carriage return is not put back. Nor is a line put back where it was if it was the last one
and the line in front of it is empty. -/
theorem not_text_put_deleting :
    let restored (t : String) (a b : Nat) : Text :=
      ((do execute (.deleting a b); execute (.puttingBehind (a - 1)) : Run Unit).run
        { document := .ofSurface (.ofField t.toList) {}, range := 0 }).2.document.text
    restored "a\rb\nc" 1 1 = "a\nb\nc".toList ∧ restored "a\rb\nc" 1 1 ≠ "a\rb\nc".toList ∧
      restored "a\n\nb" 3 3 = "a\nb\n".toList ∧ restored "a\n\nb" 3 3 ≠ "a\n\nb".toList := by
  decide +kernel

end Run

end LineEditor
