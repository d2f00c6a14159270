import LineEditor.Text.Indent
import Mathlib.Data.List.DropRight
import Mathlib.Data.Nat.ModEq

/-!
# Columns of an indentation

A tab reaches to the next tab stop, so the width of what stands behind a column depends on the
column. It does not depend on whole tab stops, and once a tab has come, it differs by whole tab
stops only.

To move a line to the left is to drop characters of its indentation as long as columns are left to
drop. Characters are not cut: a tab that reaches beyond the columns asked for is dropped as a whole.
And a tab that stays begins elsewhere than before. So the width that is left is the one asked for
only if no tab reaches beyond the columns, or if these are whole tab stops; otherwise it is off by
less than one tab stop.
-/

namespace LineEditor.Text

variable {tabsize col col' k width : Nat} {c : Char} {indent line : Text}

/-- The column reached by an indentation from column `col` on. -/
def reach (tabsize col : Nat) (indent : Text) : Nat := indent.foldl (advance tabsize) col

/-! ## Columns -/

@[simp] theorem reach_nil (tabsize col : Nat) : reach tabsize col [] = col := rfl

theorem reach_cons (tabsize col : Nat) (c : Char) (indent : Text) :
    reach tabsize col (c :: indent) = reach tabsize (advance tabsize col c) indent := rfl

theorem reach_append (tabsize col : Nat) (a b : Text) :
    reach tabsize col (a ++ b) = reach tabsize (reach tabsize col a) b := List.foldl_append

theorem indentWidth_eq (h : 0 < tabsize) (indent : Text) :
    indent.indentWidth tabsize = reach tabsize 0 indent := by
  rw [indentWidth, Nat.max_eq_left h]
  rfl

theorem lt_advance (h : 0 < tabsize) (col : Nat) (c : Char) : col < advance tabsize col c := by
  have hmod := Nat.mod_lt col h
  unfold advance
  split <;> omega

theorem advance_tab_eq (h : 0 < tabsize) (col : Nat) :
    advance tabsize col '\t' = (col / tabsize + 1) * tabsize := by
  have hmod := Nat.mod_lt col h
  have hdiv := Nat.div_add_mod' col tabsize
  rw [advance, if_pos rfl, Nat.add_mul, Nat.one_mul]
  omega

/-- A tab reaches to a tab stop, and to no stop behind the next one. -/
theorem dvd_advance_tab (h : 0 < tabsize) (col : Nat) : tabsize ∣ advance tabsize col '\t' := by
  rw [advance_tab_eq h]
  exact Nat.dvd_mul_left _ _

theorem advance_tab_le (h : 0 < tabsize) (hk : tabsize ∣ k) (hlt : col < k) :
    advance tabsize col '\t' ≤ k := by
  obtain ⟨q, rfl⟩ := hk
  rw [advance_tab_eq h, Nat.mul_comm tabsize]
  refine Nat.mul_le_mul_right _ (Nat.succ_le_of_lt ?_)
  exact (Nat.div_lt_iff_lt_mul h).mpr (Nat.mul_comm tabsize q ▸ hlt)

theorem advance_le (tabsize col : Nat) (h : 0 < tabsize) (c : Char) :
    advance tabsize col c ≤ col + tabsize := by
  unfold advance
  split <;> omega

/-- From a column whole tab stops further, a character reaches as much further. -/
theorem advance_add (hk : tabsize ∣ k) (col : Nat) (c : Char) :
    advance tabsize (k + col) c = k + advance tabsize col c := by
  have hmod : (k + col) % tabsize = col % tabsize := by
    rw [Nat.add_mod, Nat.mod_eq_zero_of_dvd hk, Nat.zero_add, Nat.mod_mod]
  unfold advance
  rw [hmod]
  split <;> omega

theorem advance_mono (h : 0 < tabsize) (hle : col ≤ col') (c : Char) :
    advance tabsize col c ≤ advance tabsize col' c := by
  by_cases hc : c = '\t'
  · subst hc
    rw [advance_tab_eq h, advance_tab_eq h]
    exact Nat.mul_le_mul_right _ (Nat.succ_le_succ (Nat.div_le_div_right hle))
  · rw [advance, advance, if_neg hc, if_neg hc]
    omega

theorem le_reach (h : 0 < tabsize) (col : Nat) (indent : Text) :
    col ≤ reach tabsize col indent := by
  induction indent generalizing col with
  | nil => exact Nat.le_refl col
  | cons c indent ih => exact Nat.le_trans (Nat.le_of_lt (lt_advance h col c)) (ih _)

theorem reach_mono (h : 0 < tabsize) (hle : col ≤ col') (indent : Text) :
    reach tabsize col indent ≤ reach tabsize col' indent := by
  induction indent generalizing col col' with
  | nil => exact hle
  | cons c indent ih => exact ih (advance_mono h hle c)

theorem reach_add (hk : tabsize ∣ k) (col : Nat) (indent : Text) :
    reach tabsize (k + col) indent = k + reach tabsize col indent := by
  induction indent generalizing col with
  | nil => rfl
  | cons c indent ih => rw [reach_cons, reach_cons, advance_add hk, ih]

/-- Without a tab each character takes one column. -/
theorem reach_of_not_mem (h : '\t' ∉ indent) (tabsize col : Nat) :
    reach tabsize col indent = col + indent.length := by
  induction indent generalizing col with
  | nil => rfl
  | cons c indent ih =>
    obtain ⟨hc, hindent⟩ := not_or.mp (mt List.mem_cons.mpr h)
    have htab : c ≠ '\t' := fun h ↦ hc h.symm
    rw [reach_cons, ih hindent, advance, if_neg htab, List.length_cons]
    omega

/-- Behind a tab, where it all began makes a difference of whole tab stops. -/
theorem modEq_reach (h : 0 < tabsize) (hmem : '\t' ∈ indent) (col col' : Nat) :
    reach tabsize col indent ≡ reach tabsize col' indent [MOD tabsize] := by
  obtain ⟨a, b, rfl⟩ := List.append_of_mem hmem
  have hbehind (col : Nat) :
      reach tabsize col (a ++ '\t' :: b) ≡ reach tabsize 0 b [MOD tabsize] := by
    have hstop := dvd_advance_tab h (reach tabsize col a)
    have hsum := reach_add hstop 0 b
    rw [Nat.add_zero] at hsum
    rw [reach_append, reach_cons, hsum]
    exact Nat.modEq_iff_dvd' (Nat.le_add_left _ _) |>.mpr (by simpa using hstop) |>.symm
  exact (hbehind col).trans (hbehind col').symm

/-- Moved by columns, an indentation keeps its width exactly if these are whole tab stops or there
is no tab in it. -/
theorem reach_eq_add_iff (h : 0 < tabsize) (k : Nat) (indent : Text) :
    reach tabsize k indent = k + reach tabsize 0 indent ↔ tabsize ∣ k ∨ '\t' ∉ indent := by
  constructor
  · intro heq
    by_cases htab : '\t' ∈ indent
    · have hmod := modEq_reach h htab 0 k
      rw [heq] at hmod
      have hwhole := (Nat.modEq_iff_dvd' (Nat.le_add_left _ _)).mp hmod
      rw [Nat.add_sub_cancel] at hwhole
      exact .inl hwhole
    · exact .inr htab
  · rintro (hdvd | htab)
    · have hsum := reach_add hdvd 0 indent
      rwa [Nat.add_zero] at hsum
    · rw [reach_of_not_mem htab, reach_of_not_mem htab, Nat.zero_add]

/-- Less than one tab stop is gained or lost by beginning elsewhere. -/
theorem reach_near (h : 0 < tabsize) (col : Nat) (indent : Text) :
    col + reach tabsize 0 indent < reach tabsize col indent + tabsize ∧
      reach tabsize col indent < col + reach tabsize 0 indent + tabsize := by
  have hstops : tabsize ∣ col / tabsize * tabsize := Nat.dvd_mul_left _ _
  have hsplit := Nat.div_add_mod' col tabsize
  have hmod := Nat.mod_lt col h
  have hcol := reach_add hstops (col % tabsize) indent
  rw [hsplit] at hcol
  have hbelow := reach_mono h (Nat.zero_le (col % tabsize)) indent
  have habove := reach_mono h (Nat.le_of_lt hmod) indent
  have hstop := reach_add (Nat.dvd_refl tabsize) 0 indent
  rw [Nat.add_zero] at hstop
  by_cases hzero : col % tabsize = 0
  · rw [hzero] at hcol hsplit
    omega
  · omega

/-! ## What is dropped -/

/-- Of an indentation, characters are dropped up to a place. Something is left only if the columns
are gone, and they are gone behind the last character that is dropped, not before. -/
theorem exists_outdentFrom_eq (width tabsize col : Nat) (line : Text) :
    ∃ removed left, line.indentation = removed ++ left ∧
      outdentFrom width tabsize col line = left ++ line.dropWhile isIndent ∧
      (left ≠ [] → width ≤ reach tabsize col removed) ∧
      ∀ a b, removed = a ++ b → b ≠ [] → reach tabsize col a < width := by
  induction line generalizing col with
  | nil => exact ⟨[], [], rfl, rfl, fun h ↦ absurd rfl h, fun a b h hb ↦
      absurd (List.append_eq_nil_iff.mp h.symm).2 hb⟩
  | cons c rest ih =>
    have hnone : ∀ a b : Text, [] = a ++ b → b ≠ [] → reach tabsize col a < width := fun a b h hb ↦
      absurd (List.append_eq_nil_iff.mp h.symm).2 hb
    by_cases hgone : width ≤ col
    · refine ⟨[], indentation (c :: rest), rfl, ?_, fun _ ↦ hgone, hnone⟩
      rw [outdentFrom, if_pos hgone]
      exact List.takeWhile_append_dropWhile.symm
    by_cases hc : isIndent c
    · obtain ⟨removed, left, hindent, hleft, hwidth, hbefore⟩ := ih (advance tabsize col c)
      refine ⟨c :: removed, left, ?_, ?_, hwidth, fun a b h hb ↦ ?_⟩
      · rw [indentation, List.takeWhile_cons_of_pos hc, ← indentation, hindent]
        rfl
      · rw [outdentFrom, if_neg hgone, if_pos hc, hleft, List.dropWhile_cons_of_pos hc]
      · cases a with
        | nil => exact Nat.lt_of_not_le hgone
        | cons d a =>
          obtain ⟨rfl, hremoved⟩ := List.cons.inj h
          exact hbefore a b hremoved hb
    · refine ⟨[], [], ?_, ?_, fun h ↦ absurd rfl h, hnone⟩
      · rw [indentation, List.takeWhile_cons_of_neg hc]
        rfl
      · rw [outdentFrom, if_neg hgone, if_neg hc, List.dropWhile_cons_of_neg hc]
        rfl

/-- Spaces in front of a line are dropped, and nothing else. -/
theorem outdentFrom_replicate_append (n tabsize col : Nat) (line : Text) :
    outdentFrom (col + n) tabsize col (List.replicate n ' ' ++ line) = line := by
  induction n generalizing col with
  | zero =>
    cases line with
    | nil => rfl
    | cons c rest => exact if_pos (Nat.le_refl col)
  | succ n ih =>
    have hleft : ¬ col + (n + 1) ≤ col := by omega
    have hspace : isIndent ' ' = true := rfl
    have hcolumn : advance tabsize col ' ' = col + 1 := rfl
    rw [List.replicate_succ, List.cons_append, outdentFrom, if_neg hleft, if_pos hspace, hcolumn,
      Nat.add_comm n 1, ← Nat.add_assoc]
    exact ih (col + 1)

theorem outdent_replicate_append (width tabsize : Nat) (line : Text) :
    outdent (List.replicate width ' ' ++ line) width tabsize = line := by
  have hback := outdentFrom_replicate_append width (max tabsize 1) 0 line
  rwa [Nat.zero_add] at hback

/-- Indentation characters in front of what stands behind an indentation are one. -/
theorem indentation_append {left : Text} (h : ∀ c ∈ left, isIndent c = true) (line : Text) :
    (left ++ line.dropWhile isIndent).indentation = left ∧
      (left ++ line.dropWhile isIndent).dropWhile isIndent = line.dropWhile isIndent := by
  have hnone : (line.dropWhile isIndent).takeWhile isIndent = [] := by
    have hhead := List.head?_dropWhile_not isIndent line
    cases hrest : line.dropWhile isIndent with
    | nil => rfl
    | cons c rest =>
      rw [hrest] at hhead
      exact List.takeWhile_cons_of_neg (Bool.eq_false_iff.mp hhead)
  rw [indentation, List.takeWhile_append_of_pos h, hnone, List.append_nil,
    List.dropWhile_append_of_pos h, List.dropWhile_idempotent]
  exact ⟨rfl, rfl⟩

/-- The line that is left when columns are dropped. -/
theorem exists_outdent_eq (width tabsize : Nat) (line : Text) :
    ∃ removed left, line.indentation = removed ++ left ∧
      (line.outdent width tabsize).indentation = left ∧
      (line.outdent width tabsize).dropWhile isIndent = line.dropWhile isIndent ∧
      (left ≠ [] → width ≤ removed.indentWidth tabsize) ∧
      ∀ a b, removed = a ++ b → b ≠ [] → a.indentWidth tabsize < width := by
  obtain ⟨removed, left, hindent, hleft, hwidth, hbefore⟩ :=
    exists_outdentFrom_eq width (max tabsize 1) 0 line
  have hall : ∀ c ∈ left, isIndent c = true := fun c hc ↦
    List.mem_takeWhile_imp (hindent ▸ List.mem_append_right removed hc : c ∈ line.indentation)
  obtain ⟨hindentation, hrest⟩ := indentation_append hall line
  refine ⟨removed, left, hindent, ?_, ?_, hwidth, hbefore⟩
  · rw [outdent, hleft, hindentation]
  · rw [outdent, hleft, hrest]

/-- A line from which columns are dropped is the end of what it was. -/
theorem outdent_suffix (width tabsize : Nat) (line : Text) :
    line.outdent width tabsize <:+ line := by
  obtain ⟨removed, left, hindent, hleft, -⟩ := exists_outdentFrom_eq width (max tabsize 1) 0 line
  have hsplit : line.indentation ++ line.dropWhile isIndent = line :=
    List.takeWhile_append_dropWhile
  rw [hindent, List.append_assoc, ← hleft] at hsplit
  exact ⟨removed, hsplit⟩

/-- What is dropped reaches beyond the columns only by a tab that comes before they are gone. -/
theorem exists_tab_of_lt (h : 0 < tabsize) {removed : Text}
    (hbefore : ∀ a b, removed = a ++ b → b ≠ [] → reach tabsize 0 a < width)
    (hlt : width < reach tabsize 0 removed) :
    ∃ a, removed = a ++ ['\t'] ∧ tabsize ∣ reach tabsize 0 removed ∧ ¬ tabsize ∣ width ∧
      reach tabsize 0 removed < width + tabsize := by
  have hne : removed ≠ [] := by
    rintro rfl
    exact Nat.not_lt_zero _ hlt
  obtain ⟨a, c, rfl⟩ : ∃ a c, removed = a ++ [c] := ⟨_, _, (List.dropLast_concat_getLast hne).symm⟩
  have ha : reach tabsize 0 a < width := hbefore a [c] rfl (List.cons_ne_nil c [])
  rw [reach_append, reach_cons, reach_nil] at hlt ⊢
  by_cases hc : c = '\t'
  · subst hc
    refine ⟨a, rfl, dvd_advance_tab h _, fun hdvd ↦ ?_, ?_⟩
    · exact Nat.not_le.mpr hlt (advance_tab_le h hdvd ha)
    · exact Nat.lt_of_le_of_lt (advance_le _ _ h _) (Nat.add_lt_add_right ha _)
  · rw [advance, if_neg hc] at hlt
    omega

/-- No tab of an indentation reaches beyond its first part exactly if none is in the second. -/
theorem tabs_le_reach_iff (h : 0 < tabsize) (removed left : Text) :
    (∀ a, a ++ ['\t'] <+: removed ++ left →
      reach tabsize 0 (a ++ ['\t']) ≤ reach tabsize 0 removed) ↔ '\t' ∉ left := by
  constructor
  · intro htabs htab
    obtain ⟨x, y, rfl⟩ := List.append_of_mem htab
    have hbeyond := htabs (removed ++ x) ⟨y, by simp⟩
    rw [reach_append, reach_append, reach_cons, reach_nil] at hbeyond
    have hgrows := lt_advance h (reach tabsize (reach tabsize 0 removed) x) '\t'
    have hle := le_reach h (reach tabsize 0 removed) x
    omega
  · intro htab a ⟨z, ha⟩
    rcases List.append_eq_append_iff.mp ha with ⟨u, hu, -⟩ | ⟨u, hu, hz⟩
    · rw [hu, reach_append _ _ (a ++ ['\t']) u]
      exact le_reach h _ u
    · -- the tab would be the last character of what overlaps the second part
      rcases List.eq_nil_or_concat' u with rfl | ⟨v, c, rfl⟩
      · rw [hu, List.append_nil]
      · rw [← List.append_assoc] at hu
        obtain ⟨-, hc⟩ := List.append_inj' hu rfl
        refine absurd ?_ htab
        rw [hz, ← hc]
        simp

/-- **Dropping columns.** The width that is left is what is asked for exactly if there are no more
columns than are to be dropped, or these are whole tab stops, or no tab of the indentation reaches
beyond them. In any case it differs from it by less than one tab stop. -/
theorem indentWidth_outdent (h : 0 < tabsize) (width : Nat) (line : Text) :
    let w := line.indentation.indentWidth tabsize
    let w' := (line.outdent width tabsize).indentation.indentWidth tabsize
    (w' = w - min w width ↔ w ≤ width ∨ tabsize ∣ width ∨
      ∀ a, a ++ ['\t'] <+: line.indentation → indentWidth (a ++ ['\t']) tabsize ≤ width) ∧
    w' < w - min w width + tabsize ∧ w - min w width < w' + tabsize := by
  intro w w'
  obtain ⟨removed, left, hindent, hleft, -, hwidth, hbefore⟩ := exists_outdent_eq width tabsize line
  simp only [indentWidth_eq h] at hwidth hbefore
  have hw : w = reach tabsize (reach tabsize 0 removed) left := by
    rw [← reach_append, ← hindent]
    exact indentWidth_eq h _
  have hw' : w' = reach tabsize 0 left := by
    rw [← hleft]
    exact indentWidth_eq h _
  have hle := le_reach h (reach tabsize 0 removed) left
  rw [← hw] at hle
  simp only [hindent, indentWidth_eq h]
  rcases Nat.lt_or_ge width (reach tabsize 0 removed) with hlt | hge
  · -- the last character that is dropped is a tab, and what is left begins at a tab stop
    obtain ⟨a, rfl, hstop, hdvd, hnear⟩ := exists_tab_of_lt h hbefore hlt
    have hsum := reach_add hstop 0 left
    rw [Nat.add_zero, ← hw, ← hw'] at hsum
    refine ⟨iff_of_false (by omega) ?_, by omega⟩
    rintro (hall | hwhole | htabs)
    · omega
    · exact hdvd hwhole
    · exact Nat.not_le.mpr hlt (htabs a (List.prefix_append _ left))
  by_cases hnil : left = []
  · subst hnil
    rw [reach_nil] at hw hw'
    exact ⟨iff_of_true (by omega) (.inl (by omega)), by omega⟩
  -- the columns are gone where what is left begins
  obtain rfl : width = reach tabsize 0 removed := Nat.le_antisymm (hwidth hnil) hge
  have hnear := reach_near h (reach tabsize 0 removed) left
  rw [← hw, ← hw'] at hnear
  have hlt : reach tabsize 0 removed < w := by
    obtain ⟨c, rest, rfl⟩ := List.exists_cons_of_ne_nil hnil
    rw [hw, reach_cons]
    exact Nat.lt_of_lt_of_le (lt_advance h _ c) (le_reach h _ rest)
  have hkept := reach_eq_add_iff h (reach tabsize 0 removed) left
  rw [← hw, ← hw'] at hkept
  rw [tabs_le_reach_iff h removed left, ← hkept]
  exact ⟨by omega, by omega⟩

end LineEditor.Text
