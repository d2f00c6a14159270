import LineEditor.Registers

/-!
# Storing and reading

What is stored under a name is read under it. A capital letter adds to what its register holds, and
everything else replaces it; so a text comes to stand behind what is *kept* of the register. The
names that no text can be stored under are the digits and whatever is no name at all.
-/

namespace LineEditor.Registers

variable {r r' : Registers} {name : Option Char} {t : Text}

/-- Texts can be stored under the name: it is left out, or it is `"` or a letter. -/
def IsWritable (name : Option Char) : Prop := ∀ c, name = some c → c = '"' ∨ c.isAlpha

/-- What stays of a register when a text is stored in it: all that it holds, if its name is a
capital letter. -/
def kept (r : Registers) (name : Option Char) : Text :=
  if name.any Char.isUpper then (r.get? name).getD [] else []

theorem isAlpha_eq (c : Char) : c.isAlpha = (c.isUpper || c.isLower) := rfl

theorem isSome_store?_iff : (r.store? name t).isSome ↔ IsWritable name := by
  cases name with
  | none => exact iff_of_true rfl nofun
  | some c =>
    simp only [IsWritable, Option.some.injEq, forall_eq', isAlpha_eq, Bool.or_eq_true, store?]
    by_cases hquote : c = '"'
    · simp [hquote]
    by_cases hlower : c.isLower
    · simp [hquote, hlower]
    by_cases hupper : c.isUpper
    · simp [hquote, hlower, hupper]
    · simp [hquote, hlower, hupper]

/-- A letter is no digit. -/
private theorem not_mem_digits {c : Char} (h : c.isAlpha) : c ∉ digits := by
  intro hc
  have hdigits : digits.all (!·.isAlpha) = true := rfl
  have hletter := List.all_eq_true.mp hdigits c hc
  rw [h] at hletter
  exact Bool.false_ne_true hletter

private theorem ne_quote {c : Char} (h : c.isAlpha) : c ≠ '"' := by
  rintro rfl
  exact Bool.false_ne_true h

/-- A letter reads the register named by its small form. -/
theorem get?_of_isAlpha {c : Char} (r : Registers) (h : c.isAlpha) :
    r.get? (some c) = Table.get? c.toLower r.named := by
  simp only [get?, if_neg (ne_quote h), if_neg (not_mem_digits h), if_pos h]

/-- A small letter is no capital one. -/
theorem isUpper_of_isLower {c : Char} (h : c.isLower) : c.isUpper = false := by
  obtain ⟨hlower, -⟩ := Bool.and_eq_true_iff.mp h
  refine decide_eq_false fun hupper ↦ ?_
  have hle : 'a'.val ≤ 'Z'.val := UInt32.le_trans (of_decide_eq_true hlower) hupper.2
  exact absurd hle (by decide)

theorem toLower_of_isLower {c : Char} (h : c.isLower) : c.toLower = c :=
  dif_neg (of_decide_eq_false (isUpper_of_isLower h))

/-! ## What storing does -/

/-- Without a name, a text goes on top of the stack. -/
theorem store?_unnamed (r : Registers) (h : name = none ∨ name = some '"') (t : Text) :
    r.store? name t = some { r with unnamed := (t :: r.unnamed).take depth } := by
  rcases h with rfl | rfl
  · rfl
  · rfl

/-- Under a letter, a text goes into the register of the small form, behind what is kept of it. -/
theorem store?_of_isAlpha {c : Char} (r : Registers) (h : c.isAlpha) (t : Text) :
    r.store? (some c) t
      = some { r with named := Table.insert c.toLower (r.kept (some c) ++ t) r.named } := by
  simp only [store?, if_neg (ne_quote h)]
  by_cases hlower : c.isLower
  · have hkept : r.kept (some c) = [] := by simp [kept, isUpper_of_isLower hlower]
    rw [if_pos hlower, hkept, toLower_of_isLower hlower, List.nil_append]
  · have hupper : c.isUpper := (Bool.or_eq_true _ _).mp (isAlpha_eq c ▸ h) |>.resolve_right hlower
    have hkept : r.kept (some c) = (Table.get? c.toLower r.named).getD [] := by
      rw [kept, Option.any_some, if_pos hupper, get?_of_isAlpha r h]
    rw [if_neg hlower, if_pos hupper, hkept]

/-- What is stored is read under the same name, behind what is kept of the register. -/
theorem get?_of_store? (h : r.store? name t = some r') :
    r'.get? name = some (r.kept name ++ t) := by
  have hwritable : IsWritable name := isSome_store?_iff.mp (Option.isSome_of_mem h)
  by_cases hname : name = none ∨ name = some '"'
  · rw [store?_unnamed r hname] at h
    cases h
    rcases hname with rfl | rfl
    · rfl
    · rfl
  · obtain ⟨hnone, hquote⟩ := not_or.mp hname
    obtain ⟨c, rfl⟩ := Option.ne_none_iff_exists'.mp hnone
    have hletter : c.isAlpha := (hwritable c rfl).resolve_left fun hc ↦ hquote (congrArg some hc)
    rw [store?_of_isAlpha r hletter] at h
    cases h
    rw [get?_of_isAlpha _ hletter, Table.get?_insert, if_pos rfl]

end LineEditor.Registers
