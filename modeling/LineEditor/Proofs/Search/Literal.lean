import LineEditor.Search.Template

/-!
# Literal templates

Every text can be put in as it is: there is a template that stands for it, with a backslash before
each character that means something else. With magic these are the backslash, `&` and `~`; without,
only the backslash, as `&` and `~` then mean something behind one only.

A template is gone through twice, first for the previous template and then for the match. The first
pass must leave the backslashes in for the second, and it does: a character behind a backslash is
not looked at, and what it leaves alone keeps its backslash.
-/

namespace LineEditor.Template

/-- The character means something else in a template, without a backslash before it. -/
def isSpecial (magic : Bool) (c : Char) : Bool := c = '\\' || magic && (c = '&' || c = '~')

/-- The template that stands for exactly the given text: every character that means something else
stands behind a backslash. -/
def literal (magic : Bool) (t : Text) : Text :=
  t.flatMap fun c ↦ if isSpecial magic c then ['\\', c] else [c]

variable {magic : Bool} {c : Char}

theorem isSpecial_iff :
    isSpecial magic c = true ↔ c = '\\' ∨ magic = true ∧ (c = '&' ∨ c = '~') := by
  simp only [isSpecial, Bool.or_eq_true, Bool.and_eq_true, decide_eq_true_eq]

theorem literal_cons_of_special (h : isSpecial magic c = true) (t : Text) :
    literal magic (c :: t) = '\\' :: c :: literal magic t := by
  rw [literal, List.flatMap_cons, if_pos h]
  rfl

theorem literal_cons (h : ¬ isSpecial magic c = true) (t : Text) :
    literal magic (c :: t) = c :: literal magic t := by
  rw [literal, List.flatMap_cons, if_neg h]
  rfl

/-! ## The previous template -/

theorem resolvePrevious_of_special (h : isSpecial magic c = true) (previous rest : Text) :
    resolvePrevious previous magic ('\\' :: c :: rest)
      = '\\' :: c :: resolvePrevious previous magic rest := by
  have hkept : (c = '~' && !magic) = false := by
    rcases isSpecial_iff.mp h with rfl | ⟨rfl, -⟩
    · rfl
    · rw [Bool.not_true, Bool.and_false]
  rw [resolvePrevious, hkept]
  rfl

theorem resolvePrevious_cons (h : ¬ isSpecial magic c = true) (previous rest : Text) :
    resolvePrevious previous magic (c :: rest) = c :: resolvePrevious previous magic rest := by
  obtain ⟨hbackslash, hmagic⟩ := not_or.mp fun h' ↦ h (isSpecial_iff.mpr h')
  have hplain : ¬ (c = '~' && magic) = true := by
    rw [Bool.and_eq_true, decide_eq_true_eq]
    exact fun htilde ↦ hmagic ⟨htilde.2, .inr htilde.1⟩
  rw [resolvePrevious, if_neg hplain]
  · rfl
  · exact fun hc _ ↦ hbackslash hc
  · exact fun _ _ hc _ ↦ hbackslash hc

/-- The first pass leaves a literal template as it is. -/
theorem resolvePrevious_literal (previous : Text) (magic : Bool) (t : Text) :
    resolvePrevious previous magic (literal magic t) = literal magic t := by
  induction t with
  | nil => rfl
  | cons c t ih =>
    by_cases h : isSpecial magic c = true
    · rw [literal_cons_of_special h, resolvePrevious_of_special h, ih]
    · rw [literal_cons h, resolvePrevious_cons h, ih]

/-! ## The match -/

variable {group : Nat → Text}

theorem expandFrom_of_special (h : isSpecial magic c = true) (rest : Text) :
    expandFrom group magic ('\\' :: c :: rest) {} = c :: expandFrom group magic rest {} := by
  rcases isSpecial_iff.mp h with rfl | ⟨rfl, rfl | rfl⟩ <;> rfl

theorem expandFrom_cons (h : ¬ isSpecial magic c = true) (rest : Text) :
    expandFrom group magic (c :: rest) {} = c :: expandFrom group magic rest {} := by
  obtain ⟨hbackslash, hmagic⟩ := not_or.mp fun h' ↦ h (isSpecial_iff.mpr h')
  have hplain : ¬ (c = '&' && magic) = true := by
    rw [Bool.and_eq_true, decide_eq_true_eq]
    exact fun hand ↦ hmagic ⟨hand.2, .inl hand.1⟩
  rw [expandFrom, if_neg hplain]
  · rfl
  · exact fun hc _ ↦ hbackslash hc
  · exact fun _ _ hc _ ↦ hbackslash hc

/-- The second pass turns a literal template into the text that it stands for. -/
theorem expandFrom_literal (group : Nat → Text) (magic : Bool) (t : Text) :
    expandFrom group magic (literal magic t) {} = t := by
  induction t with
  | nil => rfl
  | cons c t ih =>
    by_cases h : isSpecial magic c = true
    · rw [literal_cons_of_special h, expandFrom_of_special h, ih]
    · rw [literal_cons h, expandFrom_cons h, ih]

/-- **Literal templates.** Whatever was replaced before and whatever is matched, a literal template
gives the text that it stands for. -/
theorem expand_resolvePrevious_literal (t previous hay : Text) (c : Pattern.Captures)
    (magic : Bool) : expand (resolvePrevious previous magic (literal magic t)) hay c magic = t := by
  rw [resolvePrevious_literal, expand, expandFrom_literal]

end LineEditor.Template
