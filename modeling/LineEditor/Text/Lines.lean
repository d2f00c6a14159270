import LineEditor.Text.Basic

/-!
# Lines

A line is a piece of a text between line separators. Lines are numbered from 1. Two views of the
same lines live here: the list `lines`, got by splitting, and the offsets at which a line starts
and ends, got by counting separators. Asking for a line past the last one is no error: its text
is empty and its region lies at the end of the text.
-/

namespace LineEditor.Text

/-- The character that separates lines. -/
def separator : Char := '\n'

/-- The lines of a text: its pieces between separators. -/
def lines (t : Text) : List Text := splitAt separator t

/-- The text made of the given lines. -/
def unlines (ls : List Text) : Text := join [separator] ls

/-- The number of lines, at least one. A separator at the very end closes the last line and opens
no further one. -/
def lineCount (t : Text) : Nat :=
  let partialLine := if t ≠ [] ∧ t.getLast? ≠ some separator then 1 else 0
  max (t.count separator + partialLine) 1

/-- The offset where line `n` starts, `none` when fewer than `n - 1` separators exist. -/
def lineStart? : Text → Nat → Option Nat
  | _, 0 => some 0
  | _, 1 => some 0
  | [], _ + 2 => none
  | c :: rest, n + 2 =>
    (lineStart? rest (if c = separator then n + 1 else n + 2)).map (· + 1)

/-- The offset of the separator that ends the line holding `offset`, or the end of the text. -/
def lineEndFrom (t : Text) (offset : Nat) : Nat :=
  offset + ((t.drop offset).takeWhile (· ≠ separator)).length

/-- The offset just past the separator before `offset`, or 0. -/
def lineStartFrom (t : Text) (offset : Nat) : Nat :=
  let before := t.take offset
  before.length - (before.reverse.takeWhile (· ≠ separator)).length

/-- The number of the line that holds `offset`. -/
def lineAt (t : Text) (offset : Nat) : Nat :=
  (t.take offset).count separator + 1

/-! ## The text of addressed lines -/

/-- The text of line `n`, without its separator. -/
def line (t : Text) (n : Nat) : Text := t.lines.getD (n - 1) []

/-- Lines `first` to `last`, in order. -/
def lineRange (t : Text) (first last : Nat) : List Text :=
  (t.lines.drop (first - 1)).take (last + 1 - max first 1)

/-- The text of lines `first` to `last`, with the separators between them. -/
def linesText (t : Text) (first last : Nat) : Text := unlines (t.lineRange first last)

/-- The offset where the text of line `n` ends. -/
def lineEnd (t : Text) (n : Nat) : Nat :=
  match t.lineStart? (max n 1) with
  | some start => t.lineEndFrom start
  | none => t.length

/-! ## Laws -/

@[simp] theorem unlines_lines (t : Text) : unlines t.lines = t := join_splitAt separator t

theorem one_le_lineCount (t : Text) : 1 ≤ t.lineCount := Nat.le_max_right _ _

@[simp] theorem lineStart?_one (t : Text) : t.lineStart? 1 = some 0 := by
  cases t <;> rfl

theorem lineStart?_le_length {t : Text} {n s : Nat} (h : t.lineStart? n = some s) :
    s ≤ t.length := by
  induction t generalizing n s with
  | nil =>
    match n with
    | 0 | 1 => simp_all [lineStart?]
    | n + 2 => simp [lineStart?] at h
  | cons c rest ih =>
    match n with
    | 0 | 1 => simp [lineStart?] at h; omega
    | n + 2 =>
      simp only [lineStart?, Option.map_eq_some_iff] at h
      obtain ⟨s', hs, rfl⟩ := h
      simpa using ih hs

/-! ## Line breaks of other systems -/

/-- The text with every carriage return, alone or before a line feed, turned into a separator. -/
def normalizeBreaks : Text → Text
  | [] => []
  | '\r' :: '\n' :: rest => separator :: normalizeBreaks rest
  | c :: rest => (if c = '\r' then separator else c) :: normalizeBreaks rest

/-- No carriage return is left. -/
theorem not_mem_normalizeBreaks (t : Text) : '\r' ∉ normalizeBreaks t := by
  fun_induction normalizeBreaks t with
  | case1 => simp
  | case2 rest ih => simpa [separator] using ih
  | case3 c rest _ ih =>
    simp only [List.mem_cons, not_or]
    refine ⟨?_, ih⟩
    split
    · decide
    · next h => exact fun e ↦ h e.symm

/-- A text without carriage returns is left as it is. -/
theorem normalizeBreaks_of_not_mem {t : Text} (h : '\r' ∉ t) : normalizeBreaks t = t := by
  fun_induction normalizeBreaks t with
  | case1 => rfl
  | case2 rest ih => simp at h
  | case3 c rest _ ih =>
    simp only [List.mem_cons, not_or] at h
    rw [if_neg (fun e ↦ h.1 e.symm), ih h.2]

end LineEditor.Text
