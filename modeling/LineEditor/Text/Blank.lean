import LineEditor.Text.Basic

/-!
# Blanks

A blank is a character with the White_Space property: the ASCII blanks and the spaces and line
breaks of other scripts. Trimming removes blanks from the ends of a text.
-/

namespace LineEditor.Text

/-- The character has the White_Space property. -/
def isBlank (c : Char) : Bool :=
  let n := c.toNat
  (0x9 ≤ n && n ≤ 0xD) || n = 0x20 || n = 0x85 || n = 0xA0 || n = 0x1680 ||
    (0x2000 ≤ n && n ≤ 0x200A) || n = 0x2028 || n = 0x2029 || n = 0x202F || n = 0x205F ||
    n = 0x3000

/-- The text without the blanks at its start. -/
def trimStart (t : Text) : Text := t.dropWhile isBlank

/-- The text without the blanks at its end. -/
def trimEnd (t : Text) : Text := (t.reverse.dropWhile isBlank).reverse

/-- The text without the blanks at either end. -/
def trim (t : Text) : Text := trimEnd (trimStart t)

/-- Every blank of ASCII is a blank. -/
theorem isBlank_of_isWhitespace {c : Char} (h : c.isWhitespace = true) : isBlank c = true := by
  simp only [Char.isWhitespace, Bool.or_eq_true, decide_eq_true_eq] at h
  rcases h with ((rfl | rfl) | rfl) | rfl <;> decide

/-- Trimming the start leaves a text that does not start with a blank. -/
theorem trimStart_head_not_blank {t rest : Text} {c : Char} (h : trimStart t = c :: rest) :
    isBlank c = false := by
  have := List.head?_dropWhile_not isBlank t
  rw [show t.dropWhile isBlank = c :: rest from h] at this
  simpa using this

end LineEditor.Text
