import LineEditor.Text.Basic

/-!
# Indentation

The indentation of a line is its leading run of spaces and tabs. A tab advances to the next
multiple of the tab size, so the width of an indentation depends on where its tabs stand. A tab
size of zero counts as one.
-/

namespace LineEditor.Text

/-- Spaces and tabs are the characters of an indentation. -/
def isIndent (c : Char) : Bool := c = ' ' || c = '\t'

/-- The leading run of spaces and tabs. -/
def indentation (line : Text) : Text := line.takeWhile isIndent

/-- The column reached from column `col` by the character `c` of an indentation. -/
def advance (tabsize col : Nat) (c : Char) : Nat :=
  if c = '\t' then col + (tabsize - col % tabsize) else col + 1

/-- The width of an indentation, with a tab reaching to the next multiple of `tabsize`. -/
def indentWidth (indent : Text) (tabsize : Nat) : Nat :=
  indent.foldl (advance (max tabsize 1)) 0

/-- Drops leading spaces and tabs until `width` columns are gone, `col` of them being gone. -/
def outdentFrom (width tabsize : Nat) : Nat → Text → Text
  | _, [] => []
  | col, c :: rest =>
    if width ≤ col then c :: rest
    else if isIndent c then outdentFrom width tabsize (advance tabsize col c) rest
    else c :: rest

/-- The line without up to `width` columns of its leading indentation. -/
def outdent (line : Text) (width tabsize : Nat) : Text :=
  outdentFrom width (max tabsize 1) 0 line

end LineEditor.Text
