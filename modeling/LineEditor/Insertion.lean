import LineEditor.Text.Lines

/-!
# Text about to be written

Text passes two steps before it is written through a range. Line breaks of other systems become
separators: a carriage return, alone or with the line feed after it, turns into one separator.
Then, where indentation is asked for, each non-empty line that the written text begins is
indented: the first one if the text is written at the start of a line, and all later ones.
-/

namespace LineEditor.Insertion

/-- Puts `indent` in front of a line that is not empty. -/
def indentLine (indent line : Text) : Text := if line = [] then [] else indent ++ line

/-- Indents all lines of `piece`, the first one only if `fromStart`. -/
def indentLines (indent : Text) (fromStart : Bool) (piece : Text) : Text :=
  match piece.lines with
  | [] => []
  | first :: later =>
    Text.unlines ((if fromStart then indentLine indent first else first)
      :: later.map (indentLine indent))

/-- What is written when `piece` is to be written at offset `start` of `t`. -/
def prepare (t : Text) (start : Nat) (indent piece : Text) : Text :=
  let piece := piece.normalizeBreaks
  if indent = [] then piece
  else indentLines indent (t.lineStartFrom start = start) piece

end LineEditor.Insertion
