/-!
# Ranges of code points

A set of characters as a list of code point ranges. The tables of Unicode properties are written
as rows of text, one item for each range: its first and last code point in hexadecimal digits, or
a single code point.
-/

namespace LineEditor.Unicode

/-- Inclusive ranges of code points. -/
abbrev CodeRanges := List (Nat × Nat)

namespace CodeRanges

/-- One of the ranges holds the code point. -/
def holds (r : CodeRanges) (n : Nat) : Bool := r.any fun (first, last) ↦ first ≤ n && n ≤ last

/-- The value of a hexadecimal digit written with a capital letter. -/
private def hexDigit (c : Char) : Nat :=
  if c.isDigit then c.toNat - '0'.toNat else c.toNat - 'A'.toNat + 10

/-- Reads the items of a row. `first` is the start of the range being read, `value` the digits read
so far. -/
private def readFrom (first : Option Nat) (value : Nat) : List Char → CodeRanges
  | [] => [(first.getD value, value)]
  | c :: rest =>
    if c = ' ' then (first.getD value, value) :: readFrom none 0 rest
    else if c = '-' then readFrom (some value) 0 rest
    else readFrom first (16 * value + hexDigit c) rest

/-- The ranges written in rows of text. -/
def ofRows (rows : List String) : CodeRanges := rows.flatMap fun row ↦ readFrom none 0 row.toList

end CodeRanges

end LineEditor.Unicode
