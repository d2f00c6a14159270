import LineEditor.Unicode.CategoryTable
import LineEditor.Unicode.PropertyTable

/-!
# Kinds of characters

Classes of characters derived from the tables: letters, numbers, the characters of words, and those
that can be shown as they are.
-/

namespace LineEditor.Unicode

/-- Letters, and marks that count as letters. -/
def isAlphabetic (c : Char) : Bool :=
  if c.toNat < 128 then c.isAlpha else alphabetic.holds c.toNat

/-- Digits and other number characters. -/
def isNumeric (c : Char) : Bool :=
  if c.toNat < 128 then c.isDigit
  else (decimalNumber ++ letterNumber ++ otherNumber).holds c.toNat

/-- Letters and numbers. -/
def isAlphanumeric (c : Char) : Bool := isAlphabetic c || isNumeric c

/-- The characters that words are made of: letters, marks, digits, connectors such as `_`, and the
two joiners. -/
def wordRanges : CodeRanges :=
  alphabetic ++ nonspacingMark ++ spacingMark ++ enclosingMark ++ decimalNumber ++
    connectorPunctuation ++ [(0x200C, 0x200D)]

/-- Control and format characters, private and unassigned ones, and all separators. -/
private def hiddenRanges : CodeRanges :=
  control ++ format ++ privateUse ++ unassigned ++ lineSeparator ++ paragraphSeparator ++
    spaceSeparator

/-- The character shows as itself. -/
def isPrintable (c : Char) : Bool :=
  if c.toNat < 127 then 32 ≤ c.toNat else !hiddenRanges.holds c.toNat

/-- The character joins the one before it. -/
def isExtending (c : Char) : Bool := graphemeExtend.holds c.toNat

end LineEditor.Unicode
