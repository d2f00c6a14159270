import LineEditor.Text.Basic
import LineEditor.Unicode.CaseTable

/-!
# Letter case

Capital and small forms of characters, and the relation "equal but for case" used by searches that
ignore case. A capital form may be longer than the character: `ß` has the capital form `SS`. The
relation compares simple foldings, which are single characters: `ſ` and `S` are equal but for case,
`ß` and `SS` are not.
-/

namespace LineEditor.Text

open Unicode

/-- The image of a character under a case mapping. -/
private def mapCase (specials : List (Nat × List Nat)) (rows : List CaseRow) (c : Char) : Text :=
  match specials.lookup c.toNat with
  | some image => image.map Char.ofNat
  | none => [Char.ofNat (CaseRow.imageIn rows c.toNat)]

/-- The capital form of a character. -/
def capital (c : Char) : Text :=
  if c.toNat < 128 then [c.toUpper] else mapCase capitalSpecials capitalRows c

/-- The small form of a character. -/
def small (c : Char) : Text :=
  if c.toNat < 128 then [c.toLower] else mapCase smallSpecials smallRows c

/-- The common form of all characters that equal this one but for case. -/
def fold (c : Char) : Char := Char.ofNat (CaseRow.imageIn foldRows c.toNat)

/-- The characters that equal this one but for case, itself included. -/
def caseVariants (c : Char) : List Char :=
  let folded := fold c
  (folded :: (foldRows.filterMap (·.preimage? folded.toNat)).map Char.ofNat)

end LineEditor.Text
