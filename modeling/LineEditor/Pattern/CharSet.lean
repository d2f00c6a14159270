import LineEditor.Text.Blank
import LineEditor.Text.Case
import LineEditor.Unicode.Kind
import LineEditor.Unicode.ScriptTable

/-!
# Character sets

The sets of characters that patterns are built from, as expressions over ranges: union,
intersection, complement and closure under change of case. Membership is decided character by
character, so a set is never listed.
-/

namespace LineEditor.Pattern

open Unicode

/-- A set of characters. -/
inductive CharSet where
  /-- The characters in the given ranges. -/
  | ranges (r : CodeRanges)
  /-- All characters not in the set. -/
  | compl (s : CharSet)
  /-- The characters in either set. -/
  | union (s t : CharSet)
  /-- The characters in both sets. -/
  | inter (s t : CharSet)
  /-- The characters that equal one of the set but for case. -/
  | anyCase (s : CharSet)
  /-- The characters that equal one of the set but for the case of ASCII letters. -/
  | anyAsciiCase (s : CharSet)
  deriving Inhabited

namespace CharSet

/-- The ASCII letter in the other case; other characters are their own. -/
def swapAsciiCase (c : Char) : Char := if c.isUpper then c.toLower else c.toUpper

/-- The set holds the character. -/
def contains : CharSet → Char → Bool
  | ranges r, c => r.holds c.toNat
  | compl s, c => !s.contains c
  | union s t, c => s.contains c || t.contains c
  | inter s t, c => s.contains c && t.contains c
  | anyCase s, c => s.contains c || (Text.caseVariants c).any s.contains
  | anyAsciiCase s, c => s.contains c || s.contains (swapAsciiCase c)

/-- No character. -/
def empty : CharSet := ranges []

/-- One character. -/
def single (c : Char) : CharSet := ranges [(c.toNat, c.toNat)]

/-- The characters in the first set and not in the second. -/
def diff (s t : CharSet) : CharSet := inter s (compl t)

/-- The characters in exactly one of the sets. -/
def symmDiff (s t : CharSet) : CharSet := union (diff s t) (diff t s)

/-- The complement if asked for. -/
def complIf (negated : Bool) (s : CharSet) : CharSet := if negated then compl s else s

/-- No character from the upper half of a byte belongs to the set. Outside Unicode mode a set is one
of bytes, and only ASCII ones are whole characters. -/
def isAscii (s : CharSet) : Bool :=
  (List.range 128).all fun i ↦ !s.contains (Char.ofNat (128 + i))

/-! ## Named sets -/

/-- Decimal digits. -/
def digit (unicode : Bool) : CharSet :=
  ranges (if unicode then decimalNumber else [(0x30, 0x39)])

/-- Blanks. -/
def blank (unicode : Bool) : CharSet :=
  ranges (if unicode then
      [(0x9, 0xD), (0x20, 0x20), (0x85, 0x85), (0xA0, 0xA0), (0x1680, 0x1680), (0x2000, 0x200A),
        (0x2028, 0x2029), (0x202F, 0x202F), (0x205F, 0x205F), (0x3000, 0x3000)]
    else [(0x9, 0xD), (0x20, 0x20)])

/-- The characters of words. -/
def word (unicode : Bool) : CharSet :=
  ranges (if unicode then wordRanges else [(0x30, 0x39), (0x41, 0x5A), (0x5F, 0x5F), (0x61, 0x7A)])

/-- The ASCII sets that are written `[:name:]` inside brackets. -/
def asciiNamed? (name : Text) : Option CharSet :=
  let table : List (String × CodeRanges) := [
    ("alnum", [(0x30, 0x39), (0x41, 0x5A), (0x61, 0x7A)]),
    ("alpha", [(0x41, 0x5A), (0x61, 0x7A)]),
    ("ascii", [(0, 0x7F)]),
    ("blank", [(0x9, 0x9), (0x20, 0x20)]),
    ("cntrl", [(0, 0x1F), (0x7F, 0x7F)]),
    ("digit", [(0x30, 0x39)]),
    ("graph", [(0x21, 0x7E)]),
    ("lower", [(0x61, 0x7A)]),
    ("print", [(0x20, 0x7E)]),
    ("punct", [(0x21, 0x2F), (0x3A, 0x40), (0x5B, 0x60), (0x7B, 0x7E)]),
    ("space", [(0x9, 0xD), (0x20, 0x20)]),
    ("upper", [(0x41, 0x5A)]),
    ("word", [(0x30, 0x39), (0x41, 0x5A), (0x5F, 0x5F), (0x61, 0x7A)]),
    ("xdigit", [(0x30, 0x39), (0x41, 0x46), (0x61, 0x66)])]
  (table.lookup (String.ofList name)).map ranges

/-- Groups of general categories. -/
private def categoryGroups : List (List String × List CodeRanges) := [
  (["l", "letter"],
    [lowercaseLetter, modifierLetter, otherLetter, titlecaseLetter, uppercaseLetter]),
  (["lc", "casedletter"], [lowercaseLetter, titlecaseLetter, uppercaseLetter]),
  (["m", "mark", "combiningmark"], [spacingMark, enclosingMark, nonspacingMark]),
  (["n", "number"], [decimalNumber, letterNumber, otherNumber]),
  (["p", "punctuation", "punct"],
    [connectorPunctuation, dashPunctuation, closePunctuation, finalPunctuation,
      initialPunctuation, otherPunctuation, openPunctuation]),
  (["s", "symbol"], [currencySymbol, modifierSymbol, mathSymbol, otherSymbol]),
  (["z", "separator"], [lineSeparator, paragraphSeparator, spaceSeparator]),
  (["c", "other"], [control, format, privateUse, unassigned]),
  (["any"], [[(0, 0x10FFFF)]]),
  (["ascii"], [[(0, 0x7F)]])]

/-- The set of a general category or a group of them. -/
private def category? (name : String) : Option CharSet :=
  if name = "assigned" then some (compl (ranges unassigned))
  else match categories.find? (·.1.contains name) with
    | some (_, r) => some (ranges r)
    | none => (categoryGroups.find? (·.1.contains name)).map fun (_, rs) ↦ ranges rs.flatten

/-- The set of a script. -/
private def script? (name : String) : Option CharSet :=
  (scripts.find? (·.1.contains name)).map fun (_, rows) ↦ ranges (CodeRanges.ofRows rows)

/-- The set of a binary property. -/
private def property? (name : String) : Option CharSet :=
  if ["whitespace", "wspace", "space"].contains name then some (blank true)
  else (properties.find? (·.1.contains name)).map fun (_, r) ↦ ranges r

/-- A property name without the differences that do not count: a leading `is`, case, spaces, `_`,
`-`, and characters outside ASCII. The name `isc` keeps its start. -/
private def looseName (name : Text) : String :=
  let counts (c : Char) : Bool := c.toNat < 128 && c ≠ ' ' && c ≠ '_' && c ≠ '-'
  let loose (t : Text) := String.ofList ((t.filter counts).map Char.toLower)
  match name with
  | i :: s :: rest =>
    if i.toLower = 'i' && s.toLower = 's' then
      if loose rest = "c" then "isc" else loose rest
    else loose name
  | _ => loose name

/-- The set named inside `\p`: a category, property or script, or one of them after its kind. -/
def named? (name : Text) : Option CharSet :=
  match name.span (fun c ↦ c ≠ '=' && c ≠ ':') with
  | (kind, _ :: value) =>
    let value := looseName value
    match looseName kind with
    | "gc" | "generalcategory" => category? value
    | "sc" | "script" | "scx" | "scriptextensions" => script? value
    | _ => none
  | (name, []) =>
    let name := looseName name
    (property? name).or ((category? name).or (script? name))

end CharSet

end LineEditor.Pattern
