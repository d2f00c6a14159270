import LineEditor.Text.Numeral

/-!
# YAML values

What a YAML document says, as a tree. A scalar is a text; what it means beyond that is up to the
reader, who may take one that stands without quotes for a boolean or a number. This module says
which scalars can be taken so.

A document may give a value a name and refer to it further on. Resolving such a document puts the
values in the places of the references.
-/

namespace LineEditor.Yaml

/-- A value of a document. -/
inductive Node where
  /-- A scalar, and whether it stands without quotes. -/
  | scalar (plain : Bool) (content : Text)
  /-- A sequence of values. -/
  | sequence (items : List Node)
  /-- Pairs of a key and a value, in order. -/
  | mapping (entries : List (Node × Node))
  /-- A value that is given a name. -/
  | anchored (name : Text) (value : Node)
  /-- The value that was given a name before. -/
  | reference (name : Text)
  deriving Inhabited

/-- What stands where nothing is written. -/
def Node.empty : Node := .scalar true []

/-! ## Names -/

/-- Values by their names, the latest first. -/
abbrev Anchors := List (Text × Node)

mutual

/-- The value with all references in it resolved, and the names known behind it; `none` if a name is
unknown where it is referred to. What has a name or is a reference cannot be given another name. -/
def Node.resolve? (known : Anchors) : Node → Option (Node × Anchors)
  | .scalar plain content => some (.scalar plain content, known)
  | .sequence items => do
    let (items, known) ← resolveItems? known items
    return (.sequence items, known)
  | .mapping entries => do
    let (entries, known) ← resolveEntries? known entries
    return (.mapping entries, known)
  | .anchored _ (.anchored ..) | .anchored _ (.reference _) => none
  | .anchored name value => do
    let (value, known) ← value.resolve? known
    return (value, (name, value) :: known)
  | .reference name => do return (← known.lookup name, known)

/-- The items of a sequence with all references resolved. -/
def resolveItems? (known : Anchors) : List Node → Option (List Node × Anchors)
  | [] => some ([], known)
  | item :: items => do
    let (item, known) ← item.resolve? known
    let (items, known) ← resolveItems? known items
    return (item :: items, known)

/-- The entries of a mapping with all references resolved. -/
def resolveEntries? (known : Anchors) : List (Node × Node) → Option (List (Node × Node) × Anchors)
  | [] => some ([], known)
  | (key, value) :: entries => do
    let (key, known) ← key.resolve? known
    let (value, known) ← value.resolve? known
    let (entries, known) ← resolveEntries? known entries
    return ((key, value) :: entries, known)

end

/-! ## What plain scalars stand for -/

/-- The scalar stands for no value. -/
def isNull (t : Text) : Bool :=
  [['~'], "null".toList, "Null".toList, "NULL".toList].contains t

/-- The truth value of a scalar. -/
def bool? (t : Text) : Option Bool :=
  if ["true".toList, "True".toList, "TRUE".toList].contains t then some true
  else if ["false".toList, "False".toList, "FALSE".toList].contains t then some false
  else none

/-- The digits behind a mark such as `0x`, read in the base of the mark. -/
def marked? (t : Text) : Option Nat :=
  match t with
  | '0' :: 'x' :: digits => Text.natInBase? 16 digits
  | '0' :: 'o' :: digits => Text.natInBase? 8 digits
  | '0' :: 'b' :: digits => Text.natInBase? 2 digits
  | _ => none

/-- The text without a sign in front. -/
def dropSign : Text → Text
  | '+' :: rest => rest
  | '-' :: rest => rest
  | t => t

/-- The digits make no number, because they start with a zero. -/
def hasLeadingZero (t : Text) : Bool :=
  match dropSign t with
  | '0' :: c :: rest => (c :: rest).all Char.isDigit
  | _ => false

/-- The integer that a scalar stands for: decimal digits, or digits behind a mark, with or without a
sign. -/
def integer? (t : Text) : Option Int :=
  let whole (t : Text) : Option Nat :=
    (marked? t).or (if t.all Char.isDigit then Text.natInBase? 10 t else none)
  if hasLeadingZero t then none
  else match t with
    | '-' :: rest => (whole rest).map fun n ↦ -(n : Int)
    | '+' :: rest => (whole rest).map Int.ofNat
    | t => (whole t).map Int.ofNat

/-- The scalar stands for a finite decimal fraction, with or without an exponent, or for a name of
an infinite or undefined number. -/
def isFraction (t : Text) : Bool :=
  let body := dropSign t
  let special := [".inf".toList, ".Inf".toList, ".INF".toList].contains body ||
    [".nan".toList, ".NaN".toList, ".NAN".toList].contains t
  let mantissa := body.takeWhile fun c ↦ c.isDigit || c = '.'
  let exponent := body.dropWhile fun c ↦ c.isDigit || c = '.'
  let whole := mantissa.takeWhile Char.isDigit
  let part := (mantissa.dropWhile Char.isDigit).drop 1
  let digits := (Text.natInBase? 10 (whole ++ part)).getD 0
  let isMantissa := whole ++ part ≠ [] && part.all Char.isDigit
  match exponent with
  | [] => special || isMantissa
  | e :: power =>
    let size := (Text.natInBase? 10 (dropSign power)).getD 0
    let isFinite := power.head? = some '-' || digits = 0 ||
      (size < 400 && digits * Nat.pow 10 size < Nat.pow 10 part.length * Nat.pow 2 1024)
    special || (isMantissa && (e = 'e' || e = 'E') && dropSign power ≠ [] &&
      (dropSign power).all Char.isDigit && isFinite)

/-- A plain scalar with this content would be taken for something other than a text. -/
def isAmbiguous (t : Text) : Bool :=
  t = [] || isNull t || (bool? t).isSome || (integer? t).isSome || hasLeadingZero t || isFraction t
    || ["y", "Y", "yes", "Yes", "YES", "n", "N", "no", "No", "NO", "on", "On", "ON", "off", "Off",
      "OFF"].any (·.toList = t)

end LineEditor.Yaml
