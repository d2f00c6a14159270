import LineEditor.Yaml.Node

/-!
# Writing YAML scalars

A text is written plain where that cannot be misread, else in single quotes, and as a literal
scalar where it holds line feeds. What can be written in none of these ways goes into double quotes.
A line break inside single quotes or a literal scalar ends a line, and the next one is indented.
-/

namespace LineEditor.Yaml

/-- The ways to write a scalar. -/
inductive Style where
  | plain
  | singleQuoted
  | doubleQuoted
  /-- Its lines follow, indented. -/
  | literal
  deriving DecidableEq, Inhabited

/-- The character can stand for itself. -/
def isPrintable (c : Char) : Bool :=
  let n := c.toNat
  n = 0x0A || (0x20 ≤ n && n ≤ 0x7E) || (0xA0 ≤ n && n ≤ 0xFFFD && n ≠ 0xFEFF)

/-- The character ends a line. -/
def isBreak (c : Char) : Bool := c = '\n' || c = '\r' || c.toNat = 0x85 || c.toNat = 0x2028 ||
  c.toNat = 0x2029

/-- The character separates words. -/
def isGap (c : Char) : Bool := c = ' ' || c = '\t' || isBreak c

/-- Two neighbouring characters of which the first and the second have a property. -/
def hasPair (first second : Char → Bool) : Text → Bool
  | a :: b :: rest => (first a && second b) || hasPair first second (b :: rest)
  | _ => false

/-- A plain scalar would be misread because of a character that has a meaning where it stands. -/
def hasIndicator (t : Text) : Bool :=
  let behindGap := match t with
    | [] => true
    | _ :: rest => (rest.head?.map isGap).getD true
  let atStart := match t with
    | [] => false
    | c :: _ =>
      "#,[]\x7b\x7d&*!|>\x27\"%@\x60".toList.contains c ||
        ((c = '?' || c = ':' || c = '-') && behindGap)
  let first3 := t.take 3
  atStart || first3 = "---".toList || first3 = "...".toList ||
    hasPair (· = ':') isGap (t.drop 1) || (1 < t.length && t.getLast? = some ':') ||
    hasPair isGap (· = '#') t

/-- The way a text is written. -/
def styleOf (t : Text) : Style :=
  let isSpace (c : Char) := c = ' '
  let atEdge (p : Char → Bool) := t.head?.any p || t.getLast?.any p
  let unprintable := t.any fun c ↦ !isPrintable c
  let quotable := !unprintable && !hasPair isBreak isSpace t && !hasPair isSpace isBreak t
  let plainly := quotable && !atEdge isSpace && !t.any isBreak && !hasIndicator t
  if t.contains '\n' then
    if unprintable || t.getLast?.any isSpace || hasPair isSpace isBreak t then .doubleQuoted
    else .literal
  else if plainly && !isAmbiguous t then .plain
  else if quotable then .singleQuoted
  else .doubleQuoted

/-- A character inside double quotes. -/
def escape (c : Char) : Text :=
  let n := c.toNat
  let hex (width : Nat) : Text :=
    let digits := (Nat.toDigits 16 n).map Char.toUpper
    List.replicate (width - digits.length) '0' ++ digits
  match c with
  | '\x00' => ['\\', '0']
  | '\x07' => ['\\', 'a']
  | '\x08' => ['\\', 'b']
  | '\t' => ['\\', 't']
  | '\n' => ['\\', 'n']
  | '\x0b' => ['\\', 'v']
  | '\x0c' => ['\\', 'f']
  | '\r' => ['\\', 'r']
  | '\x1b' => ['\\', 'e']
  | '"' => ['\\', '"']
  | '\\' => ['\\', '\\']
  | c =>
    if isPrintable c && !isBreak c then [c]
    else if n = 0x85 then ['\\', 'N']
    else if n = 0x2028 then ['\\', 'L']
    else if n = 0x2029 then ['\\', 'P']
    else if n ≤ 0xFF then '\\' :: 'x' :: hex 2
    else if n ≤ 0xFFFF then '\\' :: 'u' :: hex 4
    else '\\' :: 'U' :: hex 8

/-- The head of a literal scalar: how its indentation is found, and what becomes of the line breaks
at its end. -/
def literalHead (t : Text) : Text :=
  let hint := if t.head?.any fun c ↦ c = ' ' || isBreak c then ['2'] else []
  let chomp := match t.reverse with
    | [c] => if isBreak c then ['+'] else ['-']
    | c :: c' :: _ => if isBreak c then (if isBreak c' then ['+'] else []) else ['-']
    | [] => ['-']
  '|' :: hint ++ chomp

/-- Indents all lines of a text that are not empty, the first one only if `fresh`. -/
def indentLines (indent : Nat) : (fresh : Bool) → Text → Text
  | _, [] => []
  | fresh, c :: rest =>
    if isBreak c then c :: indentLines indent true rest
    else (if fresh then List.replicate indent ' ' else []) ++ c :: indentLines indent false rest

/-- A scalar, its lines indented by `indent` if it is written over several. -/
def writeScalar (indent : Nat) (t : Text) : Text :=
  match styleOf t with
  | .plain => t
  | .singleQuoted =>
    let body := t.flatMap fun c ↦ if c = '\x27' then [c, c] else [c]
    '\x27' :: indentLines indent false (body ++ ['\x27'])
  | .doubleQuoted => '"' :: t.flatMap escape ++ ['"']
  | .literal => literalHead t ++ '\n' :: indentLines indent true t

end LineEditor.Yaml
