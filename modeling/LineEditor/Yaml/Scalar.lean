import LineEditor.Yaml.Writer

/-!
# Reading YAML scalars

A cursor stands in a document and knows its column. From where a scalar starts, the functions here
read it to its end. In plain and quoted scalars a line feed with the blanks around it counts as one
space, and each empty line as one line break. Literal scalars keep their line breaks, folded ones
join lines in the same manner as plain ones do, except around lines that are indented further. Line
breaks other than line feeds are kept in all of them.
-/

namespace LineEditor.Yaml

/-- A place in a document: what lies ahead, and how many characters of the line lie behind. -/
structure Cursor where
  /-- What lies ahead. -/
  rest : Text
  /-- The column. -/
  column : Nat := 0
  deriving Inhabited

namespace Cursor

/-- Goes on by a number of characters of one line. -/
def skip (c : Cursor) (n : Nat) : Cursor := ⟨c.rest.drop n, c.column + n⟩

/-- Goes on to the start of the next line. -/
def nextLine (c : Cursor) : Cursor := ⟨(c.rest.dropWhile (!isBreak ·)).drop 1, 0⟩

/-- The next character. -/
def head? (c : Cursor) : Option Char := c.rest.head?

/-- Nothing lies ahead. -/
def atEnd (c : Cursor) : Bool := c.rest.isEmpty

/-- A line break lies ahead. -/
def atBreak (c : Cursor) : Bool := c.head?.any isBreak

/-- The character is a blank, or there is none. -/
def isBlankOrEnd (c : Option Char) : Bool := c.all isGap

/-- The given character lies ahead, with a blank or the end behind it. -/
def atIndicator (c : Cursor) (indicator : Char) : Bool :=
  c.head? = some indicator && isBlankOrEnd c.rest[1]?

/-- A mark that ends or starts a document lies ahead. -/
def atDocumentMark (c : Cursor) : Bool :=
  c.column = 0 && (c.rest.take 3 = "---".toList || c.rest.take 3 = "...".toList) &&
    isBlankOrEnd c.rest[3]?

/-- Skips spaces and tabs. -/
def skipBlanks (c : Cursor) : Cursor :=
  c.skip (c.rest.takeWhile fun c ↦ c = ' ' || c = '\t').length

/-- Skips line breaks and the blanks around them; answers the line breaks. -/
def skipBreaks : (fuel : Nat) → Cursor → Text × Cursor
  | 0, c => ([], c)
  | fuel + 1, c =>
    let here := c.skipBlanks
    if here.atBreak then
      let (breaks, behind) := skipBreaks fuel here.nextLine
      (here.rest.take 1 ++ breaks, behind)
    else ([], here)

end Cursor

/-- What line breaks inside a scalar count as. -/
def folded : (breaks : Text) → Text
  | ['\n'] => [' ']
  | '\n' :: breaks => breaks
  | breaks => breaks

/-- The character can stand in a plain scalar, given what stands before and behind it. -/
def isPlainChar (flow : Bool) (before next : Option Char) (c : Char) : Bool :=
  let flowMark := fun c ↦ c = ',' || c = '[' || c = ']' || c = '\x7b' || c = '\x7d'
  if c = ':' then !(Cursor.isBlankOrEnd next || (flow && next.any fun c ↦ flowMark c || c = '?'))
  else if c = '#' then !Cursor.isBlankOrEnd before
  else !(flow && (flowMark c || c = '?')) && !isBreak c

/-- The part of a plain scalar that stands on one line, with the blanks at its end. -/
def plainLine (flow : Bool) (before : Option Char) : Text → Text
  | [] => []
  | c :: rest =>
    if isPlainChar flow before rest.head? c then c :: plainLine flow (some c) rest else []

/-- A character that can start a plain scalar. -/
def startsPlain (flow : Bool) (c : Cursor) : Bool :=
  match c.head? with
  | none => false
  | some first =>
    let next := c.rest[1]?
    if first = '-' then !Cursor.isBlankOrEnd next
    else if first = '?' || first = ':' then !flow && !Cursor.isBlankOrEnd next
    else !("#,[]\x7b\x7d&*!|>\x27\"%@\x60".toList.contains first || isGap first)

/-- Reads a plain scalar whose further lines are indented by `indent` at least. Answers its text and
whether it stands on one line. -/
def plainScalar (flow : Bool) (indent : Nat) : (fuel : Nat) → Cursor → Text × Bool × Cursor
  | 0, c => ([], true, c)
  | fuel + 1, c =>
    let written := plainLine flow none c.rest
    let line := (written.reverse.dropWhile fun c ↦ c = ' ' || c = '\t').reverse
    let here := c.skip line.length
    let (breaks, next) := here.skipBreaks fuel
    let continues := breaks ≠ [] && (flow || indent ≤ next.column) && !next.atDocumentMark &&
      !next.atEnd && !(plainLine flow (some ' ') next.rest).isEmpty
    if line ≠ [] && continues then
      let (rest, _, next) := plainScalar flow indent fuel next
      (line ++ folded breaks ++ rest, false, next)
    else (line, true, here)

/-- The character behind a backslash in double quotes, and what follows. -/
def escaped? : Text → Option (Text × Nat)
  | [] => none
  | c :: rest =>
    let code (width : Nat) : Option (Text × Nat) := do
      if rest.length < width then none
      let n ← Text.natInBase? 16 (rest.take width)
      if n.isValidChar then some ([Char.ofNat n], width + 1) else none
    match c with
    | '0' => some (['\x00'], 1)
    | 'a' => some (['\x07'], 1)
    | 'b' => some (['\x08'], 1)
    | 't' | '\t' => some (['\t'], 1)
    | 'n' => some (['\n'], 1)
    | 'v' => some (['\x0b'], 1)
    | 'f' => some (['\x0c'], 1)
    | 'r' => some (['\r'], 1)
    | 'e' => some (['\x1b'], 1)
    | ' ' | '"' | '/' | '\\' | '\x27' => some ([c], 1)
    | 'N' => some ([Char.ofNat 0x85], 1)
    | '_' => some ([Char.ofNat 0xA0], 1)
    | 'L' => some ([Char.ofNat 0x2028], 1)
    | 'P' => some ([Char.ofNat 0x2029], 1)
    | 'x' => code 2
    | 'u' => code 4
    | 'U' => code 8
    | _ => none

/-- Reads a quoted scalar behind its opening quote. -/
def quotedScalar? (quote : Char) : (fuel : Nat) → Cursor → Option (Text × Cursor)
  | 0, _ => none
  | fuel + 1, c =>
    if c.atDocumentMark then none
    else match c.rest with
    | [] => none
    | first :: rest =>
      let keep (t : Text) (n : Nat) : Option (Text × Cursor) := do
        let (more, c) ← quotedScalar? quote fuel (c.skip n)
        return (t ++ more, c)
      let fold (lead : Text) (c : Cursor) : Option (Text × Cursor) := do
        let (breaks, c) := c.skipBreaks fuel
        let (more, c) ← quotedScalar? quote fuel c
        let gap := if lead = [] then folded breaks else breaks.drop 1
        return (gap ++ more, c)
      if first = quote then
        if quote = '\x27' && rest.head? = some quote then keep [quote] 2 else some ([], c.skip 1)
      else if quote = '"' && first = '\\' then
        if (c.skip 1).atBreak then fold ['\\'] (c.skip 1)
        else do
          let (t, n) ← escaped? rest
          keep t (n + 1)
      else if isGap first then
        let next := c.skipBlanks
        if next.atBreak then fold [] c
        else keep (c.rest.take (next.column - c.column)) (next.column - c.column)
      else keep [first] 1

/-! ## Block scalars -/

/-- The lines of a text, each with the break that ends it. -/
def brokenLines : Text → List (Text × Text)
  | [] => []
  | c :: rest =>
    if isBreak c then ([], [c]) :: brokenLines rest
    else match brokenLines rest with
      | [] => [([c], [])]
      | (line, ending) :: lines => (c :: line, ending) :: lines

/-- A line of a block scalar without its indentation, and the break that ends it. A line with
nothing behind its indentation only separates. -/
inductive BlockLine where
  | content (t ending : Text)
  | separator (ending : Text)
  deriving DecidableEq

/-- The number of spaces at the start of a line. -/
def spaces (line : Text) : Nat := (line.takeWhile (· = ' ')).length

/-- The lines of a block scalar with the given indentation. -/
def blockLines (indent : Nat) : List (Text × Text) → List BlockLine
  | [] => []
  | (line, ending) :: rest =>
    let body := line.drop (min (spaces line) indent)
    if body = [] then .separator ending :: blockLines indent rest
    else if indent ≤ spaces line then .content body ending :: blockLines indent rest
    else []

/-- The indentation of a block scalar without a hint: that of the first line that is not empty, or
of the longest line of spaces before it. -/
def foundIndent (lines : List Text) : Nat :=
  let empty := lines.takeWhile fun line ↦ line.all (· = ' ')
  let first := (lines.drop empty.length).head?
  ((empty.map List.length) ++ (first.map spaces).toList).foldl max 0

/-- The text of lines; `breaks` are due before the next line, the first of which is a joint that may
be folded, and `blank` says that the line before them was indented further. -/
def blockText (fold : Bool) (chomp : Option Bool) (blank : Bool) (started : Bool) (breaks : Text) :
    List BlockLine → Text
  | [] =>
    match chomp with
    | some true => breaks
    | some false => []
    | none => if started then breaks.take 1 else []
  | .separator ending :: rest => blockText fold chomp blank started (breaks ++ ending) rest
  | .content t ending :: rest =>
    let isBlank := t.head?.any fun c ↦ c = ' ' || c = '\t'
    let gap := if fold && started && !blank && !isBlank then folded breaks else breaks
    gap ++ t ++ blockText fold chomp isBlank true ending rest

/-- Reads the head of a block scalar behind its first character: a hint for the indentation, what
becomes of the line breaks at the end, and the cursor behind the line. -/
def blockHead? (c : Cursor) : Option (Option Nat × Option Bool × Cursor) :=
  let marks := c.rest.takeWhile fun c ↦ c = '+' || c = '-' || c.isDigit
  let digits := marks.filter Char.isDigit
  let signs := marks.filter fun c ↦ !c.isDigit
  let behind := (c.skip marks.length).skipBlanks
  let isClear := behind.atEnd || behind.atBreak || behind.head? = some '#'
  if !isClear || 1 < digits.length || 1 < signs.length || digits = ['0'] then none
  else some (Text.natInBase? 10 digits, signs.head?.map (· = '+'), behind.nextLine)

/-- Reads a block scalar behind its first character; `indent` is the least indentation. -/
def blockScalar? (fold : Bool) (indent : Nat) (c : Cursor) : Option (Text × Cursor) := do
  let (hint, chomp, c) ← blockHead? c
  let lines := brokenLines c.rest
  let indent := match hint with
    | some n => if indent = 0 then n else indent - 1 + n
    | none => max (max (foundIndent (lines.map (·.1))) indent) 1
  let read := blockLines indent lines
  let rest := (lines.drop read.length).flatMap fun (line, ending) ↦ line ++ ending
  return (blockText fold chomp false false [] read, ⟨rest, 0⟩)

end LineEditor.Yaml
