import LineEditor.Text.Lines
import LineEditor.Yaml.Scalar

/-!
# Reading YAML documents

A document is read along its indentation. A collection in block notation has its entries one below
the other at one column; what belongs to an entry is indented further, except that a sequence may
stand at the column of the key it belongs to. Inside brackets indentation means nothing.

Every step consumes part of the document or goes one level down, so a measure that exceeds the
length of the document is never used up. Documents with keys in block notation that are not scalars
are refused.
-/

namespace LineEditor.Yaml

namespace Cursor

/-- Skips blanks, comments and line breaks up to what is written next; answers whether a new line
has begun. Tabs are skipped only where they cannot be taken for indentation. -/
def gap (flow : Bool) : (fuel : Nat) → Cursor → Bool × Cursor
  | 0, c => (c.column = 0, c)
  | fuel + 1, c =>
    let isFresh := c.column = 0
    let c := if flow || !isFresh then c.skipBlanks else c.skip (c.rest.takeWhile (· = ' ')).length
    let behind := if c.head? = some '#' then c.skip (c.rest.takeWhile (!isBreak ·)).length else c
    if behind.atBreak then (true, (gap flow fuel behind.nextLine).2)
    else (isFresh, behind)

/-- Skips a tag. -/
def skipTag (flow : Bool) (c : Cursor) : Cursor :=
  let isPart := fun c ↦ !isGap c &&
    !(flow && (c = ',' || c = '[' || c = ']' || c = '\x7b' || c = '\x7d'))
  c.skip (c.rest.takeWhile isPart).length

/-- Reads the name behind the mark of an anchor or a reference. -/
def name? (c : Cursor) : Option (Text × Cursor) :=
  let name := (c.rest.drop 1).takeWhile fun c ↦ c.isAlphanum || c = '_' || c = '-'
  let behind := c.skip (name.length + 1)
  let isEnded := isBlankOrEnd behind.head? ||
    behind.head?.any fun c ↦ "?:,]\x7d%@\x60".toList.contains c
  if name ≠ [] && isEnded then some (name, behind) else none

/-- The cursor behind a colon that makes a key of what stands before it. -/
def behindColon? (flow : Bool) (c : Cursor) : Option Cursor :=
  let c := c.skipBlanks
  if c.head? = some ':' && (flow || isBlankOrEnd c.rest[1]?) then some (c.skip 1) else none

end Cursor

/-- Reads a scalar in one notation or the other; answers it, whether it stands on one line, and the
cursor behind it. -/
def scalar? (flow : Bool) (indent : Nat) (c : Cursor) : Option (Node × Bool × Cursor) :=
  let fuel := c.rest.length + 1
  match c.head? with
  | some '"' => quoted '"' fuel
  | some '\x27' => quoted '\x27' fuel
  | _ =>
    if startsPlain flow c then
      let (t, single, c) := plainScalar flow indent fuel c
      some (.scalar true t, single, c)
    else none
where
  /-- A scalar in quotes. -/
  quoted (quote : Char) (fuel : Nat) : Option (Node × Bool × Cursor) := do
    let (t, behind) ← quotedScalar? quote fuel (c.skip 1)
    let single := !(c.rest.take (c.rest.length - behind.rest.length)).any isBreak
    return (.scalar false t, single, behind)

/-! ## Inside brackets -/

mutual

/-- Reads a value inside brackets. -/
def flowNode? : (fuel : Nat) → Cursor → Option (Node × Cursor)
  | 0, _ => none
  | fuel + 1, c =>
    match c.head? with
    | some '!' =>
      let c := c.skipTag true
      flowNode? fuel (c.gap true c.rest.length).2
    | some '&' => do
      let (name, c) ← c.name?
      let (node, c) ← flowNode? fuel (c.gap true c.rest.length).2
      return (.anchored name node, c)
    | some '*' => do
      let (name, c) ← c.name?
      return (.reference name, c)
    | some '[' => do
      let (items, c) ← flowItems? fuel (c.skip 1)
      return (.sequence items, c)
    | some '\x7b' => do
      let (entries, c) ← flowEntries? fuel (c.skip 1)
      return (.mapping entries, c)
    | some ',' | some ']' | some '\x7d' | some ':' => some (.empty, c)
    | _ => do
      let (node, _, c) ← scalar? true 0 c
      return (node, c)

/-- Reads a value and, if a colon follows, the value that it is the key of. -/
def flowPair? : (fuel : Nat) → Cursor → Option (Node × Option Node × Cursor)
  | 0, _ => none
  | fuel + 1, c => do
    let (key, c) ← flowNode? fuel c
    let here := (c.gap true c.rest.length).2
    match here.behindColon? true with
    | some c =>
      let (value, c) ← flowNode? fuel (c.gap true c.rest.length).2
      return (key, some value, c)
    | none => return (key, none, here)

/-- Reads the items of a sequence up to its closing bracket. -/
def flowItems? : (fuel : Nat) → Cursor → Option (List Node × Cursor)
  | 0, _ => none
  | fuel + 1, c =>
    let c := (c.gap true c.rest.length).2
    if c.head? = some ']' then some ([], c.skip 1)
    else if c.head? = some ',' then none
    else do
      let (node, value, c) ← flowPair? fuel c
      let item := match value with
        | some value => .mapping [(node, value)]
        | none => node
      let c := (c.gap true c.rest.length).2
      if c.head? = some ',' then
        let (items, c) ← flowItems? fuel (c.skip 1)
        return (item :: items, c)
      else if c.head? = some ']' then return ([item], c.skip 1)
      else none

/-- Reads the entries of a mapping up to its closing bracket. -/
def flowEntries? : (fuel : Nat) → Cursor → Option (List (Node × Node) × Cursor)
  | 0, _ => none
  | fuel + 1, c =>
    let c := (c.gap true c.rest.length).2
    if c.head? = some '\x7d' then some ([], c.skip 1)
    else if c.head? = some ',' then none
    else do
      let (key, value, c) ← flowPair? fuel c
      let entry := (key, value.getD .empty)
      let c := (c.gap true c.rest.length).2
      if c.head? = some ',' then
        let (entries, c) ← flowEntries? fuel (c.skip 1)
        return (entry :: entries, c)
      else if c.head? = some '\x7d' then return ([entry], c.skip 1)
      else none

end

/-! ## Blocks -/

/-- The cursor stands at an entry of the block at a column. -/
def atEntry (column : Nat) (fresh : Bool) (c : Cursor) : Bool :=
  fresh && c.column = column && !c.atEnd && !c.atDocumentMark

mutual

/-- Reads a value that is indented by `indent` at least. Where `block` is false, no collection in
block notation may start on this line. -/
def blockNode? (indent : Nat) (block : Bool) : (fuel : Nat) → Cursor → Option (Node × Cursor)
  | 0, _ => none
  | fuel + 1, c =>
    if c.atIndicator '-' then
      if block then do
        let (items, c) ← blockItems? c.column fuel c
        return (.sequence items, c)
      else none
    else match c.head? with
    | some '!' => blockTagged? indent block fuel (c.skipTag false)
    | some '&' => do
      let (name, c) ← c.name?
      let (node, c) ← blockTagged? indent block fuel c
      return (.anchored name node, c)
    | some '*' => do
      let (name, c) ← c.name?
      if (c.behindColon? false).isSome then none else return (.reference name, c)
    | some '[' | some '\x7b' => do
      let (node, c) ← flowNode? fuel c
      if (c.behindColon? false).isSome then none else return (node, c)
    | some '|' => do
      let (t, c) ← blockScalar? false indent (c.skip 1)
      return (.scalar false t, c)
    | some '>' => do
      let (t, c) ← blockScalar? true indent (c.skip 1)
      return (.scalar false t, c)
    | _ => do
      let (node, single, behind) ← scalar? false indent c
      match behind.behindColon? false with
      | some value =>
        if block && single then
          let (entries, c) ← blockEntries? c.column fuel node value
          return (.mapping entries, c)
        else none
      | none => return (node, behind)
termination_by structural fuel => fuel

/-- Reads the value behind a tag or an anchor, which may be missing. -/
def blockTagged? (indent : Nat) (block : Bool) : (fuel : Nat) → Cursor → Option (Node × Cursor)
  | 0, _ => none
  | fuel + 1, c =>
    let (fresh, next) := c.gap false c.rest.length
    if next.atEnd || (fresh && next.column < indent) then some (.empty, c)
    else blockNode? indent (fresh || block) fuel next
termination_by structural fuel => fuel

/-- Reads the value behind an indicator at a column, which may be missing. -/
def blockValue? (column : Nat) (isKey : Bool) : (fuel : Nat) → Cursor → Option (Node × Cursor)
  | 0, _ => none
  | fuel + 1, c =>
    let (fresh, next) := c.gap false c.rest.length
    if next.atEnd || next.atDocumentMark then some (.empty, c)
    else if !fresh then blockNode? (column + 1) (!isKey) fuel next
    else if column < next.column then blockNode? (column + 1) true fuel next
    else if isKey && next.column = column && next.atIndicator '-' then do
      let (items, c) ← blockItems? column fuel next
      return (.sequence items, c)
    else some (.empty, c)
termination_by structural fuel => fuel

/-- Reads the items of a sequence at a column. -/
def blockItems? (column : Nat) : (fuel : Nat) → Cursor → Option (List Node × Cursor)
  | 0, _ => none
  | fuel + 1, c => do
    let (item, c) ← blockValue? column false fuel (c.skip 1)
    let (fresh, next) := c.gap false c.rest.length
    if atEntry column fresh next && next.atIndicator '-' then
      let (items, c) ← blockItems? column fuel next
      return (item :: items, c)
    else return ([item], c)
termination_by structural fuel => fuel

/-- Reads the entries of a mapping at a column, behind the first key and its colon. -/
def blockEntries? (column : Nat) : (fuel : Nat) → (key : Node) → Cursor →
    Option (List (Node × Node) × Cursor)
  | 0, _, _ => none
  | fuel + 1, key, c => do
    let (value, c) ← blockValue? column true fuel c
    let (fresh, next) := c.gap false c.rest.length
    if atEntry column fresh next then
      let (key', single, c) ← scalar? false (column + 1) next
      let c ← c.behindColon? false
      if !single then none
      let (entries, c) ← blockEntries? column fuel key' c
      return ((key, value) :: entries, c)
    else return ([(key, value)], c)
termination_by structural fuel => fuel

end

/-! ## Documents -/

/-- The character may stand in a document. -/
def isAllowed (c : Char) : Bool :=
  let n := c.toNat
  n = 0x09 || n = 0x0A || n = 0x0D || (0x20 ≤ n && n ≤ 0x7E) || n = 0x85 ||
    (0xA0 ≤ n && n ≤ 0xFFFD && n ≠ 0xFEFF) || 0x10000 ≤ n

/-- The text with a line feed in the place of all line breaks but the separators of lines and
paragraphs. -/
def normalizeBreaks (t : Text) : Text :=
  (Text.normalizeBreaks t).map fun c ↦ if c.toNat = 0x85 then '\n' else c

/-- What is written first, behind the mark that starts a document if there is one, and whether it
starts a line. -/
def skipStart (c : Cursor) : Bool × Cursor :=
  let (fresh, next) := c.gap false c.rest.length
  if next.atDocumentMark && next.head? = some '-' then (next.skip 3).gap false next.rest.length
  else (fresh, next)

/-- Nothing but the end of the document lies ahead. -/
def isFinished (c : Cursor) : Bool :=
  let (fresh, next) := c.gap false c.rest.length
  if next.atEnd then true
  else if fresh && next.atDocumentMark && next.head? = some '.' then
    ((next.skip 3).gap false next.rest.length).2.atEnd
  else false

/-- Reads the one document that a text is made of, `none` if it is not well-formed or if there is
not exactly one. -/
def read? (t : Text) : Option Node := do
  let t := match t with
    | c :: rest => if c.toNat = 0xFEFF then rest else t
    | [] => []
  if !t.all isAllowed then none
  let (fresh, next) := skipStart ⟨normalizeBreaks t, 0⟩
  if next.atEnd || next.atDocumentMark then none
  let (node, c) ← blockNode? 0 fresh (4 * t.length + 4) next
  if !isFinished c then none
  let (node, _) ← node.resolve? []
  return node

end LineEditor.Yaml
