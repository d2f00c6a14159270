import LineEditor.Command.Line
import LineEditor.Document.Lines
import LineEditor.Session.Span

/-!
# Commands that edit lines

What is left to each command here is to read its parameter, to use the registers, and to choose the
lines; the editing itself is that of documents.
-/

namespace LineEditor.Run

/-! ## Parameters -/

/-- The register and the count that a parameter is made of; both may be missing. -/
def registerAndCount (parameter : Text) : Run (Option Char × Option Nat) := do
  let parameter := Text.trim parameter
  let register := parameter.head?.filter fun c ↦ Registers.isName c && !c.isDigit
  let rest := if register.isSome then Text.trim (parameter.drop 1) else parameter
  if rest = [] then return (register, none)
  match Text.count? rest with
  | some (n + 1) => return (register, some (n + 1))
  | _ => refuse (.badCount rest)

/-- Stores a text in a register. -/
def store (register : Option Char) (t : Text) : Run Unit := do
  match (← session).registers.store? register t with
  | some registers => modifySession fun s ↦ { s with registers := registers }
  | none => refuse (.readOnlyRegister (register.getD '"'))

/-- The indentation for lines put next to line `n`; `flip` reverses the option that asks for it. -/
def indentLike (n : Nat) (flip : Bool) : Run Text := do
  let d ← document
  if 0 < n ∧ d.options.autoindent ≠ flip then return d.indentationOf n else return []

/-! ## Inserting -/

/-- Inserts lines behind a line, indented like line `neighbour`. -/
def insertBehind (after neighbour : Nat) (body : Text) (flip : Bool) : Run Unit := do
  let indent ← indentLike neighbour flip
  modifyAt (·.insertLines · after body indent)

/-- Inserts lines behind the last line addressed. -/
def append (span : Span) (body : Text) (bang : Bool) : Run Unit :=
  insertBehind span.last span.last body bang

/-- Inserts lines in front of the first line addressed. -/
def insert (span : Span) (body : Text) (bang : Bool) : Run Unit :=
  insertBehind (span.first - 1) span.first body bang

/-- Puts other lines in place of those addressed, which are stored. -/
def change (span : Span) (body : Text) (bang : Bool) : Run Unit := do
  let first := max span.first 1
  let last := max span.last first
  store none ((← text).linesText first last ++ [Text.separator])
  let indent ← indentLike first bang
  modifyAt (·.changeLines · first last body indent)

/-- Inserts the text of a register. A single digit is the name of a register here, no count. -/
def put (span : Span) (parameter : Text) (before : Bool) : Run Unit := do
  let register ← match Text.trim parameter with
    | [c] => if c.isDigit then pure (some c) else pure (← registerAndCount [c]).1
    | p => pure (← registerAndCount p).1
  match (← session).registers.get? register with
  | none => throw (.emptyRegister (register.getD '"'))
  | some t =>
    let body := (t.dropFinal? Text.separator).getD t
    let after := if before then span.first - 1 else span.last
    modifyAt (·.insertLines · after body [])

/-! ## Removing -/

/-- Stores lines, and deletes them if `remove`. -/
def deleteOrYank (span : Span) (parameter : Text) (remove : Bool) : Run Unit := do
  let (register, count) ← registerAndCount parameter
  let t ← text
  let span := span.counted count t.lineCount
  store register (t.linesText span.first span.last ++ [Text.separator])
  if remove then modifyDocument (·.deleteLines span.first span.last)
  moveToLine (min span.first (← text).lineCount)

/-- Joins lines: those addressed, or as many as counted, but at least two. -/
def join (span : Span) (parameter : Text) (verbatim : Bool) : Run Unit := do
  let (_, count) ← registerAndCount parameter
  let first := max span.first 1
  let last := match count with
    | some n => first + max n 2 - 1
    | none => if first < span.last then span.last else first + 1
  let last := min last (← text).lineCount
  if first < last then modifyAt (·.joinLines · first last verbatim)

/-- Moves lines behind the line that the parameter addresses, or copies them there. -/
def transfer (span : Span) (parameter : Text) (remove : Bool) : Run Unit := do
  let tokens ← match Command.addressList parameter with
    | .ok tokens => pure tokens
    | .error e => refuse e
  match ← resolve tokens with
  | none => refuse .missingDestination
  | some target =>
    let first := max span.first 1
    let last := max span.last first
    if remove then modifyAt (·.moveLines · first last target.last)
    else
      let block := (← text).linesText first last
      modifyAt (·.insertLines · target.last block [])

/-- Shifts lines to the right or to the left. -/
def shift (span : Span) (parameter : Text) (times : Nat) (right : Bool) : Run Unit := do
  let (_, count) ← registerAndCount parameter
  let span := span.counted count (← text).lineCount
  modifyAt (·.shiftLines · span.first span.last times right)

/-! ## Marks -/

/-- Marks the last line addressed. -/
def mark (span : Span) (parameter : Text) : Run Unit := do
  let name := Text.trim parameter
  if name.length ≠ 1 then refuse (.badMarkName name)
  let t ← text
  let offset := (t.lineStart? (max span.last 1)).getD t.length
  modifyDocument (·.setMark name (.collapsed offset))

end LineEditor.Run
