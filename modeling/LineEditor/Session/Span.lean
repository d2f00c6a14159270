import LineEditor.Command.Address
import LineEditor.Session

/-!
# Resolving addresses

Addresses turn into the lines a command works on. Addresses are worked out from left to right, each
from the current line, which a `;` moves to the line found last. A line is cut to the lines of the
document; line 0, before the first one, is allowed. Of all lines found the last two count.
-/

namespace LineEditor

/-- The lines from one number to another. -/
structure Span where
  /-- The first line. -/
  first : Nat
  /-- The last line. -/
  last : Nat
  deriving DecidableEq, Inhabited

/-- One line. -/
def Span.single (n : Nat) : Span := ⟨n, n⟩

/-- The lines between two lines, in either order. -/
def Span.between (a b : Nat) : Span := ⟨min a b, max a b⟩

/-- The lines of a command that takes a count: from the last one addressed on as many as counted, as
far as there are any. -/
def Span.counted (s : Span) (count : Option Nat) (total : Nat) : Span :=
  let last := max s.last 1
  match count with
  | some n => ⟨last, min (last + n - 1) total⟩
  | none => ⟨max s.first 1, last⟩

namespace Address

/-- The line that lies an offset from a base, cut to a document of `total` lines. -/
def lineAt (base : Nat) (offset : Int) (total : Nat) : Nat :=
  (min (max (Text.toInteger base + offset) 0) total).toNat

/-- The lines to look through from line `current`, the one to look at first in front. -/
def searchOrder (current total : Nat) (backward wrap : Bool) : List Nat :=
  let current := min current total
  if backward then
    (List.range' 1 (current - 1)).reverse
      ++ if wrap then (List.range' (max current 1) (total + 1 - max current 1)).reverse else []
  else
    List.range' (current + 1) (total - current) ++ if wrap then List.range' 1 current else []

/-- The next line from `current` in which a pattern matches. -/
def searchLine? (m : Matcher) (t : Text) (current : Nat) (backward wrap : Bool) : Option Nat :=
  (searchOrder current t.lineCount backward wrap).find? fun n ↦
    (t.lines[n - 1]?).any m.occursIn

/-- The lines found, the last one first, as a span. -/
def spanOf : (found : List Nat) → Option Span
  | [] => none
  | [n] => some (.single n)
  | b :: a :: _ => some (.between a b)

end Address

namespace Run

open Address

/-- The pattern meant by a written one: an empty one means the last one searched for. -/
def patternOrLast (pattern : Text) : Run Text := do
  if pattern ≠ [] then return pattern
  match (← session).lastSearch with
  | some pattern => return pattern
  | none => throw .noPreviousPattern

/-- The line of a base, `current` being the current line. -/
def baseLine (current : Nat) (lines : Nat × Nat) (base : AddressBase) : Run Nat := do
  let d ← document
  match base with
  | .current | .empty => return current
  | .last | .whole => return d.text.lineCount
  | .currentRange => return lines.2
  | .line n => return n
  | .mark name =>
    match d.mark? [name] with
    | some b => return d.text.lineAt b.start
    | none => throw (.markNotSet name)
  | .search pattern letters backward =>
    let pattern ← patternOrLast pattern
    let f ← orFail (d.searchFlags letters)
    let m ← orFail (Document.matcher f pattern)
    match searchLine? m d.text current (f.backward ^^ backward) f.wrapScan with
    | some n =>
      modifySession fun s ↦ { s with lastSearch := some pattern }
      return n
    | none => throw (.patternNotFound pattern)

/-- The lines found by addresses, the last one first; `found` are those found so far, `lines` those
of the range, and `alone` says that there is nothing but one address. -/
def foundLines (alone : Bool) (lines : Nat × Nat) :
    List AddressToken → (current : Nat) → (found : List Nat) → Run (List Nat)
  | [], _, found => return found
  | .comma :: rest, current, found => foundLines alone lines rest current found
  | .semicolon :: rest, current, found =>
    foundLines alone lines rest (found.head?.getD current) found
  | .address a :: rest, current, found => do
    if a.base = .currentRange ∧ !alone then throw (.ambiguousAddress "%%".toList)
    let total := (← text).lineCount
    let line ← baseLine current lines a.base
    let found := match a.base with
      | .whole => 1 :: found
      | .currentRange => lines.1 :: found
      | _ => found
    foundLines alone lines rest current (lineAt line a.offset total :: found)

/-- The lines that addresses mean, `none` if there are no addresses. -/
def resolve (tokens : List AddressToken) : Run (Option Span) := do
  let s ← get
  let lines := s.document.lines s.range
  return spanOf (← foundLines (tokens.length = 1) lines tokens lines.2 [])

end Run

end LineEditor
