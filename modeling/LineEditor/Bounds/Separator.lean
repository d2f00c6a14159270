import LineEditor.Search.Replace

/-!
# Separators

Bounds can be extended up to a separator: a literal text, a match of a pattern, or a pair of
delimiters, of which the opening one bounds the start and the closing one the stop. In a pair whose
parts are pairs again, the outermost opening and closing parts count.
-/

namespace LineEditor

/-- What stands between two stretches of text. -/
inductive Separator where
  /-- A text, which separates nothing if it is empty. -/
  | literal (t : Text)
  /-- Any match of a pattern. -/
  | pattern (m : Matcher)
  /-- One separator in front and another one behind. -/
  | pair (opening closing : Separator)

namespace Separator

/-- The separator is a pair. -/
def isPair : Separator → Bool
  | pair .. => true
  | _ => false

/-- The part that bounds the start. -/
def opening : Separator → Separator
  | pair opening _ => opening.opening
  | s => s

/-- The part that bounds the stop. -/
def closing : Separator → Separator
  | pair _ closing => closing.closing
  | s => s

/-- The first occurrence at or after an offset. -/
def after? (t : Text) (offset : Nat) : Separator → Option Bounds
  | literal piece =>
    if piece = [] then none
    else (t.findFrom piece offset).map fun start ↦ ⟨start, start + piece.length⟩
  | pattern m => (m.firstFrom t (min offset t.length)).map (·.whole)
  | pair _ closing => closing.after? t offset

/-- The last occurrence that ends at or before an offset. Matches of a pattern are counted from the
start of the text without overlap. -/
def before? (t : Text) (offset : Nat) : Separator → Option Bounds
  | literal piece =>
    if piece = [] then none
    else (t.findLastBefore piece offset).map fun start ↦ ⟨start, start + piece.length⟩
  | pattern m => (Search.matchesFrom m (t.take offset) true 0 none).getLast?.map (·.whole)
  | pair opening _ => opening.before? t offset

/-- The stop extended up to the next separator, or behind it if `outer`; to the end of the text if
there is none. -/
def extendStop (s : Separator) (t : Text) (outer : Bool) (stop : Nat) : Nat :=
  match s.closing.after? t stop with
  | some b => if outer then b.stop else b.start
  | none => t.length

/-- The start extended down to the separator before it, or in front of that one if `outer`; to the
start of the text if there is none. -/
def extendStart (s : Separator) (t : Text) (outer : Bool) (start : Nat) : Nat :=
  match s.opening.before? t start with
  | some b => if outer then b.start else b.stop
  | none => 0

/-- The bounds extended in both directions. With `outer` the closing separator is taken in, and the
opening one if the separator is a pair. -/
def extend (s : Separator) (t : Text) (outer : Bool) (b : Bounds) : Bounds :=
  ⟨s.extendStart t (s.isPair && outer) b.start, s.extendStop t outer b.stop⟩

end Separator

end LineEditor
