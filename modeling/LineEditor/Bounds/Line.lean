import LineEditor.Bounds
import LineEditor.Text.Lines

/-!
# Bounds of lines

The bounds of a line hold its text without the separator behind it. Any number may be asked for:
before the first line lies the start of the text, past the last one its end.
-/

namespace LineEditor.Bounds

/-- The bounds of line `n`. -/
def ofLine (t : Text) (n : Int) : Bounds :=
  if n < 1 then .collapsed 0
  else match t.lineStart? n.toNat with
    | some start => ⟨start, t.lineEndFrom start⟩
    | none => .collapsed t.length

/-- The bounds from the start of one line to the end of another, in either order. -/
def ofLines (t : Text) (first last : Int) : Bounds := (ofLine t first).union (ofLine t last)

/-- The bounds widened to whole lines. -/
def toLines (t : Text) (b : Bounds) : Bounds := ⟨t.lineStartFrom b.start, t.lineEndFrom b.stop⟩

/-- The numbers of the first and the last line that bounds touch. Bounds that end just behind a
separator do not touch the line after it. -/
def lineNumbers (t : Text) (b : Bounds) : Nat × Nat :=
  let stop := if b.start < b.stop ∧ t[b.stop - 1]? = some Text.separator then b.stop - 1 else b.stop
  (t.lineAt b.start, max (t.lineAt stop) (t.lineAt b.start))

/-- The text of lines `first` to `last`, without the separators around it. -/
def inLines (t : Text) (first last : Nat) : Bounds :=
  let start := (t.lineStart? (max first 1)).getD t.length
  ⟨start, max (t.lineEnd last) start⟩

/-- What goes when lines `first` to `last` are deleted: the lines with the separator behind them, or
with the one in front of them where the text ends with them. -/
def aroundLines (t : Text) (first last : Nat) : Bounds :=
  let first := max first 1
  let start := (t.lineStart? first).getD t.length
  match t.lineStart? (last + 1) with
  | some next => ⟨start, next⟩
  | none => if 1 < first then ⟨start - 1, t.length⟩ else ⟨0, t.length⟩

/-! ## Laws -/

theorem ofLine_of_lt_one (t : Text) {n : Int} (h : n < 1) : ofLine t n = .collapsed 0 := if_pos h

theorem lineNumbers_fst_le_snd (t : Text) (b : Bounds) :
    (b.lineNumbers t).1 ≤ (b.lineNumbers t).2 := Nat.le_max_right _ _

end LineEditor.Bounds
