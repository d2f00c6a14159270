import LineEditor.Bounds.Named
import LineEditor.Document
import LineEditor.Search.Find

/-!
# Working through a range

A range of a document is a place to work at: its bounds say what is read, written, searched and
selected. The bounds may have been set to anything; whenever they are used they are cut to the text.
-/

namespace LineEditor.Document

/-! ## Bounds -/

/-- The bounds of a range, cut to the text. -/
def bounds (d : Document) (id : RangeId) : Bounds := (d.ranges.get id).bounds.clamp d.length

/-- Sets the bounds of a range. -/
def moveTo (d : Document) (id : RangeId) (b : Bounds) : Document :=
  { d with ranges := d.ranges.put id { d.ranges.get id with bounds := b } }

/-- Sets the bounds of a range to those of lines. -/
def moveToLines (d : Document) (id : RangeId) (first last : Nat) : Document :=
  d.moveTo id (.ofLines d.text first last)

/-- The numbers of the first and the last line that a range touches. -/
def lines (d : Document) (id : RangeId) : Nat × Nat := (d.bounds id).lineNumbers d.text

/-- The number of the line in which a range starts. -/
def line (d : Document) (id : RangeId) : Nat := d.text.lineAt (d.bounds id).start

/-- What named bounds are worked out from. -/
def setting (d : Document) : Bounds.Setting := ⟨d.text, d.selection, d.options⟩

/-- Sets the bounds of a range to named ones. -/
def moveToNamed (d : Document) (id : RangeId) (name : Text) (args : List BoundsArgument) :
    Except Error Document :=
  match Bounds.named d.setting (d.bounds id) name args with
  | .ok b => .ok (d.moveTo id b)
  | .error e => .error (.bounds e)

/-- Makes a mark at a range. -/
def bookmark (d : Document) (id : RangeId) (name : Text) : Document := d.setMark name (d.bounds id)

/-! ## Text -/

/-- The text of a range. -/
def textOf (d : Document) (id : RangeId) : Text :=
  let b := d.bounds id
  d.slice b.start b.stop

/-- Writes a text in place of that of a range, which covers it afterwards. -/
def write (d : Document) (id : RangeId) (piece : Text) (kind : EditKind) (indent : Text) :
    Option Edit × Document :=
  let b := d.bounds id
  let written := Insertion.prepare d.text b.start indent piece
  let (e?, d) := d.replace b.start b.stop written kind
  (e?, d.moveTo id ⟨b.start, b.start + written.length⟩)

/-! ## Searching -/

/-- The search flags of a document, overridden by letters. -/
def searchFlags (d : Document) (letters : Text) : Except Error SearchFlags :=
  match (SearchFlags.ofOptions d.options).override letters with
  | .ok f => .ok f
  | .error letter => .error (.badFlag letter)

/-- The matcher of a pattern. -/
def matcher (f : SearchFlags) (pattern : Text) : Except Error Matcher :=
  match f.matcher? pattern with
  | some m => .ok m
  | none => .error .badPattern

/-- Moves a range to the next match of a pattern, or leaves it where it is if there is none. -/
def find (d : Document) (id : RangeId) (pattern : Text) (f : SearchFlags) :
    Except Error (Bool × Document) := do
  let m ← matcher f pattern
  let range := d.ranges.get id
  let found := Search.find m d.text (d.bounds id) f
  let range := { bounds := found.getD range.bounds, matched := some found.isSome }
  return (found.isSome, { d with ranges := d.ranges.put id range })

/-- Replaces matches of a pattern in a range; answers how many. -/
def replaceMatches (d : Document) (id : RangeId) (pattern template : Text) (f : SearchFlags)
    (all : Bool) : Except Error (Nat × Document) := do
  let m ← matcher f pattern
  match Search.replace m d.text (d.bounds id) template all f.backward f.magic with
  | some (t, n) => return (n, (d.write id t .replacement []).2)
  | none => return (0, d)

/-! ## Laws -/

theorem lines_fst_le_snd (d : Document) (id : RangeId) : (d.lines id).1 ≤ (d.lines id).2 :=
  (d.bounds id).lineNumbers_fst_le_snd d.text

/-- Setting the bounds of a range changes nothing else. -/
theorem text_moveTo (d : Document) (id : RangeId) (b : Bounds) : (d.moveTo id b).text = d.text :=
  rfl

end LineEditor.Document
