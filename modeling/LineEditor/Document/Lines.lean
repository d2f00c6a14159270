import LineEditor.Document.Range
import LineEditor.Search.Replace
import LineEditor.Text.Indent

/-!
# Editing whole lines

The line commands as operations on documents. Each is given line numbers that have been worked out
already, makes its edits, and leaves the range of the command on the lines it produced.
-/

namespace LineEditor.Document

/-- Replaces the text in bounds on behalf of a command. -/
def edit (d : Document) (b : Bounds) (piece : Text) : Document :=
  (d.replace b.start b.stop piece .command).2

/-- The indentation of line `n`. -/
def indentationOf (d : Document) (n : Nat) : Text := (d.text.line n).indentation

/-- Inserts lines behind line `after`, or in front of all lines if that is 0. -/
def insertLines (d : Document) (id : RangeId) (after : Nat) (body indent : Text) : Document :=
  let t := d.text
  let after := min after t.lineCount
  let (offset, chunk) :=
    if t = [] then (0, body)
    else if after = 0 then (0, body ++ [Text.separator])
    else (t.lineEnd after, Text.separator :: body)
  let d := ((d.moveTo id (.collapsed offset)).write id chunk .command indent).2
  d.moveToLines id (after + 1) (after + body.lines.length)

/-- Puts other lines in place of lines `first` to `last`. -/
def changeLines (d : Document) (id : RangeId) (first last : Nat) (body indent : Text) : Document :=
  let d := ((d.moveTo id (.inLines d.text first last)).write id body .command indent).2
  d.moveToLines id first (first + body.lines.length - 1)

/-- Deletes lines `first` to `last`. -/
def deleteLines (d : Document) (first last : Nat) : Document :=
  d.edit (.aroundLines d.text first last) []

/-- Moves lines `first` to `last` behind line `target`. A target inside the lines or right in front
of them leaves the text as it is. -/
def moveLines (d : Document) (id : RangeId) (first last target : Nat) : Document :=
  let block := d.text.linesText first last
  if (first ≤ target ∧ target ≤ last) ∨ target + 1 = first then d.moveToLines id first last
  else if last < target then
    let d := (d.insertLines id target block []).deleteLines first last
    d.moveToLines id (target - (last - first + 1) + 1) target
  else (d.deleteLines first last).insertLines id target block []

/-! ## Joining -/

/-- Adds a line to a joined one, with one space between them in place of the blanks around the
joint. -/
def joinLine (joined line : Text) : Text :=
  let line := Text.trimStart line
  if line = [] then joined
  else
    let joined := Text.trimEnd joined
    (if joined = [] then [] else joined ++ [' ']) ++ line

/-- Lines made into one. -/
def joinedText (verbatim : Bool) : List Text → Text
  | [] => []
  | first :: rest => if verbatim then first ++ rest.flatten else rest.foldl joinLine first

/-- Joins lines `first` to `last` into one. -/
def joinLines (d : Document) (id : RangeId) (first last : Nat) (verbatim : Bool) : Document :=
  let joined := joinedText verbatim (d.text.lineRange first last)
  (d.edit (.inLines d.text first last) joined).moveToLines id first first

/-! ## Shifting -/

/-- A line moved to the right, or to the left, by a number of columns. -/
def shiftLine (right : Bool) (width tabsize : Nat) (line : Text) : Text :=
  if !right then line.outdent width tabsize
  else if line = [] then []
  else List.replicate width ' ' ++ line

/-- Shifts lines `first` to `last`, `times` times as far as the options say. -/
def shiftLines (d : Document) (id : RangeId) (first last times : Nat) (right : Bool) : Document :=
  let width := d.options.shiftwidth.toNat * max times 1
  let tabsize := if d.options.tabsize < 0 then 1 else d.options.tabsize.toNat
  let shifted := (d.text.lineRange first last).map (shiftLine right width tabsize)
  (d.edit (.inLines d.text first last) (Text.unlines shifted)).moveToLines id first last

/-! ## Substituting -/

/-- How matches are replaced. -/
structure Replacement where
  /-- What is replaced. -/
  matcher : Matcher
  /-- What it is replaced by. -/
  template : Text
  /-- Every match of a line is replaced, not only the first one. -/
  all : Bool
  /-- The template has special characters. -/
  magic : Bool

/-- What a substitution has come to: the document, the number of replacements, and the line of the
first one made. -/
structure Substituted where
  /-- The document after the replacements so far. -/
  document : Document
  /-- How many matches were replaced. -/
  count : Nat := 0
  /-- The line in which the first of them was. -/
  line? : Option Nat := none

/-- Replaces matches in the text of lines `first` to `last`, taken as one. -/
def Substituted.step (r : Replacement) (s : Substituted) (first last : Nat) : Substituted :=
  let t := s.document.text
  let region := Bounds.inLines t first last
  match Search.replace r.matcher t region r.template r.all false r.magic with
  | some (piece, n) => ⟨s.document.edit region piece, s.count + n, s.line?.or (some last)⟩
  | none => s

/-- Replaces matches in lines `first` to `last`: in all of them taken as one if the document looks
for matches over several lines, else in one line after the other, the last one first so that the
numbers of those to come stay right. -/
def substituteLines (d : Document) (r : Replacement) (first last : Nat) : Substituted :=
  if d.options.multiline then (Substituted.mk d 0 none).step r first last
  else (List.range' first (last + 1 - first)).reverse.foldl (fun s n ↦ s.step r n n) ⟨d, 0, none⟩

end LineEditor.Document
