import LineEditor.Bounds
import LineEditor.Surface.Forest
import LineEditor.Surface.Viewport
import LineEditor.Text.Lines

/-!
# Surfaces

A surface is what a document is shown and edited in: a text field, structured content, or plain
text of an element that cannot be edited natively. All three offer the same operations over
character offsets and clamp offsets that lie outside. They differ in how they keep a selection: a
field always has one, structured content keeps it as two points of its forest, and plain text has
none until one is set.
-/

namespace LineEditor

/-- The native model behind a surface, with its selection. -/
inductive Surface.Body where
  /-- The text of a field. -/
  | field (text : Text) (selection : Bounds)
  /-- A forest of nodes, with the two ends of the selection. -/
  | content (nodes : Forest) (selection : Option (Point × Point))
  /-- Plain text. -/
  | plain (text : Text) (selection : Option Bounds)

/-- A surface: its model and the visible part of it. -/
structure Surface where
  /-- The native model. -/
  body : Surface.Body
  /-- The visible part. -/
  viewport : Viewport := {}

namespace Surface

/-- A field that holds a text, with the selection at its start. -/
def ofField (t : Text) : Surface := ⟨.field t {}, {}⟩

/-- Structured content without a selection. -/
def ofContent (nodes : Forest) : Surface := ⟨.content nodes none, {}⟩

/-- Plain text without a selection. -/
def ofPlain (t : Text) : Surface := ⟨.plain t none, {}⟩

/-- What messages call the surface. -/
def kindName (s : Surface) : Text :=
  match s.body with
  | .field .. => "plain-text input".toList
  | .content .. => "structured content".toList
  | .plain .. => "fallback".toList

/-- The whole text. -/
def text (s : Surface) : Text :=
  match s.body with
  | .field t _ => t
  | .content nodes _ => nodes.content
  | .plain t _ => t

/-- The number of characters. -/
def length (s : Surface) : Nat := s.text.length

/-- The text between two offsets. -/
def slice (s : Surface) (start stop : Nat) : Text := s.text.slice start stop

/-- The native selection in offsets. -/
def selection (s : Surface) : Option Bounds :=
  match s.body with
  | .field _ selection => some (selection.clamp s.length)
  | .content nodes selection => selection.map fun (anchor, focus) ↦
      let a := nodes.offsetOf anchor
      let f := nodes.offsetOf focus
      ⟨min a f, max a f⟩
  | .plain _ selection => selection.map (·.clamp s.length)

/-- Sets the native selection. -/
def select (s : Surface) (b : Bounds) : Surface :=
  let b := b.clamp s.length
  match s.body with
  | .field t _ => { s with body := .field t b }
  | .content nodes _ =>
    { s with body := .content nodes (some (nodes.locate b.start, nodes.locate b.stop)) }
  | .plain t _ => { s with body := .plain t (some b) }

/-- Replaces the text between two offsets. The native selection ends up behind the new text. -/
def replace (s : Surface) (start stop : Nat) (piece : Text) : Surface :=
  let start := min start s.length
  let stop := max start (min stop s.length)
  let caret := start + piece.length
  match s.body with
  | .field t _ => { s with body := .field (t.splice start stop piece) (.collapsed caret) }
  | .content nodes _ =>
    let nodes := nodes.replace start stop piece
    { s with body := .content nodes (some (nodes.locate caret, nodes.locate caret)) }
  | .plain t _ => { s with body := .plain (t.splice start stop piece) (some (.collapsed caret)) }

/-- Surrounds a stretch of structured content with an element; other surfaces cannot. -/
def wrap? (s : Surface) (b : Bounds) (tag : Text) : Option Surface :=
  match s.body with
  | .content nodes selection =>
    let b := b.clamp s.length
    some { s with body := .content (nodes.wrap b.start b.stop tag) selection }
  | _ => none

/-! ## Visual lines -/

/-- The line breaks of plain text: those of ASCII and of other scripts. -/
def isLineBreak (c : Char) : Bool :=
  let n := c.toNat
  (0xA ≤ n && n ≤ 0xD) || n = 0x85 || n = 0x2028 || n = 0x2029

/-- The number of line breaks that end at or before an offset, a carriage return with the line feed
behind it being one. -/
def breaksBefore : Text → (offset : Nat) → Nat
  | [], _ => 0
  | _, 0 => 0
  | c :: rest, offset + 1 =>
    let single := isLineBreak c && !(c = '\r' && rest.head? = some '\n')
    (if single then 1 else 0) + breaksBefore rest offset

/-- The line on which an offset is shown, counted from 0. -/
def visualLine (s : Surface) (offset : Nat) : Nat :=
  match s.body with
  | .plain t _ => breaksBefore t offset
  | _ => (s.text.take offset).count Text.separator

/-- The height at which the line of an offset starts. -/
def verticalOffset (s : Surface) (offset : Nat) : Nat :=
  s.visualLine offset * s.viewport.lineHeight

end Surface

end LineEditor
