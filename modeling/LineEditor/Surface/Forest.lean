import LineEditor.Text.Basic

/-!
# Forests of nodes

Structured content is a forest: a row of nodes, each a leaf or an element that holds a forest of
its own. A leaf is a run of text or a line break, which counts as one separator character. The
content of a forest is the text of its leaves in order, and offsets into that text are what the
rest of the library works with.

A native position inside a forest is a `Point`: the indices on the way to a leaf and an offset
within it. `locate` turns an offset into a point and `offsetOf` reads a point back. Editing works
in three steps, each a function here: split the leaves at both ends of a stretch, remove the nodes
inside it, and insert new text at the first leaf that touches its start.
-/

namespace LineEditor

/-- A node without children. -/
inductive Leaf where
  /-- A run of text. -/
  | text (chars : Text)
  /-- A line break. -/
  | lineBreak
  deriving DecidableEq, Inhabited

namespace Leaf

/-- The text a leaf stands for. -/
def content : Leaf → Text
  | text chars => chars
  | lineBreak => ['\n']

/-- The number of characters a leaf stands for. -/
def length (l : Leaf) : Nat := l.content.length

/-- The leaf in markup. -/
def markup : Leaf → Text
  | text chars => chars
  | lineBreak => "<br>".toList

end Leaf

/-- A row of nodes. -/
inductive Forest where
  /-- The end of the row. -/
  | nil
  /-- A leaf, then the rest of the row. -/
  | leaf (l : Leaf) (next : Forest)
  /-- An element with its tag and children, then the rest of the row. -/
  | element (tag : Text) (inner next : Forest)
  deriving DecidableEq, Inhabited

/-- A native position: the indices that lead to a node, and an offset inside it. -/
structure Point where
  /-- Indices of the nodes on the way down. -/
  path : List Nat
  /-- Offset inside the node reached. -/
  offset : Nat
  deriving DecidableEq, Inhabited

namespace Forest

/-- The text of all leaves in order. -/
def content : Forest → Text
  | nil => []
  | leaf l next => l.content ++ content next
  | element _ inner next => content inner ++ content next

/-- The number of characters of the content. -/
def length : Forest → Nat
  | nil => 0
  | leaf l next => l.length + length next
  | element _ inner next => length inner + length next

/-- The forest in markup. -/
def markup : Forest → Text
  | nil => []
  | leaf l next => l.markup ++ markup next
  | element tag inner next =>
    '<' :: tag ++ '>' :: markup inner ++ "</".toList ++ tag ++ '>' :: markup next

/-- The row holds no node. -/
def isNil : Forest → Bool
  | nil => true
  | _ => false

/-- Two rows one after the other. -/
def append : Forest → Forest → Forest
  | nil, g => g
  | leaf l next, g => leaf l (append next g)
  | element tag inner next, g => element tag inner (append next g)

/-! ## Points -/

/-- The point of an offset: the first leaf that reaches beyond it, or the last leaf of the row when
the offset is the end. `index` counts the nodes passed in the row. -/
def locateFrom : Forest → (index offset : Nat) → Point
  | nil, _, offset => ⟨[], offset⟩
  | leaf l next, index, offset =>
    if offset < l.length || (offset = l.length && next.isNil) then ⟨[index], offset⟩
    else locateFrom next (index + 1) (offset - l.length)
  | element _ inner next, index, offset =>
    if offset < inner.length || (offset = inner.length && next.isNil) then
      let point := locateFrom inner 0 offset
      ⟨index :: point.path, point.offset⟩
    else locateFrom next (index + 1) (offset - inner.length)

/-- The point of an offset. -/
def locate (f : Forest) (offset : Nat) : Point := locateFrom f 0 offset

/-- The offset of the place that a path and an offset point to. -/
def offsetAlong : Forest → (path : List Nat) → (offset : Nat) → Nat
  | _, [], offset => offset
  | nil, _ :: _, _ => 0
  | leaf l _, 0 :: _, offset => min offset l.length
  | element _ inner _, 0 :: path, offset => offsetAlong inner path offset
  | leaf l next, (index + 1) :: path, offset => l.length + offsetAlong next (index :: path) offset
  | element _ inner next, (index + 1) :: path, offset =>
    inner.length + offsetAlong next (index :: path) offset

/-- The offset of a point. -/
def offsetOf (f : Forest) (point : Point) : Nat := offsetAlong f point.path point.offset

/-! ## Editing -/

/-- Splits the text leaf that holds `offset` in its middle, so that the offset falls between
leaves. -/
def splitAt : Forest → (offset : Nat) → Forest
  | nil, _ => nil
  | leaf l next, offset =>
    match l with
    | .text chars =>
      if 0 < offset && offset < chars.length then
        leaf (.text (chars.take offset)) (leaf (.text (chars.drop offset)) next)
      else leaf l (splitAt next (offset - chars.length))
    | .lineBreak => leaf l (splitAt next (offset - 1))
  | element tag inner next, offset =>
    if 0 < offset && offset < inner.length then element tag (splitAt inner offset) next
    else element tag inner (splitAt next (offset - inner.length))

/-- Removes the nodes that lie inside `[start, stop)`, and all empty text leaves beside them. The
row starts at offset `base`; both ends fall between leaves. -/
def removeFrom : Forest → (base start stop : Nat) → Forest
  | nil, _, _, _ => nil
  | leaf l next, base, start, stop =>
    let finish := base + l.length
    let rest := removeFrom next finish start stop
    if 0 < l.length && start ≤ base && finish ≤ stop then rest
    else if l = .text [] then rest
    else leaf l rest
  | element tag inner next, base, start, stop =>
    let finish := base + inner.length
    let rest := removeFrom next finish start stop
    if 0 < inner.length && start ≤ base && finish ≤ stop then rest
    else if start < finish && base < stop then
      element tag (removeFrom inner 0 (start - base) (min stop finish - base)) rest
    else element tag inner rest

/-- Inserts text into the first text leaf that touches `offset`, `none` if there is none. -/
def insertText? : Forest → (offset : Nat) → Text → Option Forest
  | nil, _, _ => none
  | leaf l next, offset, piece =>
    let later := if offset < l.length then none
      else (insertText? next (offset - l.length) piece).map (leaf l)
    match l with
    | .text chars =>
      if offset ≤ chars.length then some (leaf (.text (chars.splice offset offset piece)) next)
      else later
    | .lineBreak => later
  | element tag inner next, offset, piece =>
    let later := if offset < inner.length then none
      else (insertText? next (offset - inner.length) piece).map (element tag inner)
    if offset ≤ inner.length then
      match insertText? inner offset piece with
      | some inner' => some (element tag inner' next)
      | none => later
    else later

/-- Puts a row of nodes before the first node of the row that starts at or after `offset`. -/
def insertRow : Forest → (offset : Nat) → Forest → Forest
  | nil, _, row => row
  | leaf l next, offset, row =>
    if offset = 0 then row.append (leaf l next)
    else leaf l (insertRow next (offset - l.length) row)
  | element tag inner next, offset, row =>
    if offset = 0 then row.append (element tag inner next)
    else element tag inner (insertRow next (offset - inner.length) row)

/-- The forest with the content of `[start, stop)` replaced by `piece`. -/
def replace (f : Forest) (start stop : Nat) (piece : Text) : Forest :=
  let cleared := ((f.splitAt start).splitAt stop).removeFrom 0 start stop
  if piece = [] then cleared
  else match cleared.insertText? start piece with
    | some f' => f'
    | none => cleared.insertRow start (leaf (.text piece) nil)

/-! ## Wrapping -/

/-- The nodes gathered in `run` as one element, if there are any, then the rest of the row. -/
def closeRun (tag : Text) (run rest : Forest) : Forest :=
  if run.isNil then rest else element tag run rest

/-- Gathers the nodes inside `[start, stop)` into new elements, within the elements that hold them.
The row starts at offset `base` and `run` holds the nodes gathered so far. -/
def wrapFrom (tag : Text) : Forest → (base start stop : Nat) → (run : Forest) → Forest
  | nil, _, _, _, run => closeRun tag run nil
  | leaf l next, base, start, stop, run =>
    let finish := base + l.length
    if start ≤ base && finish ≤ stop && (0 < l.length || (!run.isNil && finish < stop)) then
      wrapFrom tag next finish start stop (run.append (leaf l nil))
    else closeRun tag run (leaf l (wrapFrom tag next finish start stop nil))
  | element t inner next, base, start, stop, run =>
    let finish := base + inner.length
    if start ≤ base && finish ≤ stop && (0 < inner.length || (!run.isNil && finish < stop)) then
      wrapFrom tag next finish start stop (run.append (element t inner nil))
    else
      let inner' := if start < finish && base < stop then
          wrapFrom tag inner 0 (start - base) (min stop finish - base) nil
        else inner
      closeRun tag run (element t inner' (wrapFrom tag next finish start stop nil))

/-- The forest with the content of `[start, stop)` inside elements with the given tag; an empty
element when there is no content. -/
def wrap (f : Forest) (start stop : Nat) (tag : Text) : Forest :=
  let split := (f.splitAt start).splitAt stop
  if stop ≤ start then split.insertRow start (element tag nil nil)
  else split.wrapFrom tag 0 start stop nil

/-! ## Laws -/

theorem length_eq_length_content (f : Forest) : f.length = f.content.length := by
  induction f with
  | nil => rfl
  | leaf l next ih => simp [length, content, Leaf.length, ih]
  | element tag inner next ihi ihn => simp [length, content, ihi, ihn]

@[simp] theorem content_append (f g : Forest) :
    (f.append g).content = f.content ++ g.content := by
  induction f with
  | nil => rfl
  | leaf l next ih => simp [append, content, ih]
  | element tag inner next _ ih => simp [append, content, ih]

/-- Splitting leaves changes the nodes and not the text. -/
@[simp] theorem content_splitAt (f : Forest) (offset : Nat) :
    (f.splitAt offset).content = f.content := by
  induction f generalizing offset with
  | nil => rfl
  | leaf l next ih =>
    cases l with
    | text chars =>
      simp only [splitAt]
      split
      · simp only [content, Leaf.content, ← List.append_assoc, List.take_append_drop]
      · simp [content, ih]
    | lineBreak => simp [splitAt, content, ih]
  | element tag inner next ihi ihn =>
    simp only [splitAt]
    split <;> simp [content, ihi, ihn]

end Forest

end LineEditor
