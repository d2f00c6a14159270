import LineEditor.Config
import LineEditor.Edit.Diff
import LineEditor.Error
import LineEditor.History
import LineEditor.Insertion
import LineEditor.Ranges
import LineEditor.Surface

/-!
# Documents

A document is a surface with everything that follows its text: ranges and marks, the history,
the selection, options, and observers.

The text changes in two ways. `replace` makes an edit; `absorb` takes over what the host has already
done to the surface and works out the edit. Both end in `settle`, which moves the tracked ranges,
records the edit, marks the document as changed and tells the observers. An operation that leaves
the text as it was does none of this.

A document does not call anybody. What observers are to be told is put down in `notices`, in order,
for whoever runs the document to pass on.
-/

namespace LineEditor

/-- Whether a text is the one stored last. -/
inductive SaveStatus where
  | clean
  | dirty
  /-- The text is being written. -/
  | pending
  /-- The last attempt to write it failed. -/
  | failed
  deriving DecidableEq, Inhabited

namespace SaveStatus

/-- The status in messages. -/
def name : SaveStatus → Text
  | clean => "clean".toList
  | dirty => "dirty".toList
  | pending => "pending".toList
  | failed => "failed".toList

/-- There are changes that are not stored. -/
def isDirty (s : SaveStatus) : Bool := s ≠ clean

end SaveStatus

/-- Whether observers hear of an edit before or after it is made. -/
inductive Phase where
  | before
  | after
  deriving DecidableEq, Inhabited

/-- What an observer is told. -/
inductive Notice where
  /-- An edit of the text. -/
  | edited (observer : Nat) (phase : Phase) (kind : EditKind) (edit : Edit)
  /-- An option set to a value. -/
  | assigned (option : OptionName) (value : OptionValue)
  deriving DecidableEq

/-- The focus, and the selection to restore when it is gained. -/
structure Focus where
  /-- The surface has the focus. -/
  isFocused : Bool := false
  /-- The selection to restore. -/
  pending : Option Bounds := none
  /-- When a pointer was pressed last. -/
  pressed : Option Nat := none
  /-- How long after a press a gain of focus restores nothing. -/
  window : Nat := 100
  deriving DecidableEq, Inhabited

/-- A pointer was pressed shortly before `now`. -/
def Focus.isRecent (f : Focus) (now : Nat) : Bool := f.pressed.any fun t ↦ now - t < f.window

/-- An open group of edits, which the history takes as one. -/
structure Group where
  /-- How many groups are open inside this one. -/
  inner : Nat := 0
  /-- The text when the group was opened. -/
  before : Text
  deriving DecidableEq, Inhabited

/-- A surface and all that follows its text. -/
structure Document where
  /-- Where the text is. -/
  surface : Surface
  /-- The ranges held on to. -/
  ranges : Ranges := {}
  /-- The ranges that are marks, by name. -/
  marks : Table Text RangeId := []
  /-- The edits made. -/
  history : History := {}
  /-- The outermost open group. -/
  group : Option Group := none
  /-- The focus. -/
  focus : Focus := {}
  /-- The settings. -/
  options : Options := {}
  /-- Whether the text is stored. -/
  status : SaveStatus := .clean
  /-- Who is told of edits. -/
  observers : List Nat := []
  /-- The number of the next observer. -/
  nextObserver : Nat := 0
  /-- How many are told of assignments to options. -/
  optionObservers : Nat := 0
  /-- What observers are to be told and have not been told yet. -/
  notices : List Notice := []

namespace Document

/-- A document on a surface. -/
def ofSurface (s : Surface) (c : Config) : Document where
  surface :=
    { s with
      viewport := { s.viewport with height := c.viewportHeight, lineHeight := c.lineHeight } }
  history := .ofCapacity c.historyDepth
  focus := { window := c.focusSuppress }
  options := c.options.seed {}

/-- The text. -/
def text (d : Document) : Text := d.surface.text

/-- The number of characters. -/
def length (d : Document) : Nat := d.surface.length

/-- The text between two offsets, which are cut to the text. -/
def slice (d : Document) (start stop : Nat) : Text :=
  let b := Bounds.clamp ⟨start, stop⟩ d.length
  d.surface.slice b.start b.stop

/-! ## Edits -/

/-- Tells all observers of an edit. -/
def tell (d : Document) (phase : Phase) (kind : EditKind) (e : Edit) : Document :=
  { d with notices := d.notices ++ d.observers.map fun o ↦ .edited o phase kind e }

/-- Does what follows an edit of the text. Inside a group the history waits for its end. -/
def settle (d : Document) (kind : EditKind) (e : Edit) : Document :=
  let history := if d.group.isSome then d.history else d.history.record kind e
  { d with ranges := d.ranges.rebase e, history := history, status := .dirty }.tell .after kind e

/-- Replaces the text between two offsets, which are cut to the text. Answers the least edit with
that effect, if there is one. -/
def replace (d : Document) (start stop : Nat) (piece : Text) (kind : EditKind) :
    Option Edit × Document :=
  let b := Bounds.clamp ⟨start, stop⟩ d.length
  match (Edit.between (d.text.slice b.start b.stop) piece).map (·.shift b.start) with
  | none => (none, d)
  | some e =>
    let d := d.tell .before kind e
    (some e, { d with surface := d.surface.replace e.start e.oldEnd e.inserted }.settle kind e)

/-- Takes over a surface that the host has edited. Where the edit cannot be told from the texts
alone, the caret decides. -/
def absorb (d : Document) (s : Surface) (kind : EditKind) (caret : Option Nat) :
    Option Edit × Document :=
  let e? := match caret with
    | some caret => Edit.betweenAt d.text s.text caret
    | none => Edit.between d.text s.text
  let d := { d with surface := s }
  (e?, e?.elim d (d.settle kind))

/-- Lets the host edit the surface and takes over what it did. -/
def editNative (d : Document) (kind : EditKind) (edit : Surface → Surface) :
    Option Edit × Document :=
  let s := edit d.surface
  d.absorb s kind (s.selection.map (·.stop))

/-- Adds an observer of edits. -/
def observe (d : Document) : Nat × Document :=
  (d.nextObserver,
    { d with observers := d.observers ++ [d.nextObserver], nextObserver := d.nextObserver + 1 })

/-- Removes an observer of edits. -/
def unobserve (d : Document) (observer : Nat) : Document :=
  { d with observers := d.observers.filter (· ≠ observer) }

/-! ## Selection and focus -/

/-- The selection: that of the surface if it has the focus, else the one to restore. -/
def selection (d : Document) : Bounds :=
  let current :=
    if d.focus.isFocused then d.surface.selection else d.focus.pending.or d.surface.selection
  (current.getD {}).clamp d.length

/-- Selects bounds: in the surface if it has the focus, else for when it gains it. -/
def select (d : Document) (b : Bounds) : Document :=
  let b := b.clamp d.length
  if d.focus.isFocused then { d with surface := d.surface.select b }
  else { d with focus := { d.focus with pending := some b } }

/-- A pointer is pressed. -/
def press (d : Document) (now : Nat) : Document :=
  { d with focus := { d.focus with pressed := some now } }

/-- The surface gains the focus. The selection to restore is restored, unless a press that set the
native selection has brought the focus; it is forgotten in either case. -/
def gainFocus (d : Document) (now : Nat) : Document :=
  let focus := { d.focus with isFocused := true, pending := none }
  match d.focus.pending with
  | some b =>
    if d.focus.isRecent now then { d with focus := focus }
    else { d with focus := focus, surface := d.surface.select b }
  | none => { d with focus := focus }

/-- The surface loses the focus; its selection is kept for the next time. -/
def loseFocus (d : Document) : Document :=
  { d with focus := { d.focus with isFocused := false, pending := d.surface.selection } }

/-! ## History -/

/-- Makes an edit from the history again and puts the caret behind it. Answers the bounds of the
text put in. -/
def replay (d : Document) (kind : EditKind) (e : Edit) : Bounds × Document :=
  (⟨e.start, e.newEnd⟩,
    ((d.replace e.start e.oldEnd e.inserted kind).2).select (.collapsed e.newEnd))

/-- Takes back the last edit, if there is one. -/
def undo? (d : Document) : Option (Bounds × Document) :=
  d.history.back?.map fun (r, history) ↦ { d with history := history }.replay .undo r.edit.inverse

/-- Makes the edit taken back last again, if there is one. -/
def redo? (d : Document) : Option (Bounds × Document) :=
  d.history.forward?.map fun (r, history) ↦ { d with history := history }.replay .redo r.edit

/-- Forgets all edits, those of an open group included. -/
def clearHistory (d : Document) : Document :=
  { d with
    history := d.history.clear
    group := d.group.map fun g ↦ { g with before := d.text } }

/-- Opens a group of edits. -/
def openGroup (d : Document) : Document :=
  match d.group with
  | some g => { d with group := some { g with inner := g.inner + 1 } }
  | none => { d with group := some { before := d.text } }

/-- Closes the group opened last. What was changed in an outermost group is recorded as one edit. -/
def closeGroup (d : Document) : Document :=
  match d.group with
  | none => d
  | some ⟨inner + 1, before⟩ => { d with group := some ⟨inner, before⟩ }
  | some ⟨0, before⟩ =>
    { d with
      group := none
      history := d.history.recordOption .command (Edit.between before d.text) }

/-! ## Marks -/

/-- Names tracked bounds, in place of those that had the name before. -/
def setMark (d : Document) (name : Text) (b : Bounds) : Document :=
  let (id, ranges) := d.ranges.hold { bounds := b }
  let ranges := ranges.track id
  let ranges := match d.marks.get? name with
    | some old => (ranges.untrack old).drop old
    | none => ranges
  { d with ranges := ranges, marks := d.marks.insert name id }

/-- The bounds of a mark, cut to the text. -/
def mark? (d : Document) (name : Text) : Option Bounds :=
  (d.marks.get? name).map fun id ↦ (d.ranges.get id).bounds.clamp d.length

/-- All marks with their bounds, in the order of their names. -/
def listMarks (d : Document) : List (Text × Bounds) :=
  d.marks.map fun (name, id) ↦ (name, (d.ranges.get id).bounds.clamp d.length)

/-- Takes a name from its mark. -/
def removeMark (d : Document) (name : Text) : Document :=
  match d.marks.get? name with
  | some id => { d with ranges := (d.ranges.untrack id).drop id, marks := d.marks.erase name }
  | none => d

/-! ## Options -/

/-- The document with an answer to a request about options acted upon; an assignment is told to
observers. -/
def settleOptions (d : Document) (o : Options) (a : Answer) : Document :=
  match a with
  | .shown _ => { d with options := o }
  | .assigned option value =>
    { d with
      options := o
      notices := d.notices ++ List.replicate d.optionObservers (.assigned option value) }

/-- Makes a request about options; answers the text it shows, if any. -/
def request (d : Document) (r : Options → Except OptionError (Options × Answer)) :
    Except OptionError (Option Text × Document) := do
  let (o, a) ← r d.options
  let shown := match a with
    | .shown t => some t
    | .assigned .. => none
  return (shown, d.settleOptions o a)

/-- Makes a file the one the document belongs to. -/
def setFile (d : Document) (file : Text) : Document :=
  d.settleOptions { d.options with file := file } (.assigned .file (.text file))

/-! ## The surface -/

/-- Scrolls so that the line of an offset can be seen. -/
def scrollTo (d : Document) (offset : Nat) : Document :=
  let y := d.surface.verticalOffset (min offset d.length)
  { d with surface := { d.surface with viewport := d.surface.viewport.reveal y } }

/-- Surrounds bounds with an element; the text stays as it is. -/
def wrap (d : Document) (b : Bounds) (tag : Text) : Except Error Document :=
  match d.surface.wrap? (b.clamp d.length) tag with
  | some s => .ok { d with surface := s }
  | none => .error (.unsupported "wrap" d.surface.kindName)

end Document

end LineEditor
