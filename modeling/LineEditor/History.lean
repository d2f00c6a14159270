import LineEditor.Edit

/-!
# Edit history

The history keeps the edits made to a text as two lists: those done, newest first, and those
undone, next first. Stepping back moves a record from the first list to the second and stepping
forward moves it back, so the position in the history is simply the number of records done.

Recording drops what was undone and, once the history is full, its oldest record. Typing is joined
into one record as long as each character continues where the last one ended; a step through the
history seals the last record, so that typing after an undo starts a new one.
-/

namespace LineEditor

/-- What gave rise to an edit. -/
inductive EditKind where
  | typing
  | paste
  | deleteBackward
  | deleteForward
  | replacement
  | command
  | undo
  | redo
  deriving DecidableEq, Inhabited

namespace EditKind

/-- The name under which observers know the kind. -/
def name : EditKind → String
  | typing => "insertText"
  | paste => "insertFromPaste"
  | deleteBackward => "deleteContentBackward"
  | deleteForward => "deleteContentForward"
  | replacement => "insertReplacementText"
  | command => "command"
  | undo => "historyUndo"
  | redo => "historyRedo"

/-- Edits replayed from the history, which it does not record again. -/
def isReplay (kind : EditKind) : Bool := kind = undo || kind = redo

end EditKind

/-- An entry of the history. -/
structure Record where
  /-- What gave rise to the edit. -/
  kind : EditKind
  /-- The edit itself. -/
  edit : Edit
  deriving DecidableEq, Inhabited

/-- The edits done and undone, at most `capacity` of them. -/
structure History where
  /-- The greatest number of records kept. -/
  capacity : Nat := 100
  /-- Room for one record at least. -/
  capacity_pos : 0 < capacity := by decide
  /-- Edits done, newest first. -/
  done : List Record := []
  /-- Edits undone, the next to redo first. -/
  undone : List Record := []
  /-- The newest record takes no more typing. -/
  isSealed : Bool := false

namespace History

/-- An empty history that keeps `capacity` records, but at least one. -/
def ofCapacity (capacity : Nat) : History where
  capacity := max capacity 1
  capacity_pos := by omega

/-- The number of records done. -/
def position (h : History) : Nat := h.done.length

/-- The number of records kept. -/
def length (h : History) : Nat := h.done.length + h.undone.length

/-- The record done last. -/
def current? (h : History) : Option Record := h.done.head?

/-- There is something to undo. -/
def canUndo (h : History) : Bool := !h.done.isEmpty

/-- There is something to redo. -/
def canRedo (h : History) : Bool := !h.undone.isEmpty

/-- An edit of the given kind continues the typing of a record: both only insert, the edit inserts
one character, and it does so where the record ends. -/
def continuesTyping (last : Record) (kind : EditKind) (e : Edit) : Bool :=
  kind = .typing && last.kind = .typing && last.edit.removed.isEmpty && e.removed.isEmpty &&
    e.inserted.length = 1 && last.edit.newEnd = e.start

/-- The record with the typing of `e` joined to it. -/
def joinTyping (last : Record) (e : Edit) : Record :=
  { last with edit := { last.edit with inserted := last.edit.inserted ++ e.inserted } }

/-- Puts a new record on top, dropping what was undone and what no longer fits. -/
def add (h : History) (r : Record) : History :=
  { h with done := (r :: h.done).take h.capacity, undone := [], isSealed := false }

/-- Records an edit. Replayed edits are left out. -/
def record (h : History) (kind : EditKind) (e : Edit) : History :=
  if kind.isReplay then h
  else match h.done with
    | last :: older =>
      if !h.isSealed && continuesTyping last kind e then
        { h with done := joinTyping last e :: older, undone := [] }
      else h.add ⟨kind, e⟩
    | [] => h.add ⟨kind, e⟩

/-- Records an edit that may be absent. -/
def recordOption (h : History) (kind : EditKind) (e? : Option Edit) : History :=
  e?.elim h (h.record kind ·)

/-- One step back: the record to take back, with the history after the step. -/
def back? (h : History) : Option (Record × History) :=
  match h.done with
  | [] => none
  | r :: older => some (r, { h with done := older, undone := r :: h.undone, isSealed := true })

/-- One step forward: the record to do again, with the history after the step. -/
def forward? (h : History) : Option (Record × History) :=
  match h.undone with
  | [] => none
  | r :: later => some (r, { h with done := r :: h.done, undone := later, isSealed := true })

/-- Makes the next edit start a record of its own. -/
def close (h : History) : History := { h with isSealed := true }

/-- The history without its records. -/
def clear (h : History) : History := { h with done := [], undone := [], isSealed := false }

/-! ## Laws -/

/-- Stepping forward undoes a step back, and the records are the same. -/
theorem forward?_of_back? {h h' : History} {r : Record} (hb : h.back? = some (r, h')) :
    h'.forward? = some (r, { h with isSealed := true }) := by
  cases hd : h.done with
  | nil => simp [back?, hd] at hb
  | cons s older =>
    simp only [back?, hd, Option.some.injEq, Prod.mk.injEq] at hb
    obtain ⟨rfl, rfl⟩ := hb
    simp [forward?, ← hd]

/-- A step back keeps all records. -/
theorem length_of_back? {h h' : History} {r : Record} (hb : h.back? = some (r, h')) :
    h'.length = h.length := by
  cases hd : h.done with
  | nil => simp [back?, hd] at hb
  | cons s older =>
    simp only [back?, hd, Option.some.injEq, Prod.mk.injEq] at hb
    obtain ⟨rfl, rfl⟩ := hb
    simp only [length, hd, List.length_cons]
    omega

end History

end LineEditor
