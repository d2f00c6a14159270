import LineEditor.Text.Basic

/-!
# Edits

An edit replaces one stretch of a text by another: at offset `start` the characters `removed` give
way to `inserted`. An edit knows what it removes, so it can be taken back: `inverse` swaps the two.
Where nothing changes there is no edit, hence operations that may leave a text alone answer an
`Option Edit`.
-/

namespace LineEditor

/-- The replacement of `removed` by `inserted` at offset `start`. -/
structure Edit where
  /-- Offset at which the text changes. -/
  start : Nat
  /-- The characters taken out. -/
  removed : Text
  /-- The characters put in their place. -/
  inserted : Text
  deriving DecidableEq, Inhabited

namespace Edit

/-- Offset just past the removed characters, in the text before the edit. -/
def oldEnd (e : Edit) : Nat := e.start + e.removed.length

/-- Offset just past the inserted characters, in the text after the edit. -/
def newEnd (e : Edit) : Nat := e.start + e.inserted.length

/-- Something is inserted and nothing removed. -/
def isInsertion (e : Edit) : Bool := e.removed.isEmpty && !e.inserted.isEmpty

/-- The text after the edit. -/
def apply (e : Edit) (t : Text) : Text := t.splice e.start e.oldEnd e.inserted

/-- The edit that takes this one back. -/
def inverse (e : Edit) : Edit := ⟨e.start, e.inserted, e.removed⟩

/-- The edit `offset` characters further on. -/
def shift (e : Edit) (offset : Nat) : Edit := { e with start := e.start + offset }

/-- The text after an edit that may be absent. -/
def applyOption (e? : Option Edit) (t : Text) : Text := e?.elim t (·.apply t)

@[simp] theorem inverse_inverse (e : Edit) : e.inverse.inverse = e := rfl

@[simp] theorem inverse_oldEnd (e : Edit) : e.inverse.oldEnd = e.newEnd := rfl

@[simp] theorem inverse_newEnd (e : Edit) : e.inverse.newEnd = e.oldEnd := rfl

/-- An edit applies at its place: what it removes turns into what it inserts. -/
theorem apply_append (e : Edit) {before after : Text} (h : before.length = e.start) :
    e.apply (before ++ e.removed ++ after) = before ++ e.inserted ++ after := by
  simp [apply, Text.splice, oldEnd, ← h, List.drop_append]

/-- Applying an edit where its removed text stands, then its inverse, changes nothing. -/
theorem inverse_apply_apply (e : Edit) {before after : Text} (h : before.length = e.start) :
    e.inverse.apply (e.apply (before ++ e.removed ++ after)) = before ++ e.removed ++ after := by
  rw [e.apply_append h]
  exact e.inverse.apply_append h

end Edit

end LineEditor
