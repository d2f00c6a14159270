import LineEditor.Bounds
import LineEditor.Edit

/-!
# Moving bounds across an edit

Bounds that follow a text move when it is edited. An end before the edit stays, one after it
shifts with the text behind the edit. An end inside the replaced stretch snaps: the start forward
to the end of the new text, the stop back to the start of the edit, so that bounds whose inside is
replaced as a whole come out empty or inverted, never around text they did not hold.
-/

namespace LineEditor.Bounds

/-- Where the start of bounds goes. -/
def rebaseStart (e : Edit) (offset : Nat) : Nat :=
  if offset ≤ e.start then offset
  else if e.oldEnd < offset then offset - e.oldEnd + e.newEnd
  else e.newEnd

/-- Where the stop of bounds goes. -/
def rebaseStop (e : Edit) (offset : Nat) : Nat :=
  if offset < e.start then offset
  else if e.oldEnd ≤ offset then offset - e.oldEnd + e.newEnd
  else e.start

/-- The bounds after an edit. -/
def rebase (e : Edit) (b : Bounds) : Bounds := ⟨rebaseStart e b.start, rebaseStop e b.stop⟩

/-- The bounds after an edit that may be absent. -/
def rebaseOption (e? : Option Edit) (b : Bounds) : Bounds := e?.elim b (b.rebase ·)

theorem rebaseStart_le {e : Edit} {offset length : Nat} (h : offset ≤ length)
    (he : e.oldEnd ≤ length) :
    rebaseStart e offset ≤ length - e.removed.length + e.inserted.length := by
  unfold rebaseStart Edit.newEnd
  unfold Edit.oldEnd at *
  split <;> (try split) <;> omega

end LineEditor.Bounds
