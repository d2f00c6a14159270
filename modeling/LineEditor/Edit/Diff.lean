import LineEditor.Edit

/-!
# The edit between two texts

`Edit.between` finds the least edit that leads from one text to another, by leaving out the common
start and then the common end. Where a character repeats, several least edits lead to the same
text: typing `a` into `aaa` could have happened at four places. `Edit.betweenAt` settles these
cases by the caret, which stands after typed text and where deleted text was.
-/

namespace LineEditor.Edit

/-- The length of the longest common start of two texts. -/
def commonStart : Text → Text → Nat
  | a :: s, b :: t => if a = b then commonStart s t + 1 else 0
  | _, _ => 0

/-- The least edit from `old` to `new`, `none` when they are equal. -/
def between (old new : Text) : Option Edit :=
  if old = new then none
  else
    let start := commonStart old new
    let oldRest := old.drop start
    let newRest := new.drop start
    let tail := commonStart oldRest.reverse newRest.reverse
    some ⟨start, oldRest.take (oldRest.length - tail), newRest.take (newRest.length - tail)⟩

/-- The insertion that ends at `caret`, provided it leads from `old` to `new`. -/
def insertionEndingAt (old new : Text) (length caret : Nat) : Option Edit :=
  let start := caret - length
  if length ≤ caret ∧ start ≤ old.length ∧ start + length ≤ new.length ∧
      old.take start = new.take start ∧ old.drop start = new.drop (start + length) then
    some ⟨start, [], (new.drop start).take length⟩
  else none

/-- The deletion at `caret`, provided it leads from `old` to `new`. -/
def deletionAt (old new : Text) (length caret : Nat) : Option Edit :=
  if caret + length ≤ old.length ∧ caret ≤ new.length ∧
      old.take caret = new.take caret ∧ old.drop (caret + length) = new.drop caret then
    some ⟨caret, (old.drop caret).take length, []⟩
  else none

/-- The least edit from `old` to `new`; of several equally short insertions or deletions, the one
the caret points to. -/
def betweenAt (old new : Text) (caret : Nat) : Option Edit :=
  (between old new).map fun e ↦
    if e.removed = [] then (insertionEndingAt old new e.inserted.length caret).getD e
    else if e.inserted = [] then (deletionAt old new e.removed.length caret).getD e
    else e

theorem between_eq_none_iff {old new : Text} : between old new = none ↔ old = new := by
  unfold between
  split <;> simp_all

end LineEditor.Edit
