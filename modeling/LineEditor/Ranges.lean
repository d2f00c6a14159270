import LineEditor.Rebase
import LineEditor.Table

/-!
# Ranges

A range is a pair of bounds that someone holds on to under a number, together with the outcome of
the last search made from it. A tracked range follows the edits of the text; any other range keeps
its bounds whatever happens to the text.

Tracked ranges are listed in the order in which tracking began. A range that is given up leaves its
place in the list until the next edit, which frees it.
-/

namespace LineEditor

/-- Bounds held on to. -/
structure Range where
  /-- The bounds as they were set or moved last; they need not fit the text. -/
  bounds : Bounds := {}
  /-- The outcome of the last search, if there was one. -/
  matched : Option Bool := none
  deriving DecidableEq, Inhabited

/-- The number a range is held under. -/
abbrev RangeId := Nat

/-- The ranges held on to, and those among them that follow edits. -/
structure Ranges where
  /-- The ranges by their numbers. -/
  held : Table RangeId Range := []
  /-- The places of tracked ranges. -/
  tracked : List RangeId := []
  /-- The number for the next range. -/
  fresh : RangeId := 0
  deriving Inhabited

namespace Ranges

/-- The range held under a number; empty bounds at the start of the text if there is none. -/
def get (r : Ranges) (id : RangeId) : Range := (r.held.get? id).getD {}

/-- A range is held under the number. -/
def isHeld (r : Ranges) (id : RangeId) : Bool := (r.held.get? id).isSome

/-- Holds on to a new range, under a number not used before. -/
def hold (r : Ranges) (range : Range) : RangeId × Ranges :=
  (r.fresh, { r with held := r.held.insert r.fresh range, fresh := r.fresh + 1 })

/-- Puts a range in place of the one held under a number. -/
def put (r : Ranges) (id : RangeId) (range : Range) : Ranges :=
  { r with held := r.held.insert id range }

/-- Gives up a range. -/
def drop (r : Ranges) (id : RangeId) : Ranges := { r with held := r.held.erase id }

/-- The range follows edits. -/
def isTracked (r : Ranges) (id : RangeId) : Bool := r.tracked.contains id

/-- Lets a range follow edits from now on. -/
def track (r : Ranges) (id : RangeId) : Ranges :=
  if r.isTracked id then r else { r with tracked := r.tracked ++ [id] }

/-- Lets a range stay where it is from now on. -/
def untrack (r : Ranges) (id : RangeId) : Ranges :=
  { r with tracked := r.tracked.filter (· ≠ id) }

/-- Moves all tracked ranges across an edit and frees the places of those given up. -/
def rebase (r : Ranges) (e : Edit) : Ranges :=
  { r with
    held := r.held.map fun (id, range) ↦
      (id, if r.isTracked id then { range with bounds := range.bounds.rebase e } else range)
    tracked := r.tracked.filter r.isHeld }

/-! ## Laws -/

/-- No range has two places. -/
theorem nodup_tracked_track {r : Ranges} (h : r.tracked.Nodup) (id : RangeId) :
    (r.track id).tracked.Nodup := by
  unfold track
  split
  · exact h
  · next hn =>
    simp only [isTracked, List.contains_eq_mem, decide_eq_true_eq] at hn
    exact List.nodup_append.2 ⟨h, by simp, fun a ha b hb ↦ by
      rintro rfl
      exact hn (List.mem_singleton.1 hb ▸ ha)⟩

theorem isTracked_track (r : Ranges) (id : RangeId) : (r.track id).isTracked id = true := by
  unfold track
  split
  · assumption
  · simp [isTracked]

theorem isTracked_untrack (r : Ranges) (id : RangeId) : (r.untrack id).isTracked id = false := by
  simp [untrack, isTracked]

/-- The range just held is the one read. -/
theorem get_hold (r : Ranges) (range : Range) :
    (r.hold range).2.get (r.hold range).1 = range := by
  simp [hold, get, Table.get?_insert]

theorem get_put (r : Ranges) (id : RangeId) (range : Range) : (r.put id range).get id = range := by
  simp [put, get, Table.get?_insert]

end Ranges

end LineEditor
