import LineEditor.Search.Flags

/-!
# Finding

A search starts from current bounds and looks for a match other than those bounds: forward for the
first one at or after their end, backward for the last one that starts before them. Where nothing
is found it may wrap around and look through the whole text. A restricted search sees the text up
to the end of the current bounds only and looks for matches inside them.
-/

namespace LineEditor.Search

/-- The first match at or after `offset` that is not `current`. -/
def firstOther (m : Matcher) (hay : Text) (current : Bounds) (offset : Nat) : Option Bounds :=
  if _h : offset ≤ hay.length then
    match m.firstFrom hay offset with
    | none => none
    | some c =>
      if c.whole ≠ current then some c.whole
      else firstOther m hay current (max offset c.whole.start + 1)
  else none
termination_by hay.length + 1 - offset
decreasing_by omega

/-- The last match at or after `offset` that is not `current` and starts before `limit`; `best` is
the last one met so far. Every offset is tried once at most. -/
def lastOther (m : Matcher) (hay : Text) (current : Bounds) (limit : Option Nat) (offset : Nat)
    (best : Option Bounds) : Option Bounds :=
  if _h : offset ≤ hay.length then
    match m.firstFrom hay offset with
    | none => best
    | some c =>
      if limit.any (· ≤ c.whole.start) then best
      else
        let best := if c.whole ≠ current then some c.whole else best
        lastOther m hay current limit (max offset c.whole.start + 1) best
  else best
termination_by hay.length + 1 - offset
decreasing_by omega

/-- The next match forward, without wrapping. -/
def forward (m : Matcher) (t : Text) (current : Bounds) (f : SearchFlags) : Option Bounds :=
  let start := min (if f.restricted then current.start else current.stop) t.length
  let hay := if f.restricted then t.take current.stop else t
  if f.sticky then
    (m.firstFrom hay start).bind fun c ↦
      if c.whole.start = start ∧ c.whole ≠ current then some c.whole else none
  else firstOther m hay current start

/-- The next match backward, without wrapping. -/
def backward (m : Matcher) (t : Text) (current : Bounds) (f : SearchFlags) : Option Bounds :=
  if f.restricted then
    lastOther m (t.take current.stop) current none (min current.start t.length) none
  else lastOther m t current (some (min current.start t.length)) 0 none

/-- The next match from `current` in the direction of the flags. -/
def find (m : Matcher) (t : Text) (current : Bounds) (f : SearchFlags) : Option Bounds :=
  let found := if f.backward then backward m t current f else forward m t current f
  if found.isSome || !f.wrapScan || f.sticky || f.restricted then found
  else if f.backward then lastOther m t current none 0 none
  else firstOther m t current 0

end LineEditor.Search
