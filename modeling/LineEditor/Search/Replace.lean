import LineEditor.Pattern
import LineEditor.Search.Template

/-!
# Replacing

Matches inside a region are replaced by an expanded template. What stands before the region is seen
by the pattern, what stands behind it is not: the end of the region counts as the end of the text.
Matches do not overlap, and an empty match right behind another match is no match of its own.
-/

namespace LineEditor.Search

/-- The matches in `hay` from `offset` on, up to the first one unless `all`. `lastStop` is where the
match before ended. -/
def matchesFrom (m : Matcher) (hay : Text) (all : Bool) (offset : Nat) (lastStop : Option Nat) :
    List Pattern.Captures :=
  if _h : offset ≤ hay.length then
    match m.firstFrom hay offset with
    | none => []
    | some c =>
      let ⟨start, stop⟩ := c.whole
      let next := max (offset + 1) (if start < stop then stop else stop + 1)
      if start = stop ∧ lastStop = some start then matchesFrom m hay all next lastStop
      else c :: if all then matchesFrom m hay all next (some stop) else []
  else []
termination_by hay.length + 1 - offset
decreasing_by all_goals omega

/-- The text of a region, from `offset` on, with matches replaced. -/
def replaceMatches (template hay : Text) (magic : Bool) (stop : Nat) :
    (offset : Nat) → List Pattern.Captures → Text
  | offset, [] => hay.slice offset stop
  | offset, c :: rest =>
    hay.slice offset c.whole.start ++ Template.expand template hay c magic
      ++ replaceMatches template hay magic stop c.whole.stop rest

/-- The new text of a region and the number of replacements, `none` if nothing matches. All matches
are replaced, or the first one, or the last one if the search goes backward. -/
def replace (m : Matcher) (t : Text) (region : Bounds) (template : Text)
    (all backward magic : Bool) : Option (Text × Nat) :=
  let hay := t.take region.stop
  let start := min region.start t.length
  let found := matchesFrom m hay (all || backward) start none
  let found := if backward && !all then found.drop (found.length - 1) else found
  if found.isEmpty then none
  else some (replaceMatches template hay magic region.stop start found, found.length)

end LineEditor.Search
