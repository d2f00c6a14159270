/-!
# Viewports

The scroll state of a surface, in pixels, with the height of the visible part and of one line.
-/

namespace LineEditor

/-- The visible part of a surface. -/
structure Viewport where
  /-- Vertical scroll position. -/
  scrollTop : Nat := 0
  /-- Height of the visible part. -/
  height : Nat := 480
  /-- Height of one line. -/
  lineHeight : Nat := 16
  deriving DecidableEq, Inhabited

/-- Scrolls as little as makes the line that starts at height `y` visible. -/
def Viewport.reveal (v : Viewport) (y : Nat) : Viewport :=
  if y < v.scrollTop then { v with scrollTop := y }
  else if v.scrollTop + v.height < y + v.lineHeight then
    { v with scrollTop := y + v.lineHeight - v.height }
  else v

end LineEditor
