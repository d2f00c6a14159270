import LineEditor.Text.Numeral

/-!
# Bounds

A pair of offsets `[start, stop)` into a text. Bounds are plain data: they may lie past the end of
a text or be inverted, and `clamp` repairs both when they are read.
-/

namespace LineEditor

/-- The half-open interval of offsets from `start` to `stop`. -/
structure Bounds where
  /-- Offset of the first character inside. -/
  start : Nat := 0
  /-- Offset just past the last character inside. -/
  stop : Nat := 0
  deriving DecidableEq, Inhabited

namespace Bounds

/-- The empty bounds at an offset. -/
def collapsed (offset : Nat) : Bounds := ⟨offset, offset⟩

/-- The number of characters inside. -/
def length (b : Bounds) : Nat := b.stop - b.start

/-- Nothing lies inside. -/
def isEmpty (b : Bounds) : Bool := b.stop ≤ b.start

/-- The bounds cut to a text of length `len`, with `stop` raised to `start` if it lies before. -/
def clamp (b : Bounds) (len : Nat) : Bounds :=
  let start := min b.start len
  ⟨start, max (min b.stop len) start⟩

/-- The least bounds around both. -/
def union (a b : Bounds) : Bounds := ⟨min a.start b.start, max a.stop b.stop⟩

/-- The common part, empty at the later start when there is none. -/
def intersection (a b : Bounds) : Bounds :=
  let start := max a.start b.start
  ⟨start, max (min a.stop b.stop) start⟩

/-- The character at `offset` lies inside. -/
def contains (b : Bounds) (offset : Nat) : Bool := b.start ≤ offset && offset < b.stop

/-- The bounds in writing, `[start, stop]`. -/
def render (b : Bounds) : Text :=
  '[' :: Text.ofNat b.start ++ ", ".toList ++ Text.ofNat b.stop ++ [']']

/-! ## Laws -/

theorem clamp_start_le (b : Bounds) (len : Nat) : (b.clamp len).start ≤ (b.clamp len).stop :=
  Nat.le_max_right _ _

theorem clamp_stop_le (b : Bounds) (len : Nat) : (b.clamp len).stop ≤ len := by
  simp only [clamp]; omega

/-- Bounds that fit the text are left alone. -/
theorem clamp_of_le {b : Bounds} {len : Nat} (h : b.start ≤ b.stop) (h' : b.stop ≤ len) :
    b.clamp len = b := by
  cases b
  simp only [clamp, mk.injEq] at *
  omega

theorem clamp_clamp (b : Bounds) (len : Nat) : (b.clamp len).clamp len = b.clamp len :=
  clamp_of_le (b.clamp_start_le len) (b.clamp_stop_le len)

@[simp] theorem collapsed_isEmpty (offset : Nat) : (collapsed offset).isEmpty = true := by
  simp [collapsed, isEmpty]

end Bounds

end LineEditor
