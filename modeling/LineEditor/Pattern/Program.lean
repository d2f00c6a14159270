import LineEditor.Pattern.Expr

/-!
# Programs

A pattern expression is run as a small program of steps. Each step either takes a character, checks
a condition, notes the present offset in a slot, or offers two ways on, the first preferred. The
program is written from its end backwards: every part is given the address where matching goes on
after it and answers the address where it starts.

A loop over a part that can take nothing needs care. Written as one choice that either enters the
part or leaves, it would let an empty round win over later, longer ones; such a loop is written as
an optional part that repeats at its end instead.
-/

namespace LineEditor.Pattern

/-- A step of a program, with the addresses where it goes on. -/
inductive Step where
  /-- The pattern is matched. -/
  | accept
  /-- Takes a character of the set. -/
  | take (s : CharSet) (next : Nat)
  /-- Checks a condition. -/
  | check (l : Look) (next : Nat)
  /-- Notes the offset. -/
  | note (slot next : Nat)
  /-- Goes on at the first address, and at the second if that fails. -/
  | choose (first second : Nat)
  deriving Inhabited

/-- The steps of a program by address, and the address where it starts. -/
structure Program where
  /-- The steps. -/
  steps : Array Step
  /-- The first step. -/
  start : Nat
  /-- The number of slots for offsets: two for the whole match and for each group. -/
  slots : Nat

namespace Program

/-- Writing a program: the steps so far are the state. -/
abbrev Writer := StateM (Array Step)

/-- Adds a step and answers its address. -/
def add (step : Step) : Writer Nat := do
  let steps ← get
  set (steps.push step)
  return steps.size

/-- Puts a step in the place of an earlier one. -/
def put (address : Nat) (step : Step) : Writer Unit :=
  modify fun steps ↦ steps.setIfInBounds address step

/-- The choice between entering a part and going on behind it. -/
def choice (greedy : Bool) (part next : Nat) : Step :=
  if greedy then .choose part next else .choose next part

/-- A row of `count` copies of a part. -/
def copies (part : Nat → Writer Nat) : (count next : Nat) → Writer Nat
  | 0, next => pure next
  | count + 1, next => do part (← copies part count next)

/-- Up to `count` copies of a part, each inside the one before it. -/
def options (part : Nat → Writer Nat) (greedy : Bool) : (count next : Nat) → Writer Nat
  | 0, next => pure next
  | count + 1, next => do
    let entry ← part (← options part greedy count next)
    add (choice greedy entry next)

/-- A part repeated at least once; answers the start of the part. -/
def loop (part : Nat → Writer Nat) (greedy : Bool) (next : Nat) : Writer Nat := do
  let back ← add .accept
  let entry ← part back
  put back (choice greedy entry next)
  return entry

/-- Writes the steps of an expression that goes on at `next`; answers where it starts. -/
def write : Expr → Nat → Writer Nat
  | .empty, next => pure next
  | .set s, next => add (.take s next)
  | .look l, next => add (.check l next)
  | .group index e, next => do
    let entry ← write e (← add (.note (2 * index + 1) next))
    add (.note (2 * index) entry)
  | .seq e f, next => do write e (← write f next)
  | .alt e f, next => do
    let first ← write e next
    let second ← write f next
    add (.choose first second)
  | .rep e least (some most) greedy, next => do
    copies (write e) least (← options (write e) greedy (most - least) next)
  | .rep e 0 none greedy, next => do
    if e.nullable then
      let entry ← loop (write e) greedy next
      add (choice greedy entry next)
    else
      let back ← add .accept
      let entry ← write e back
      put back (choice greedy entry next)
      return back
  | .rep e (least + 1) none greedy, next => do
    copies (write e) least (← loop (write e) greedy next)

/-- The program of an expression with the given number of groups. -/
def ofExpr (e : Expr) (groups : Nat) : Program :=
  let (start, steps) := Id.run ((do write (.group 0 e) (← add .accept)) : Writer Nat).run #[]
  ⟨steps, start, 2 * (groups + 1)⟩

end Program

end LineEditor.Pattern
