import LineEditor.Bounds
import LineEditor.Pattern.Program

/-!
# Running programs

All ways through a program are followed at once, character by character. The ways alive at an
offset are kept in order of preference and each address is kept once, for the way that is preferred.
A match found on one way ends all ways less preferred than it, and no new way starts after it; the
match found last on the ways that remain is therefore the preferred one among those that start
leftmost.
-/

namespace LineEditor.Pattern

/-- A match: the stretch taken as a whole, and the stretches of the groups that took part. -/
structure Captures where
  /-- The whole match. -/
  whole : Bounds
  /-- The groups in order, `none` for one that took no part. -/
  groups : List (Option Bounds) := []
  deriving DecidableEq, Inhabited

/-- The stretch of a group; group 0 is the whole match. -/
def Captures.group? (c : Captures) : (index : Nat) → Option Bounds
  | 0 => some c.whole
  | index + 1 => (c.groups[index]?).join

namespace Program

/-- Offsets noted in slots. -/
abbrev Slots := List (Option Nat)

/-- The ways alive at one offset: the addresses met, and the ways that wait to take a character or
accept, most preferred first. -/
structure Ways where
  /-- The addresses met. -/
  seen : Array Bool
  /-- The waiting ways. -/
  waiting : Array (Nat × Slots) := #[]

/-- No way alive. -/
def noWays (p : Program) : Ways := ⟨Array.replicate p.steps.size false, #[]⟩

/-- Follows all ways from an address that take no character. Each round marks an address, so as
many rounds as there are steps are enough. -/
def follow (p : Program) (before after : Option Char) (offset : Nat) :
    (rounds address : Nat) → Slots → Ways → Ways
  | 0, _, _, ways => ways
  | rounds + 1, address, slots, ways =>
    if (ways.seen[address]?).getD true then ways
    else
      let ways := { ways with seen := ways.seen.setIfInBounds address true }
      match p.steps[address]? with
      | none => ways
      | some .accept | some (.take ..) =>
        { ways with waiting := ways.waiting.push (address, slots) }
      | some (.check l next) =>
        if l.holds before after then follow p before after offset rounds next slots ways else ways
      | some (.note slot next) =>
        follow p before after offset rounds next (slots.set slot (some offset)) ways
      | some (.choose first second) =>
        follow p before after offset rounds second slots
          (follow p before after offset rounds first slots ways)

/-- Moves all waiting ways over a character. Answers the ways behind it and the match that ended
the scan, if one was met. `after` follows the character and `offset` lies before it. -/
def advance (p : Program) (c : Char) (after : Option Char) (offset : Nat) :
    List (Nat × Slots) → Ways → Ways × Option Slots
  | [], ways => (ways, none)
  | (address, slots) :: rest, ways =>
    match p.steps[address]? with
    | some .accept => (ways, some slots)
    | some (.take s next) =>
      let ways := if s.contains c then
          follow p (some c) after (offset + 1) p.steps.size next slots ways
        else ways
      advance p c after offset rest ways
    | _ => advance p c after offset rest ways

/-- The first waiting way that accepts. -/
def accepted? (p : Program) (ways : Ways) : Option Slots :=
  (ways.waiting.toList.find? fun (address, _) ↦
    match p.steps[address]? with
    | some .accept => true
    | _ => false).map (·.2)

/-- Runs on from an offset, `best` being the match found so far. -/
def runFrom (p : Program) (before : Option Char) :
    Text → (offset : Nat) → Ways → (best : Option Slots) → Option Slots
  | rest, offset, ways, best =>
    let ways := if best.isSome then ways
      else follow p before rest.head? offset p.steps.size p.start
        (List.replicate p.slots none) ways
    match rest with
    | [] => (p.accepted? ways).or best
    | c :: rest =>
      let (next, found) := advance p c rest.head? offset ways.waiting.toList p.noWays
      let best := found.or best
      if best.isSome && next.waiting.isEmpty then best
      else runFrom p (some c) rest (offset + 1) next best

/-- The stretch between two slots. -/
def stretch (slots : Slots) (index : Nat) : Option Bounds := do
  let start ← (slots[2 * index]?).join
  let stop ← (slots[2 * index + 1]?).join
  return ⟨start, stop⟩

/-- The preferred match that starts leftmost at or after `start`. What stands before `start` is seen
by conditions. No match starts past the end of the text. -/
def search (p : Program) (t : Text) (start : Nat) : Option Captures := do
  if t.length < start then none
  let before := if start = 0 then none else t[start - 1]?
  let slots ← p.runFrom before (t.drop start) start p.noWays none
  let whole ← stretch slots 0
  return ⟨whole, (List.range (p.slots / 2 - 1)).map fun i ↦ stretch slots (i + 1)⟩

end Program

end LineEditor.Pattern
