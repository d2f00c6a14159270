import LineEditor.Pattern.Machine

/-!
# Programs run at another place

A program that is run from some offset of a text on sees the text from there on and the character in
front of it, which conditions may ask for. Everything else it has to do with the place is to note
offsets. So behind another text it takes the same ways, and notes offsets that are moved; and where
none of its conditions tells two characters in front apart, it takes the same ways behind either.

Both are said at once, by the same lemma for each part of a run: the offsets are moved, and the
character in front is one that the program does not tell from the other. Once a character has been
taken, it is the character in front in both runs.
-/

namespace LineEditor

/-- The bounds, moved towards the end. -/
def Bounds.moved (b : Bounds) (k : Nat) : Bounds := ⟨b.start + k, b.stop + k⟩

namespace Pattern

/-- The match, moved towards the end. -/
def Captures.moved (c : Captures) (k : Nat) : Captures :=
  ⟨c.whole.moved k, c.groups.map (·.map (·.moved k))⟩

namespace Program

/-- The slots with all offsets moved. -/
def Slots.moved (slots : Slots) (k : Nat) : Slots := slots.map (·.map (· + k))

/-- Waiting ways with all offsets moved. -/
def waitingMoved (waiting : List (Nat × Slots)) (k : Nat) : List (Nat × Slots) :=
  waiting.map fun way ↦ (way.1, Slots.moved way.2 k)

/-- The ways with all offsets moved. -/
def Ways.moved (ways : Ways) (k : Nat) : Ways :=
  ⟨ways.seen, (waitingMoved ways.waiting.toList k).toArray⟩

variable {p : Program} {before before' after : Option Char} {offset k : Nat} {slots : Slots}
  {ways : Ways}

/-- No condition of the program tells the two characters in front apart. -/
def Alike (p : Program) (before before' : Option Char) : Prop :=
  ∀ (address : Nat) (l : Look) (next : Nat) (after : Option Char),
    p.steps[address]? = some (.check l next) → l.holds before after = l.holds before' after

theorem Alike.refl (p : Program) (before : Option Char) : p.Alike before before :=
  fun _ _ _ _ _ ↦ rfl

/-! ## Slots and ways -/

theorem set_moved (slots : Slots) (slot offset k : Nat) :
    (Slots.moved slots k).set slot (some (offset + k))
      = Slots.moved (slots.set slot (some offset)) k := by
  rw [Slots.moved, Slots.moved, List.map_set, Option.map_some]

theorem moved_replicate_none (n k : Nat) :
    Slots.moved (List.replicate n none) k = List.replicate n none := by
  rw [Slots.moved, List.map_replicate, Option.map_none]

theorem noWays_moved (p : Program) (k : Nat) : p.noWays.moved k = p.noWays := rfl

theorem isEmpty_waiting_moved (ways : Ways) (k : Nat) :
    (ways.moved k).waiting.isEmpty = ways.waiting.isEmpty := by
  simp only [Ways.moved, waitingMoved, List.isEmpty_toArray, List.isEmpty_map,
    Array.isEmpty_toList]

theorem push_moved (ways : Ways) (address : Nat) (slots : Slots) (k : Nat) :
    { ways.moved k with waiting := (ways.moved k).waiting.push (address, Slots.moved slots k) }
      = Ways.moved { ways with waiting := ways.waiting.push (address, slots) } k := by
  simp only [Ways.moved, waitingMoved, List.push_toArray, Array.toList_push, List.map_append,
    List.map_cons, List.map_nil]

theorem stretch_moved (slots : Slots) (index k : Nat) :
    stretch (Slots.moved slots k) index = (stretch slots index).map (·.moved k) := by
  have hslot (i : Nat) : ((Slots.moved slots k)[i]?).join = (slots[i]?).join.map (· + k) := by
    rw [Slots.moved, List.getElem?_map]
    cases slots[i]? <;> rfl
  simp only [stretch, hslot]
  cases (slots[2 * index]?).join <;> cases (slots[2 * index + 1]?).join <;> rfl

/-! ## Runs -/

/-- The ways that take no character. -/
theorem follow_moved (h : p.Alike before before') (after : Option Char)
    (offset k rounds address : Nat) (slots : Slots) (ways : Ways) :
    p.follow before after (offset + k) rounds address (Slots.moved slots k) (ways.moved k)
      = (p.follow before' after offset rounds address slots ways).moved k := by
  induction rounds generalizing address slots ways with
  | zero => rfl
  | succ rounds ih =>
    have hseen : (ways.moved k).seen = ways.seen := rfl
    simp only [follow, hseen]
    split
    · rfl
    · generalize hmarked : Ways.mk (ways.seen.setIfInBounds address true) ways.waiting = marked
      have hmoved : Ways.mk (ways.seen.setIfInBounds address true) (ways.moved k).waiting
          = marked.moved k := hmarked ▸ rfl
      cases hstep : p.steps[address]? with
      | none => exact hmoved
      | some step =>
        cases step with
        | accept | take =>
          rw [← hmarked]
          exact push_moved ⟨ways.seen.setIfInBounds address true, ways.waiting⟩ address slots k
        | check l next =>
          simp only [h address l next after hstep, hmoved]
          split
          · exact ih next slots marked
          · rfl
        | note slot next =>
          simp only [set_moved, hmoved]
          exact ih next _ marked
        | choose first second =>
          simp only [hmoved, ih]

/-- A character is taken. -/
theorem advance_moved (p : Program) (c : Char) (after : Option Char) (offset k : Nat)
    (waiting : List (Nat × Slots)) (ways : Ways) :
    p.advance c after (offset + k) (waitingMoved waiting k) (ways.moved k)
      = ((p.advance c after offset waiting ways).1.moved k,
        (p.advance c after offset waiting ways).2.map (Slots.moved · k)) := by
  induction waiting generalizing ways with
  | nil => rfl
  | cons way waiting ih =>
    obtain ⟨address, slots⟩ := way
    rw [waitingMoved, List.map_cons]
    change p.advance c after (offset + k) (_ :: waitingMoved waiting k) _ = _
    rw [advance, advance]
    cases hstep : p.steps[address]? with
    | none => exact ih ways
    | some step =>
      cases step with
      | accept => rfl
      | take s next =>
        have hfollow := follow_moved (.refl p (some c)) after (offset + 1) k p.steps.size next slots
          ways
        rw [Nat.add_right_comm] at hfollow
        simp only [hfollow]
        split
        · exact ih _
        · exact ih ways
      | check | note | choose => exact ih ways

/-- The way that accepts. -/
theorem accepted?_moved (p : Program) (ways : Ways) (k : Nat) :
    p.accepted? (ways.moved k) = (p.accepted? ways).map (Slots.moved · k) := by
  simp only [accepted?, Ways.moved, waitingMoved, List.find?_map, Option.map_map]
  rfl

/-- The ways alive at an offset, with the one that starts there if no match has been found. -/
def alive (p : Program) (before after : Option Char) (offset : Nat) (ways : Ways)
    (best : Option Slots) : Ways :=
  if best.isSome then ways
  else p.follow before after offset p.steps.size p.start (List.replicate p.slots none) ways

theorem alive_moved (h : p.Alike before before') (ways : Ways) (best : Option Slots) :
    p.alive before after (offset + k) (ways.moved k) (best.map (Slots.moved · k))
      = (p.alive before' after offset ways best).moved k := by
  have hfollow := follow_moved h after offset k p.steps.size p.start (List.replicate p.slots none)
    ways
  rw [moved_replicate_none] at hfollow
  rw [alive, alive, Option.isSome_map, hfollow]
  split <;> rfl

theorem runFrom_nil (p : Program) (before : Option Char) (offset : Nat) (ways : Ways)
    (best : Option Slots) :
    p.runFrom before [] offset ways best
      = (p.accepted? (p.alive before none offset ways best)).or best := by
  rw [runFrom]
  rfl

theorem runFrom_cons (p : Program) (before : Option Char) (c : Char) (rest : Text) (offset : Nat)
    (ways : Ways) (best : Option Slots) :
    let taken := p.advance c rest.head? offset
      (p.alive before (some c) offset ways best).waiting.toList p.noWays
    let found := taken.2.or best
    p.runFrom before (c :: rest) offset ways best
      = if found.isSome && taken.1.waiting.isEmpty then found
        else p.runFrom (some c) rest (offset + 1) taken.1 found := by
  rw [runFrom]
  rfl

/-- A run as a whole. -/
theorem runFrom_moved (h : p.Alike before before') (rest : Text) (offset k : Nat) (ways : Ways)
    (best : Option Slots) :
    p.runFrom before rest (offset + k) (ways.moved k) (best.map (Slots.moved · k))
      = (p.runFrom before' rest offset ways best).map (Slots.moved · k) := by
  induction rest generalizing before before' offset ways best with
  | nil => rw [runFrom_nil, runFrom_nil, alive_moved h, accepted?_moved, Option.map_or]
  | cons c rest ih =>
    have hadvance := p.advance_moved c rest.head? offset k
      (p.alive before' (some c) offset ways best).waiting.toList p.noWays
    have hwaiting (ways : Ways) : (ways.moved k).waiting.toList
        = waitingMoved ways.waiting.toList k := rfl
    rw [runFrom_cons, runFrom_cons, alive_moved h, hwaiting, ← noWays_moved p k, hadvance,
      noWays_moved]
    generalize p.advance c rest.head? offset
      (p.alive before' (some c) offset ways best).waiting.toList p.noWays = taken
    obtain ⟨next, found⟩ := taken
    have hrest := ih (.refl p (some c)) (offset + 1) next (found.or best)
    rw [Nat.add_right_comm] at hrest
    simp only [← Option.map_or, Option.isSome_map, isEmpty_waiting_moved]
    split
    · rfl
    · exact hrest

/-! ## Searches -/

/-- The match that is found from an offset on, with what stands in front and behind. -/
def searchFrom (p : Program) (before : Option Char) (rest : Text) (offset : Nat) :
    Option Captures := do
  let slots ← p.runFrom before rest offset p.noWays none
  let whole ← stretch slots 0
  return ⟨whole, (List.range (p.slots / 2 - 1)).map fun i ↦ stretch slots (i + 1)⟩

theorem searchFrom_moved (h : p.Alike before before') (rest : Text) (offset k : Nat) :
    p.searchFrom before rest (offset + k)
      = (p.searchFrom before' rest offset).map (·.moved k) := by
  have hrun := p.runFrom_moved h rest offset k p.noWays none
  rw [noWays_moved, Option.map_none] at hrun
  rw [searchFrom, searchFrom, hrun]
  cases p.runFrom before' rest offset p.noWays none with
  | none => rfl
  | some slots =>
    simp only [Option.map_some, Option.bind_eq_bind, Option.bind_some, stretch_moved]
    cases stretch slots 0 with
    | none => rfl
    | some whole => simp [Captures.moved, Function.comp_def]

variable {t : Text} {start : Nat}

theorem search_eq_searchFrom (p : Program) (h : start ≤ t.length) :
    p.search t start = p.searchFrom (t.take start).getLast? (t.drop start) start := by
  have hbefore : (if start = 0 then none else t[start - 1]?) = (t.take start).getLast? := by
    cases start with
    | zero => rfl
    | succ start =>
      rw [if_neg (Nat.succ_ne_zero start), List.take_add_one, Nat.add_sub_cancel,
        List.getElem?_eq_getElem h, Option.toList_some, List.getLast?_concat]
  rw [search, if_neg (Nat.not_lt_of_le h), hbefore]
  rfl

/-- **Searching behind another text.** What is found from an offset on is what is found there
without the text in front, if no condition tells the characters right before the offset apart. -/
theorem search_append (u t : Text) (hstart : start ≤ t.length)
    (h : p.Alike (u ++ t.take start).getLast? (t.take start).getLast?) :
    p.search (u ++ t) (u.length + start) = (p.search t start).map (·.moved u.length) := by
  have hlength : u.length + start ≤ (u ++ t).length := by
    rw [List.length_append]
    exact Nat.add_le_add_left hstart _
  rw [search_eq_searchFrom p hlength, search_eq_searchFrom p hstart, List.take_length_add_append,
    List.drop_length_add_append, Nat.add_comm, searchFrom_moved h]

end Program

end Pattern

end LineEditor
