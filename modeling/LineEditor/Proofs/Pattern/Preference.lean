import LineEditor.Proofs.Pattern.Following
import LineEditor.Proofs.Pattern.Placing
import Mathlib.Data.List.Basic

/-!
# The match that is preferred

Each way that waits leads to one match at most: if it is to accept, to what has been noted on it,
and if it is to take a character, to the first match of the ways that go on behind it, followed with
no other ways there. This is what trying one way after the other would find. Whether there is a
match depends on where the way waits only, and so two ways that wait at one address both lead to a
match, or both do not.

A run follows all ways at once, and gives up those that come to an address where one waits already.
These would lead to a match only if the earlier one does, which is preferred. So a run finds the
match that trying one way after the other finds: the first one of those that start where the run
starts or, if there is none, the one found from the next offset on.
-/

namespace LineEditor.Pattern.Program

variable {p : Program} {before after : Option Char} {rest : Text} {offset address : Nat}
  {slots slots' : Slots} {ways base : Ways} {c : Char}

/-- What is noted on the match that a waiting way leads to. -/
def outcome (p : Program) : (rest : Text) → (offset : Nat) → Nat × Slots → Option Slots
  | [], _, (address, slots) =>
    match p.steps[address]? with
    | some .accept => some slots
    | _ => none
  | c :: rest, offset, (address, slots) =>
    match p.steps[address]? with
    | some .accept => some slots
    | some (.take s next) =>
      if s.contains c then
        (p.follow (some c) rest.head? (offset + 1) p.steps.size next slots p.noWays).waiting.toList
          |>.findSome? (outcome p rest (offset + 1))
      else none
    | _ => none

/-- What is noted on the first match that the waiting ways lead to. -/
def outcomeOf (p : Program) (rest : Text) (offset : Nat) (ways : Ways) : Option Slots :=
  ways.waiting.toList.findSome? (p.outcome rest offset)

/-- The ways that start at an offset. -/
def starting (p : Program) (before after : Option Char) (offset : Nat) : Ways :=
  p.follow before after offset p.steps.size p.start (List.replicate p.slots none) p.noWays

/-- What is noted on the match found from an offset on, the offsets being tried one by one. -/
def firstOutcome (p : Program) (before : Option Char) : (rest : Text) → (offset : Nat) →
    Option Slots
  | [], offset => p.outcomeOf [] offset (p.starting before none offset)
  | c :: rest, offset =>
    (p.outcomeOf (c :: rest) offset (p.starting before (some c) offset)).or
      (firstOutcome p (some c) rest (offset + 1))

/-! ## Ways at one address -/

theorem like_follow (p : Program) (before after : Option Char) (offset address : Nat)
    (slots slots' : Slots) :
    (p.follow before after offset p.steps.size address slots p.noWays).IsLike
      (p.follow before after offset p.steps.size address slots' p.noWays) := by
  have hunmet := (isComplete_noWays p before after offset).unmet_le
  have hfollows (slots : Slots) := follows_follow p before after offset hunmet address slots
  have hrow : [(address, slots)].map Prod.fst = [(address, slots')].map Prod.fst := rfl
  obtain ⟨ways', hways', hlike⟩ := (hfollows slots).like hrow (.refl p.noWays)
  rwa [(hfollows slots').unique hways']

/-- Whether there is a match does not depend on what has been noted. -/
theorem isSome_outcome_congr (p : Program) (rest : Text) (offset address : Nat)
    (slots slots' : Slots) :
    (p.outcome rest offset (address, slots)).isSome
      = (p.outcome rest offset (address, slots')).isSome := by
  induction rest generalizing offset address slots slots' with
  | nil =>
    rw [outcome, outcome]
    split <;> rfl
  | cons c rest ih =>
    rw [outcome, outcome]
    cases p.steps[address]? with
    | none => rfl
    | some step =>
      cases step with
      | accept | check | note | choose => rfl
      | take s next =>
        simp only
        split
        · have hlead (waiting : List (Nat × Slots)) :
              (waiting.findSome? (p.outcome rest (offset + 1))).isSome
                = (waiting.map Prod.fst).any fun address ↦
                    (p.outcome rest (offset + 1) (address, [])).isSome := by
            rw [List.isSome_findSome?, List.any_map]
            exact congrArg waiting.any (funext fun way ↦ ih (offset + 1) way.1 way.2 [])
          have hlike := p.like_follow (some c) rest.head? (offset + 1) next slots slots'
          rw [hlead, hlead, hlike.waiting]
        · rfl

/-- A way that leads to a match accepts, or takes a character and goes on behind it on a way that
leads to the match. -/
theorem outcome_eq_some {way : Nat × Slots} (h : p.outcome rest offset way = some slots) :
    p.steps[way.1]? = some .accept ∧ slots = way.2 ∨
      ∃ c rest' s next, rest = c :: rest' ∧ p.steps[way.1]? = some (.take s next) ∧
        ∃ way' ∈ (p.follow (some c) rest'.head? (offset + 1) p.steps.size next way.2
          p.noWays).waiting.toList, p.outcome rest' (offset + 1) way' = some slots := by
  obtain ⟨address, noted⟩ := way
  cases rest with
  | nil =>
    rw [outcome] at h
    split at h
    · next hstep => exact .inl ⟨hstep, (Option.some.inj h).symm⟩
    · exact absurd h.symm (Option.some_ne_none slots)
  | cons c rest =>
    rw [outcome] at h
    split at h
    · next hstep => exact .inl ⟨hstep, (Option.some.inj h).symm⟩
    · next s next hstep =>
      obtain ⟨-, h⟩ := Option.ite_none_right_eq_some.mp h
      exact .inr ⟨c, rest, s, next, rfl, hstep, List.exists_of_findSome?_eq_some h⟩
    · exact absurd h.symm (Option.some_ne_none slots)

/-- Only ways that wait lead to a match. -/
theorem outcome_of_not_waits {way : Nat × Slots} (h : p.waits way.1 = false) (rest : Text)
    (offset : Nat) : p.outcome rest offset way = none := by
  refine Option.eq_none_iff_forall_ne_some.mpr fun slots hslots ↦ Bool.false_ne_true ?_
  rw [← h, waits]
  rcases outcome_eq_some hslots with ⟨hstep, -⟩ | ⟨c, rest', s, next, -, hstep, -⟩
  · rw [hstep]
  · rw [hstep]

/-- Following a way with complete ways there leads to the first match of these or, if there is none,
to the first match of the way. -/
theorem outcomeOf_follow (hways : ways.IsComplete p before rest.head? offset) (address : Nat)
    (slots : Slots) :
    p.outcomeOf rest offset (p.follow before rest.head? offset p.steps.size address slots ways)
      = (p.outcomeOf rest offset ways).or (p.outcomeOf rest offset
          (p.follow before rest.head? offset p.steps.size address slots p.noWays)) := by
  have hunmet := (isComplete_noWays p before rest.head? offset).unmet_le
  have hfollows := follows_follow p before rest.head? offset hways.unmet_le address slots
  obtain ⟨ways', hways', hover⟩ :=
    (follows_follow p before rest.head? offset hunmet address slots).over hways hways.isOver
  obtain rfl := hfollows.unique hways'
  rw [outcomeOf, hover.waiting, List.findSome?_append]
  cases hearlier : p.outcomeOf rest offset ways with
  | some slots => exact congrArg (Option.or · _) hearlier
  | none =>
    have hnone : ∀ way ∈ ways.waiting.toList, p.outcome rest offset way = none :=
      List.findSome?_eq_none_iff.mp hearlier
    rw [List.findSome?_eq_none_iff.mpr hnone, Option.none_or, Option.none_or, outcomeOf,
      ← List.head?_filterMap, ← List.head?_filterMap, List.filterMap_filter]
    refine congrArg List.head? (List.filterMap_congr fun way _ ↦ ?_)
    -- a way that is left out leads to a match only if one that waits there does
    cases hmet : ways.met way.1 with
    | false => rfl
    | true =>
      cases hwaits : p.waits way.1 with
      | false => exact (outcome_of_not_waits hwaits rest offset).symm
      | true =>
        obtain ⟨slots', hslots'⟩ := hways.waiting way.1 hmet hwaits
        have hsome := p.isSome_outcome_congr rest offset way.1 way.2 slots'
        rw [hnone _ hslots', Option.isSome_none, Option.isSome_eq_false_iff,
          Option.isNone_iff_eq_none] at hsome
        exact hsome.symm

theorem isComplete_follow (hways : ways.IsComplete p before after offset) (address : Nat)
    (slots : Slots) : (p.follow before after offset p.steps.size address slots ways).IsComplete p
      before after offset :=
  (follows_follow p before after offset hways.unmet_le address slots).isComplete hways

/-! ## Runs -/

/-- A character is taken: the ways behind it and the match that ended the scan lead to the first
match of the ways that were behind it already and of those that waited. -/
theorem advance_spec (c : Char) (rest : Text) (offset : Nat) (waiting : List (Nat × Slots))
    (hways : ways.IsComplete p (some c) rest.head? (offset + 1)) :
    let taken := p.advance c rest.head? offset waiting ways
    taken.1.IsComplete p (some c) rest.head? (offset + 1) ∧
      (p.outcomeOf rest (offset + 1) taken.1).or taken.2
        = (p.outcomeOf rest (offset + 1) ways).or
            (waiting.findSome? (p.outcome (c :: rest) offset)) := by
  induction waiting generalizing ways with
  | nil => exact ⟨hways, rfl⟩
  | cons way waiting ih =>
    obtain ⟨address, slots⟩ := way
    rw [← List.singleton_append, List.findSome?_append, List.findSome?_singleton,
      List.singleton_append, advance, outcome]
    cases p.steps[address]? with
    | none => exact ih hways
    | some step =>
      cases step with
      | accept => exact ⟨hways, rfl⟩
      | check | note | choose => exact ih hways
      | take s next =>
        simp only
        cases s.contains c with
        | false => exact ih hways
        | true =>
          -- the way goes on behind the character, with the ways there that are preferred to it
          obtain ⟨hcomplete, heq⟩ := ih (isComplete_follow hways next slots)
          rw [outcomeOf_follow hways, Option.or_assoc] at heq
          exact ⟨hcomplete, heq⟩

/-- At the end of the text, the ways that lead to a match are those that accept. -/
theorem accepted?_eq (p : Program) (offset : Nat) (ways : Ways) :
    p.accepted? ways = p.outcomeOf [] offset ways := by
  rw [accepted?, outcomeOf]
  induction ways.waiting.toList with
  | nil => rfl
  | cons way waiting ih =>
    obtain ⟨address, slots⟩ := way
    rw [List.find?_cons, List.findSome?_cons, outcome]
    dsimp only
    cases p.steps[address]? with
    | none => exact ih
    | some step =>
      cases step with
      | accept => rfl
      | take | check | note | choose => exact ih

theorem outcomeOf_noWays (p : Program) (rest : Text) (offset : Nat) :
    p.outcomeOf rest offset p.noWays = none := rfl

/-- Where no way waits there is no match. -/
theorem outcomeOf_of_isEmpty (h : ways.waiting.isEmpty = true) (rest : Text) (offset : Nat) :
    p.outcomeOf rest offset ways = none := by
  rw [outcomeOf, Array.isEmpty_iff.mp h]
  rfl

/-- With a match found already, a run finds the first match of the ways that are preferred to it. -/
theorem runFrom_some (hways : ways.IsComplete p before rest.head? offset) (best : Slots) :
    p.runFrom before rest offset ways (some best)
      = (p.outcomeOf rest offset ways).or (some best) := by
  induction rest generalizing before offset ways best with
  | nil =>
    rw [runFrom_nil, accepted?_eq p offset]
    rfl
  | cons c rest ih =>
    have halive : p.alive before (some c) offset ways (some best) = ways := rfl
    obtain ⟨hcomplete, heq⟩ := advance_spec c rest offset ways.waiting.toList
      (isComplete_noWays p (some c) rest.head? (offset + 1))
    rw [outcomeOf_noWays, Option.none_or] at heq
    rw [runFrom_cons, halive, outcomeOf, ← heq, Option.or_assoc]
    obtain ⟨found, hfound⟩ : ∃ found, (p.advance c rest.head? offset ways.waiting.toList
        p.noWays).2.or (some best) = some found :=
      Option.isSome_iff_exists.mp (by rw [Option.isSome_or, Option.isSome_some, Bool.or_true])
    simp only [hfound, Option.isSome_some, Bool.true_and]
    split
    · next hempty => rw [outcomeOf_of_isEmpty hempty, Option.none_or]
    · exact ih hcomplete found

/-- **What a run finds.** Without a match found already, it is the first match of the ways that are
there or, if there is none, the match found by trying the offsets one by one. -/
theorem runFrom_none (hways : ways.IsComplete p before rest.head? offset) :
    p.runFrom before rest offset ways none
      = (p.outcomeOf rest offset ways).or (p.firstOutcome before rest offset) := by
  induction rest generalizing before offset ways with
  | nil =>
    rw [runFrom_nil, accepted?_eq p offset, Option.or_none]
    exact outcomeOf_follow hways p.start _
  | cons c rest ih =>
    have hstart : p.outcomeOf (c :: rest) offset (p.alive before (some c) offset ways none)
        = (p.outcomeOf (c :: rest) offset ways).or
            (p.outcomeOf (c :: rest) offset (p.starting before (some c) offset)) :=
      outcomeOf_follow hways p.start _
    obtain ⟨hcomplete, heq⟩ := advance_spec c rest offset
      (p.alive before (some c) offset ways none).waiting.toList
      (isComplete_noWays p (some c) rest.head? (offset + 1))
    rw [outcomeOf_noWays, Option.none_or, ← outcomeOf, hstart] at heq
    rw [runFrom_cons, firstOutcome, ← Option.or_assoc, ← heq]
    simp only [Option.or_none] at hcomplete heq ⊢
    generalize p.advance c rest.head? offset
      (p.alive before (some c) offset ways none).waiting.toList p.noWays = taken at *
    obtain ⟨next, found⟩ := taken
    cases found with
    | none =>
      rw [Option.or_none]
      exact ih hcomplete
    | some found =>
      -- a match ends the scan, and only ways preferred to it are left
      rw [Option.or_assoc, Option.some_or, Option.isSome_some, Bool.true_and]
      split
      · next hempty => rw [outcomeOf_of_isEmpty hempty, Option.none_or]
      · exact runFrom_some hcomplete found

/-! ## Searches -/

/-- The match that has been noted in slots. -/
def capturesOf (p : Program) (slots : Slots) : Option Captures := do
  let whole ← stretch slots 0
  return ⟨whole, (List.range (p.slots / 2 - 1)).map fun i ↦ stretch slots (i + 1)⟩

/-- What is noted on the match that starts at an offset of a text. -/
def anchored (p : Program) (t : Text) (i : Nat) : Option Slots :=
  p.outcomeOf (t.drop i) i (p.starting (t.take i).getLast? (t.drop i).head? i)

variable {t : Text} {i : Nat}

theorem search_eq_firstOutcome (p : Program) (hi : i ≤ t.length) :
    p.search t i
      = (p.firstOutcome (t.take i).getLast? (t.drop i) i).bind p.capturesOf := by
  rw [search_eq_searchFrom p hi, searchFrom, runFrom_none (isComplete_noWays p _ _ i),
    outcomeOf_noWays, Option.none_or]
  rfl

/-- If no match starts at an offset, the next one is tried. -/
theorem firstOutcome_of_lt (p : Program) (hi : i < t.length) :
    p.firstOutcome (t.take i).getLast? (t.drop i) i
      = (p.anchored t i).or
          (p.firstOutcome (t.take (i + 1)).getLast? (t.drop (i + 1)) (i + 1)) := by
  have hbefore : (t.take (i + 1)).getLast? = some t[i] := by
    rw [List.take_add_one, List.getElem?_eq_getElem hi, Option.toList_some, List.getLast?_concat]
  rw [anchored, hbefore, List.drop_eq_getElem_cons hi]
  rfl

/-- The end of the text is the last one. -/
theorem firstOutcome_length (p : Program) (t : Text) :
    p.firstOutcome (t.take t.length).getLast? (t.drop t.length) t.length
      = p.anchored t t.length := by
  rw [anchored, List.drop_length]
  rfl

/-- **What a search finds.** From an offset on, it is the match that starts there or, if there is
none, what is found from the next offset on; provided that matches are noted. -/
theorem search_eq_or (hi : i ≤ t.length)
    (hnoted : ∀ slots, p.anchored t i = some slots → (p.capturesOf slots).isSome) :
    p.search t i = ((p.anchored t i).bind p.capturesOf).or (p.search t (i + 1)) := by
  have hfirst (next : Option Slots) : ((p.anchored t i).or next).bind p.capturesOf
      = ((p.anchored t i).bind p.capturesOf).or (next.bind p.capturesOf) := by
    cases hslots : p.anchored t i with
    | none => rfl
    | some slots =>
      obtain ⟨c, hc⟩ := Option.isSome_iff_exists.mp (hnoted slots hslots)
      simp only [Option.some_or, Option.bind_some, hc]
  rcases Nat.lt_or_eq_of_le hi with hlt | rfl
  · rw [search_eq_firstOutcome p hi, search_eq_firstOutcome p hlt, firstOutcome_of_lt p hlt, hfirst]
  · rw [search_eq_firstOutcome p hi, firstOutcome_length, search, if_pos (Nat.lt_succ_self _)]
    exact (Option.or_none).symm

end LineEditor.Pattern.Program
