import LineEditor.Proofs.Pattern.Preference

/-!
# Programs between two notes

The program of an expression notes the offset where it starts and the offset where it accepts, and
what is written for the expression stands between these two notes. A part of an expression is given
the address where matching goes on after it. Its steps are all new ones, and they lead to that
address or to each other; what stood there before is not touched. So no step leads back to the first
note, and the last one is the only way to accept.

The slots of these two notes are the program's own, if the groups of the expression are counted from
one. Then what is noted on a match is where it starts and where it ends.
-/

namespace LineEditor.Pattern

namespace Program

/-! ## Writing steps -/

/-- An address where a part goes on: one that is given, or one of its own. -/
def Inside (next low high address : Nat) : Prop :=
  address = next ∨ low ≤ address ∧ address < high

/-- A step inside a part goes on there and keeps away from the first two slots. -/
def Step.IsInner (next low high : Nat) : Step → Prop
  | .accept => False
  | .take _ address | .check _ address => Inside next low high address
  | .note slot address => 2 ≤ slot ∧ Inside next low high address
  | .choose first second => Inside next low high first ∧ Inside next low high second

/-- A part that goes on at `next` has been written behind the steps that were there. -/
structure Grows (next : Nat) (steps : Array Step) (written : Nat × Array Step) : Prop where
  /-- There are no fewer steps. -/
  size : steps.size ≤ written.2.size
  /-- The steps that were there are still there. -/
  kept : ∀ address < steps.size, written.2[address]? = steps[address]?
  /-- Where the part starts. -/
  entry : Inside next steps.size written.2.size written.1
  /-- The new steps. -/
  inner : ∀ address step, steps.size ≤ address → written.2[address]? = some step →
    Step.IsInner next steps.size written.2.size step

/-- A writer writes such a part, whatever was there. -/
def WritesPart (next : Nat) (w : Writer Nat) : Prop := ∀ steps, Grows next steps (w.run steps)

variable {next next' low low' high high' address entry : Nat} {step : Step}
  {steps steps' : Array Step} {written : Nat × Array Step} {e : Expr}

theorem Inside.mono (h : Inside next' low' high' address) (hnext : Inside next low high next')
    (hlow : low ≤ low') (hhigh : high' ≤ high) : Inside next low high address := by
  rcases h with rfl | ⟨hl, hh⟩
  · exact hnext
  · exact .inr ⟨Nat.le_trans hlow hl, Nat.lt_of_lt_of_le hh hhigh⟩

theorem Step.IsInner.mono (h : Step.IsInner next' low' high' step)
    (hnext : Inside next low high next') (hlow : low ≤ low') (hhigh : high' ≤ high) :
    Step.IsInner next low high step := by
  cases step with
  | accept => exact h
  | take | check => exact Inside.mono h hnext hlow hhigh
  | note => exact ⟨h.1, h.2.mono hnext hlow hhigh⟩
  | choose => exact ⟨h.1.mono hnext hlow hhigh, h.2.mono hnext hlow hhigh⟩

theorem isInner_choice (greedy : Bool) {part : Nat} (hpart : Inside next low high part) :
    Step.IsInner next low high (choice greedy part next) := by
  cases greedy with
  | true => exact ⟨hpart, .inl rfl⟩
  | false => exact ⟨.inl rfl, hpart⟩

namespace Grows

/-- Nothing is written. -/
theorem refl (next : Nat) (steps : Array Step) : Grows next steps (next, steps) :=
  ⟨Nat.le_refl _, fun _ _ ↦ rfl, .inl rfl, fun _ _ hle hstep ↦
    absurd hstep (Array.getElem?_eq_none hle ▸ Option.some_ne_none _ ∘ Eq.symm)⟩

/-- One part is written behind another and goes on there. -/
theorem trans (h : Grows next steps (next', steps')) (h' : Grows address steps' written)
    (haddress : Inside next steps.size steps'.size address) : Grows next steps written := by
  have haddress' := haddress.mono (.inl rfl) (Nat.le_refl _) h'.size
  refine ⟨Nat.le_trans h.size h'.size, fun a ha ↦ ?_,
    h'.entry.mono haddress' h.size (Nat.le_refl _), fun a step hle hstep ↦ ?_⟩
  · rw [h'.kept a (Nat.lt_of_lt_of_le ha h.size), h.kept a ha]
  · rcases Nat.lt_or_ge a steps'.size with hlt | hge
    · rw [h'.kept a hlt] at hstep
      exact (h.inner a step hle hstep).mono (.inl rfl) (Nat.le_refl _) h'.size
    · exact (h'.inner a step hge hstep).mono haddress' h.size (Nat.le_refl _)

/-- One more step is written. -/
theorem push (h : Grows next steps (entry, steps'))
    (hstep : Step.IsInner next steps.size steps'.size step) :
    Grows next steps (steps'.size, steps'.push step) := by
  have hsize : steps'.size < (steps'.push step).size :=
    Array.size_push step ▸ Nat.lt_succ_self _
  refine ⟨Nat.le_trans h.size (Nat.le_of_lt hsize), fun a ha ↦ ?_, .inr ⟨h.size, hsize⟩,
    fun a step' hle hstep' ↦ ?_⟩
  · rw [Array.getElem?_push, if_neg (Nat.ne_of_lt (Nat.lt_of_lt_of_le ha h.size)), h.kept a ha]
  · rw [Array.getElem?_push] at hstep'
    split at hstep'
    · obtain rfl := Option.some.inj hstep'
      exact hstep.mono (.inl rfl) (Nat.le_refl _) (Nat.le_of_lt hsize)
    · exact (h.inner a step' hle hstep').mono (.inl rfl) (Nat.le_refl _) (Nat.le_of_lt hsize)

/-- A step that was left open, for a part behind it to go on there, is put in. -/
theorem put (h : Grows steps.size (steps.push .accept) (entry, steps'))
    (hstep : Step.IsInner next steps.size steps'.size step)
    (haddress : Inside steps.size steps.size steps'.size address) :
    Grows next steps (address, steps'.setIfInBounds steps.size step) := by
  have hsize : steps.size < steps'.size := by
    have hpush := h.size
    rwa [Array.size_push] at hpush
  have hback : Inside next steps.size steps'.size steps.size := .inr ⟨Nat.le_refl _, hsize⟩
  refine ⟨?_, fun a ha ↦ ?_, ?_, fun a step' hle hstep' ↦ ?_⟩
  · rw [Array.size_setIfInBounds]
    exact Nat.le_of_lt hsize
  · rw [Array.getElem?_setIfInBounds, if_neg (Nat.ne_of_gt ha),
      h.kept a (Array.size_push _ ▸ Nat.lt_succ_of_lt ha), Array.getElem?_push,
      if_neg (Nat.ne_of_lt ha)]
  · rw [Array.size_setIfInBounds]
    exact haddress.mono hback (Nat.le_refl _) (Nat.le_refl _)
  · rw [Array.size_setIfInBounds]
    rw [Array.getElem?_setIfInBounds] at hstep'
    split at hstep'
    · exact Option.some.inj hstep' ▸ hstep
    · next hne =>
      have hlt : (steps.push .accept).size ≤ a :=
        Array.size_push _ ▸ Nat.lt_of_le_of_ne hle hne
      exact (h.inner a step' hlt hstep').mono hback
        (Nat.le_of_lt (Array.size_push _ ▸ Nat.lt_succ_self _)) (Nat.le_refl _)

end Grows

/-! ## Parts -/

theorem writesPart_pure (next : Nat) : WritesPart next (pure next) := fun steps ↦ .refl next steps

/-- One part goes on where the other starts. -/
theorem WritesPart.bind {w : Writer Nat} {f : Nat → Writer Nat} (hw : WritesPart next w)
    (hf : ∀ entry, WritesPart entry (f entry)) : WritesPart next (w >>= f) :=
  fun steps ↦ (hw steps).trans (hf _ _) (hw steps).entry

/-- A part and one more step, which may lead to its start. -/
theorem WritesPart.bind_add {w : Writer Nat} {f : Nat → Step} (hw : WritesPart next w)
    (hf : ∀ {low high entry : Nat}, Inside next low high entry →
      Step.IsInner next low high (f entry)) :
    WritesPart next (w >>= fun entry ↦ add (f entry)) :=
  fun steps ↦ (hw steps).push (hf (hw steps).entry)

/-- A single step. -/
theorem writesPart_add (hstep : ∀ low, Step.IsInner next low low step) :
    WritesPart next (add step) :=
  fun steps ↦ (Grows.refl next steps).push (hstep steps.size)

/-- A part that goes on at a choice to enter it again, the choice being written first and put in
afterwards. The whole starts with the part or with the choice. -/
theorem Grows.back {steps : Array Step} {w : Writer Nat} (hw : WritesPart steps.size w)
    (greedy : Bool) (next : Nat) :
    let written := w.run (steps.push .accept)
    let looped := written.2.setIfInBounds steps.size (choice greedy written.1 next)
    Grows next steps (written.1, looped) ∧ Grows next steps (steps.size, looped) := by
  intro written looped
  have h : Grows steps.size (steps.push .accept) written := hw _
  have hsize : steps.size < written.2.size := by
    have hpush := h.size
    rwa [Array.size_push] at hpush
  have hlow : steps.size ≤ (steps.push .accept).size :=
    Array.size_push Step.accept ▸ Nat.le_succ _
  have hback : Inside next steps.size written.2.size steps.size := .inr ⟨Nat.le_refl _, hsize⟩
  have hchoice := isInner_choice greedy (h.entry.mono hback hlow (Nat.le_refl _))
  exact ⟨h.put hchoice (h.entry.mono (.inl rfl) hlow (Nat.le_refl _)), h.put hchoice (.inl rfl)⟩

section Parts

variable {part : Nat → Writer Nat} (hpart : ∀ next, WritesPart next (part next))

include hpart

theorem writesPart_copies (count next : Nat) : WritesPart next (copies part count next) := by
  induction count with
  | zero => exact writesPart_pure next
  | succ count ih => exact ih.bind hpart

theorem writesPart_options (greedy : Bool) (count next : Nat) :
    WritesPart next (options part greedy count next) := by
  induction count with
  | zero => exact writesPart_pure next
  | succ count ih => exact (ih.bind hpart).bind_add (isInner_choice greedy)

theorem writesPart_loop (greedy : Bool) (next : Nat) :
    WritesPart next (loop part greedy next) :=
  fun steps ↦ (Grows.back (hpart steps.size) greedy next).1

end Parts

/-- What is written for an expression is a part, if its groups are counted from one. -/
theorem writesPart_write (h : e.IsNumbered) (next : Nat) : WritesPart next (write e next) := by
  induction e generalizing next with
  | empty => exact writesPart_pure next
  | set s => exact writesPart_add fun _ ↦ .inl rfl
  | look l => exact writesPart_add fun _ ↦ .inl rfl
  | group index e ih =>
    obtain ⟨hindex, he⟩ := h
    have hstop : WritesPart next (add (.note (2 * index + 1) next)) :=
      writesPart_add fun _ ↦ ⟨by omega, .inl rfl⟩
    exact (hstop.bind (ih he)).bind_add fun hentry ↦ ⟨by omega, hentry⟩
  | seq e f ihe ihf => exact (ihf h.2 next).bind (ihe h.1)
  | alt e f ihe ihf =>
    intro steps
    have he := ihe h.1 next steps
    have hf := ihf h.2 next ((write e next).run steps).2
    have hfirst := he.entry.mono (.inl rfl) (Nat.le_refl _) hf.size
    have hsecond := hf.entry.mono (.inl rfl) he.size (Nat.le_refl _)
    exact (he.trans hf (.inl rfl)).push ⟨hfirst, hsecond⟩
  | rep e least most greedy ih =>
    have hpart := ih h
    cases most with
    | some most =>
      exact (writesPart_options hpart greedy _ next).bind (writesPart_copies hpart least)
    | none =>
      cases least with
      | succ least =>
        exact (writesPart_loop hpart greedy next).bind (writesPart_copies hpart least)
      | zero =>
        rw [write]
        split
        · exact (writesPart_loop hpart greedy next).bind_add (isInner_choice greedy)
        · exact fun steps ↦ (Grows.back (hpart steps.size) greedy next).2

/-! ## The frame -/

/-- The program begins with a step to accept, a note in front of it and a part, and ends with a note
that leads to the part and is where the program starts. -/
structure IsFramed (p : Program) : Prop where
  /-- The first step is behind the part. -/
  start : 2 ≤ p.start
  /-- There are slots for the two notes. -/
  slots : 2 ≤ p.slots
  /-- The first step. -/
  first : ∃ entry, p.steps[p.start]? = some (.note 0 entry) ∧ Inside 1 2 p.start entry
  /-- The other steps. -/
  other : ∀ address step, p.steps[address]? = some step → address ≠ p.start →
    address = 0 ∧ step = .accept ∨ address = 1 ∧ step = .note 1 0 ∨ Step.IsInner 1 2 p.start step

theorem isFramed_ofExpr (h : e.IsNumbered) (groups : Nat) : (ofExpr e groups).IsFramed := by
  let frame : Array Step := #[.accept, .note 1 0]
  let written := (write e 1).run frame
  have hpart : Grows 1 frame written := writesPart_write h 1 frame
  have hprogram : ofExpr e groups
      = ⟨written.2.push (.note 0 written.1), written.2.size, 2 * (groups + 1)⟩ := rfl
  rw [hprogram]
  refine ⟨hpart.size, Nat.le_add_left 2 (2 * groups), ⟨written.1, ?_, hpart.entry⟩,
    fun address step hstep hne ↦ ?_⟩
  · rw [Array.getElem?_push, if_pos rfl]
  · rw [Array.getElem?_push, if_neg hne] at hstep
    by_cases hlt : address < 2
    · rw [hpart.kept address hlt] at hstep
      obtain rfl | rfl : address = 0 ∨ address = 1 := by omega
      · exact .inl ⟨rfl, (Option.some.inj hstep).symm⟩
      · exact .inr (.inl ⟨rfl, (Option.some.inj hstep).symm⟩)
    · exact .inr (.inr (hpart.inner address step (Nat.le_of_not_lt hlt) hstep))

/-! ## What is noted -/

/-- A way from an offset where a match starts: at the start of the program nothing is noted yet,
elsewhere that offset is, and where the way accepts so is the offset where it does. -/
def IsNoted (p : Program) (i offset : Nat) (way : Nat × Slots) : Prop :=
  way.1 = p.start ∧ offset = i ∧ way.2 = List.replicate p.slots none ∨
    way.1 ≠ p.start ∧ 2 ≤ way.2.length ∧ way.2[0]? = some (some i) ∧
      (way.1 = 0 → way.2[1]? = some (some offset))

variable {p : Program} {before after : Option Char} {rest t : Text} {i offset : Nat}
  {way way' : Nat × Slots} {slots : Slots} {ways ways' : Ways}

/-- An address inside the part is neither the start nor the step that accepts. -/
theorem IsFramed.ne_of_inside (hp : p.IsFramed) (h : Inside 1 2 p.start address) :
    address ≠ p.start ∧ address ≠ 0 := by
  have hstart := hp.start
  rcases h with rfl | ⟨hlow, hhigh⟩ <;> omega

/-- Inside the part, a way may go on anywhere. -/
theorem IsFramed.isNoted_inside (hp : p.IsFramed) (h : Inside 1 2 p.start way.1)
    (hlength : 2 ≤ way.2.length) (hslot : way.2[0]? = some (some i)) (offset : Nat) :
    p.IsNoted i offset way := by
  obtain ⟨hstart, hzero⟩ := hp.ne_of_inside h
  exact .inr ⟨hstart, hlength, hslot, fun heq ↦ absurd heq hzero⟩

/-- A step inside a part leads on inside of it and leaves the first slot alone. -/
theorem onward_of_isInner (hstep : p.steps[way.1]? = some step)
    (h : Step.IsInner next low high step) (hway' : way' ∈ p.onward before after offset way) :
    Inside next low high way'.1 ∧ way'.2.length = way.2.length ∧ way'.2[0]? = way.2[0]? := by
  cases step with
  | accept | take => exact absurd (by rwa [Program.onward, hstep] at hway') List.not_mem_nil
  | check l address =>
    simp only [Program.onward, hstep] at hway'
    split at hway'
    · obtain rfl := List.mem_singleton.mp hway'
      exact ⟨h, rfl, rfl⟩
    · exact absurd hway' List.not_mem_nil
  | note slot address =>
    simp only [Program.onward, hstep, List.mem_singleton] at hway'
    subst hway'
    refine ⟨h.2, List.length_set, List.getElem?_set_ne ?_⟩
    exact Nat.ne_of_gt (Nat.lt_of_lt_of_le Nat.two_pos h.1)
  | choose first second =>
    simp only [Program.onward, hstep, List.mem_cons, List.not_mem_nil, or_false] at hway'
    rcases hway' with rfl | rfl
    · exact ⟨h.1, rfl, rfl⟩
    · exact ⟨h.2, rfl, rfl⟩

/-- Where a way goes on that has been noted, it has been noted, too. -/
theorem IsNoted.onward (hp : p.IsFramed) (h : p.IsNoted i offset way)
    (hway' : way' ∈ p.onward before after offset way) : p.IsNoted i offset way' := by
  rcases h with ⟨hstart, rfl, hslots⟩ | ⟨hstart, hlength, hslot, -⟩
  · obtain ⟨entry, hstep, hentry⟩ := hp.first
    simp only [Program.onward, hstart, hstep, hslots, List.mem_singleton] at hway'
    subst hway'
    have hslots := hp.slots
    have hlength : 0 < (List.replicate p.slots (none : Option Nat)).length := by
      rw [List.length_replicate]
      exact Nat.lt_of_lt_of_le Nat.two_pos hslots
    refine hp.isNoted_inside hentry ?_ (List.getElem?_set_self hlength) offset
    rwa [List.length_set, List.length_replicate]
  · cases hstep : p.steps[way.1]? with
    | none => exact absurd (by rwa [Program.onward, hstep] at hway') List.not_mem_nil
    | some step =>
      rcases hp.other way.1 step hstep hstart with ⟨-, rfl⟩ | ⟨-, rfl⟩ | hinner
      · exact absurd (by rwa [Program.onward, hstep] at hway') List.not_mem_nil
      · simp only [Program.onward, hstep, List.mem_singleton] at hway'
        subst hway'
        refine .inr ⟨?_, ?_, ?_, fun _ ↦ List.getElem?_set_self hlength⟩
        · exact Nat.ne_of_lt (Nat.lt_of_lt_of_le Nat.two_pos hp.start)
        · rwa [List.length_set]
        · rwa [List.getElem?_set_ne Nat.one_ne_zero]
      · obtain ⟨hinside, hlength', hslot'⟩ := onward_of_isInner hstep hinner hway'
        exact hp.isNoted_inside hinside (hlength' ▸ hlength) (hslot' ▸ hslot) offset

/-- Where noted ways are followed, noted ways wait. -/
theorem Follows.isNoted (hp : p.IsFramed) {row : List (Nat × Slots)}
    (h : Follows p before after offset row ways ways')
    (hrow : ∀ way ∈ row, p.IsNoted i offset way)
    (hways : ∀ way ∈ ways.waiting.toList, p.IsNoted i offset way) :
    ∀ way ∈ ways'.waiting.toList, p.IsNoted i offset way := by
  refine h.keeps (P := fun ways ↦ ∀ way ∈ ways.waiting.toList, p.IsNoted i offset way)
    (fun way hway way' hway' ↦ hway.onward hp hway') (fun ways way _ hway hways ↦ ?_) hrow hways
  rw [Ways.meet]
  split
  · rw [Array.toList_push]
    exact List.forall_mem_append.mpr ⟨hways, List.forall_mem_singleton.mpr hway⟩
  · exact hways

/-- Of a way that is followed, noted ways wait. -/
theorem isNoted_follow (hp : p.IsFramed) (before after : Option Char) {address : Nat}
    (h : p.IsNoted i offset (address, slots)) :
    ∀ way ∈ (p.follow before after offset p.steps.size address slots p.noWays).waiting.toList,
      p.IsNoted i offset way :=
  have hunmet := (isComplete_noWays p before after offset).unmet_le
  (follows_follow p before after offset hunmet address slots).isNoted hp
    (List.forall_mem_singleton.mpr h) fun _ hway ↦ absurd hway List.not_mem_nil

/-- There is one address to accept at. -/
theorem IsFramed.eq_zero_of_accept (hp : p.IsFramed) (hstep : p.steps[address]? = some .accept) :
    address ≠ p.start ∧ address = 0 := by
  have hstart : address ≠ p.start := by
    rintro rfl
    obtain ⟨entry, hfirst, -⟩ := hp.first
    exact Step.noConfusion (Option.some.inj (hstep.symm.trans hfirst))
  rcases hp.other address _ hstep hstart with ⟨hzero, -⟩ | ⟨-, h⟩ | hinner
  · exact ⟨hstart, hzero⟩
  · exact Step.noConfusion h
  · exact hinner.elim

/-- Characters are taken inside the part. -/
theorem IsFramed.inside_of_take (hp : p.IsFramed) {s : CharSet}
    (hstep : p.steps[address]? = some (.take s next)) :
    address ≠ p.start ∧ Inside 1 2 p.start next := by
  have hstart : address ≠ p.start := by
    rintro rfl
    obtain ⟨entry, hfirst, -⟩ := hp.first
    exact Step.noConfusion (Option.some.inj (hstep.symm.trans hfirst))
  rcases hp.other address _ hstep hstart with ⟨-, h⟩ | ⟨-, h⟩ | hinner
  · exact Step.noConfusion h
  · exact Step.noConfusion h
  · exact ⟨hstart, hinner⟩

/-- What is noted on a way that is not at the start. -/
theorem IsNoted.of_ne (h : p.IsNoted i offset way) (hstart : way.1 ≠ p.start) :
    2 ≤ way.2.length ∧ way.2[0]? = some (some i) ∧ (way.1 = 0 → way.2[1]? = some (some offset)) :=
  (h.resolve_left fun h ↦ hstart h.1).2

/-- Where a way accepts, the two offsets are noted. -/
theorem IsNoted.of_accept (hp : p.IsFramed) (h : p.IsNoted i offset way)
    (hstep : p.steps[way.1]? = some .accept) :
    way.2[0]? = some (some i) ∧ way.2[1]? = some (some offset) := by
  obtain ⟨hstart, hzero⟩ := hp.eq_zero_of_accept hstep
  obtain ⟨-, hslot, hlast⟩ := h.of_ne hstart
  exact ⟨hslot, hlast hzero⟩

/-- Behind a character, a way goes on noted. -/
theorem IsNoted.of_take (hp : p.IsFramed) (h : p.IsNoted i offset way) {s : CharSet}
    (hstep : p.steps[way.1]? = some (.take s next)) (offset' : Nat) :
    p.IsNoted i offset' (next, way.2) := by
  obtain ⟨hstart, hnext⟩ := hp.inside_of_take hstep
  obtain ⟨hlength, hslot, -⟩ := h.of_ne hstart
  have hinside : Inside 1 2 p.start (next, way.2).1 := hnext
  exact hp.isNoted_inside hinside hlength hslot offset'

/-- On a match, the offset where the way started is noted and the one where it accepts. -/
theorem IsNoted.outcome (hp : p.IsFramed) (h : p.IsNoted i offset way)
    (hslots : p.outcome rest offset way = some slots) :
    slots[0]? = some (some i) ∧
      ∃ j, slots[1]? = some (some j) ∧ offset ≤ j ∧ j ≤ offset + rest.length := by
  induction rest generalizing offset way with
  | nil =>
    rcases outcome_eq_some hslots with ⟨hstep, rfl⟩ | ⟨c, rest, s, next, hrest, -⟩
    · obtain ⟨hfirst, hlast⟩ := h.of_accept hp hstep
      exact ⟨hfirst, offset, hlast, Nat.le_refl _, Nat.le_add_right _ _⟩
    · exact absurd hrest.symm (List.cons_ne_nil c rest)
  | cons c rest ih =>
    rcases outcome_eq_some hslots with
      ⟨hstep, rfl⟩ | ⟨c, rest, s, next, hrest, hstep, way', hway', h'⟩
    · obtain ⟨hfirst, hlast⟩ := h.of_accept hp hstep
      exact ⟨hfirst, offset, hlast, Nat.le_refl _, Nat.le_add_right _ _⟩
    · cases hrest
      have hnoted := isNoted_follow hp (some c) rest.head? (h.of_take hp hstep (offset + 1))
      obtain ⟨hfirst, j, hlast, hle, hlength⟩ := ih (hnoted way' hway') h'
      refine ⟨hfirst, j, hlast, Nat.le_of_succ_le hle, ?_⟩
      rw [List.length_cons]
      omega

/-- **What is noted on a match** is where it starts and where it ends. -/
theorem IsFramed.exists_of_anchored (hp : p.IsFramed) (hi : i ≤ t.length)
    (h : p.anchored t i = some slots) :
    ∃ c, p.capturesOf slots = some c ∧ c.whole.start = i ∧ i ≤ c.whole.stop ∧
      c.whole.stop ≤ t.length := by
  obtain ⟨way, hway, hslots⟩ := List.exists_of_findSome?_eq_some h
  have hstart : p.IsNoted i i (p.start, List.replicate p.slots none) := .inl ⟨rfl, rfl, rfl⟩
  have hnoted := isNoted_follow hp (t.take i).getLast? (t.drop i).head? hstart
  obtain ⟨hfirst, j, hlast, hle, hlength⟩ := (hnoted way hway).outcome hp hslots
  rw [List.length_drop, Nat.add_sub_cancel' hi] at hlength
  have hwhole : stretch slots 0 = some ⟨i, j⟩ := by
    simp only [stretch, Nat.mul_zero, Nat.zero_add, hfirst, hlast]
    rfl
  refine ⟨_, by rw [capturesOf, hwhole]; rfl, rfl, hle, hlength⟩

end Program

end LineEditor.Pattern
