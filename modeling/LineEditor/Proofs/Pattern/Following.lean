import LineEditor.Pattern.Machine

/-!
# Ways that take no character

From an address a program goes on along several ways, and those that come to an address met before
are given up. As a relation this is said with a row of ways still to be followed: the first of them
is given up or replaced by the ways that go on from it. There is no count of rounds in it. The ways
followed by a program are those of the relation, since each round meets a new address and there are
no more rounds than addresses.

Two things come out of it. When all ways are followed, the ways that go on from an address that has
been met have been followed themselves, and an address where a way waits has a way that waits there.
And it makes no great difference what has been met before: following ways with some ways already
there means to follow them with none, and to leave out those that end up where one waits already.
-/

namespace LineEditor.Pattern.Program

/-- The address has been met. What lies outside the program counts as met. -/
def Ways.met (ways : Ways) (address : Nat) : Bool := (ways.seen[address]?).getD true

/-- At the address a way waits, to take a character or to accept. -/
def waits (p : Program) (address : Nat) : Bool :=
  match p.steps[address]? with
  | some .accept | some (.take ..) => true
  | _ => false

/-- The ways that go on from the address of a way and take no character, preferred ones first. -/
def onward (p : Program) (before after : Option Char) (offset : Nat) (way : Nat × Slots) :
    List (Nat × Slots) :=
  match p.steps[way.1]? with
  | some (.check l next) => if l.holds before after then [(next, way.2)] else []
  | some (.note slot next) => [(next, way.2.set slot (some offset))]
  | some (.choose first second) => [(first, way.2), (second, way.2)]
  | _ => []

/-- The ways with the address of one more met, which waits there if the address says so. -/
def Ways.meet (ways : Ways) (p : Program) (way : Nat × Slots) : Ways :=
  ⟨ways.seen.setIfInBounds way.1 true,
    if p.waits way.1 then ways.waiting.push way else ways.waiting⟩

/-- Following a row of ways leads from some ways to others. -/
inductive Follows (p : Program) (before after : Option Char) (offset : Nat) :
    List (Nat × Slots) → Ways → Ways → Prop
  /-- There is no way left. -/
  | nil {ways : Ways} : Follows p before after offset [] ways ways
  /-- The first way is given up. -/
  | skip {way : Nat × Slots} {row : List (Nat × Slots)} {ways ways' : Ways}
    (h : ways.met way.1 = true) (hrow : Follows p before after offset row ways ways') :
    Follows p before after offset (way :: row) ways ways'
  /-- The first way goes on. -/
  | meet {way : Nat × Slots} {row : List (Nat × Slots)} {ways ways' : Ways}
    (h : ways.met way.1 = false)
    (hrow : Follows p before after offset (p.onward before after offset way ++ row)
      (ways.meet p way) ways') :
    Follows p before after offset (way :: row) ways ways'

variable {p : Program} {before after : Option Char} {offset rounds address : Nat} {slots : Slots}
  {way : Nat × Slots} {row row' : List (Nat × Slots)} {ways ways' ways₁ ways₂ base : Ways}

/-! ## What is met -/

theorem met_meet (ways : Ways) (p : Program) (way : Nat × Slots) (address : Nat) :
    (ways.meet p way).met address = (ways.met address || way.1 == address) := by
  simp only [Ways.met, Ways.meet, Array.getElem?_setIfInBounds]
  by_cases h : way.1 = address
  · subst h
    simp only [BEq.rfl, Bool.or_true, if_true]
    split <;> rfl
  · rw [if_neg h, beq_false_of_ne h, Bool.or_false]

theorem met_noWays (p : Program) (address : Nat) :
    p.noWays.met address = decide (p.steps.size ≤ address) := by
  rw [Ways.met, noWays, Array.getElem?_replicate]
  split
  · next h => exact (decide_eq_false (Nat.not_le_of_lt h)).symm
  · next h => exact (decide_eq_true (Nat.le_of_not_lt h)).symm

/-- The number of addresses that have not been met. -/
def Ways.unmet (ways : Ways) : Nat := ways.seen.toList.count false

theorem unmet_le_size (ways : Ways) : ways.unmet ≤ ways.seen.size :=
  List.count_le_length

/-- To meet an address for the first time leaves one less. -/
theorem unmet_meet (h : ways.met way.1 = false) :
    (ways.meet p way).unmet + 1 = ways.unmet := by
  have hlt : way.1 < ways.seen.toList.length := by
    refine Nat.lt_of_not_le fun hge ↦ Bool.false_ne_true ?_
    rw [← h, Ways.met, Array.getElem?_eq_none hge]
    rfl
  have hfalse : ways.seen.toList[way.1] = false := by
    rw [Ways.met, Array.getElem?_eq_getElem hlt] at h
    exact h
  have hpos : 0 < ways.seen.toList.count false :=
    List.count_pos_iff.mpr (hfalse ▸ List.getElem_mem hlt)
  rw [Ways.unmet, Ways.meet, Array.toList_setIfInBounds, List.count_set hlt, hfalse]
  exact Nat.sub_add_cancel hpos

/-- Which addresses come next does not depend on what has been noted. -/
theorem map_fst_onward (p : Program) (before after : Option Char) (offset address : Nat)
    (slots slots' : Slots) :
    (p.onward before after offset (address, slots)).map Prod.fst
      = (p.onward before after offset (address, slots')).map Prod.fst := by
  simp only [onward]
  cases p.steps[address]? with
  | none => rfl
  | some step =>
    cases step with
    | check l next => dsimp only; split <;> rfl
    | accept | take | note | choose => rfl

/-! ## Runs of the relation -/

namespace Follows

/-- One row after the other. -/
theorem append (h : Follows p before after offset row ways ways₁)
    (h' : Follows p before after offset row' ways₁ ways₂) :
    Follows p before after offset (row ++ row') ways ways₂ := by
  induction h with
  | nil => exact h'
  | skip hmet _ ih => exact .skip hmet (ih h')
  | meet hmet _ ih =>
    have hrow := ih h'
    rw [List.append_assoc] at hrow
    exact .meet hmet hrow

/-- Ways that are all given up may be left out. -/
theorem of_append (h : Follows p before after offset (row ++ row') ways ways')
    (hrow : ∀ way ∈ row, ways.met way.1 = true) :
    Follows p before after offset row' ways ways' := by
  induction row with
  | nil => exact h
  | cons way row ih =>
    obtain ⟨hmet, hrow⟩ := List.forall_mem_cons.mp hrow
    cases h with
    | skip _ h => exact ih h hrow
    | meet hunmet => exact absurd (hunmet.symm.trans hmet) Bool.false_ne_true

/-- There is one outcome. -/
theorem unique (h : Follows p before after offset row ways ways₁)
    (h' : Follows p before after offset row ways ways₂) : ways₁ = ways₂ := by
  induction h with
  | nil =>
    cases h'
    rfl
  | skip hmet _ ih =>
    cases h' with
    | skip _ h' => exact ih h'
    | meet hunmet => exact absurd (hunmet.symm.trans hmet) Bool.false_ne_true
  | meet hunmet _ ih =>
    cases h' with
    | skip hmet => exact absurd (hunmet.symm.trans hmet) Bool.false_ne_true
    | meet _ h' => exact ih h'

/-- What ways keep that meet addresses, one after the other, and what the ways that are followed
keep that go on. -/
theorem keeps {P : Ways → Prop} {Q : Nat × Slots → Prop}
    (h : Follows p before after offset row ways ways')
    (honward : ∀ way, Q way → ∀ way' ∈ p.onward before after offset way, Q way')
    (hmeet : ∀ ways way, ways.met way.1 = false → Q way → P ways → P (ways.meet p way))
    (hrow : ∀ way ∈ row, Q way) (hways : P ways) : P ways' := by
  induction h with
  | nil => exact hways
  | skip _ _ ih => exact ih (List.forall_mem_cons.mp hrow).2 hways
  | meet hunmet _ ih =>
    obtain ⟨hway, hrow⟩ := List.forall_mem_cons.mp hrow
    refine ih (fun way' hway' ↦ ?_) (hmeet _ _ hunmet hway hways)
    exact (List.mem_append.mp hway').elim (honward _ hway way') (hrow way')

/-- No more addresses are left than before. -/
theorem unmet_le (h : Follows p before after offset row ways ways') : ways'.unmet ≤ ways.unmet :=
  h.keeps (P := fun ways' ↦ ways'.unmet ≤ ways.unmet) (Q := fun _ ↦ True) (fun _ _ _ _ ↦ trivial)
    (fun _ _ hunmet _ hle ↦ Nat.le_of_succ_le (Nat.le_trans (Nat.le_of_eq (unmet_meet hunmet)) hle))
    (fun _ _ ↦ trivial) (Nat.le_refl _)

theorem size_eq (h : Follows p before after offset row ways ways') :
    ways'.seen.size = ways.seen.size :=
  h.keeps (P := fun ways' ↦ ways'.seen.size = ways.seen.size) (Q := fun _ ↦ True)
    (fun _ _ _ _ ↦ trivial) (fun _ _ _ _ heq ↦ Array.size_setIfInBounds.trans heq)
    (fun _ _ ↦ trivial) rfl

/-- What has been met stays met. -/
theorem met_of_met (h : Follows p before after offset row ways ways')
    (hmet : ways.met address = true) : ways'.met address = true :=
  h.keeps (P := fun ways' ↦ ways'.met address = true) (Q := fun _ ↦ True) (fun _ _ _ _ ↦ trivial)
    (fun ways way _ _ hmet ↦ by rw [met_meet, hmet, Bool.true_or]) (fun _ _ ↦ trivial) hmet

/-- What waits goes on waiting. -/
theorem mem_waiting (h : Follows p before after offset row ways ways')
    (hway : way ∈ ways.waiting.toList) : way ∈ ways'.waiting.toList := by
  refine h.keeps (P := fun ways' ↦ way ∈ ways'.waiting.toList) (Q := fun _ ↦ True)
    (fun _ _ _ _ ↦ trivial) (fun ways way' _ _ hmem ↦ ?_) (fun _ _ ↦ trivial) hway
  rw [Ways.meet]
  split
  · rw [Array.toList_push]
    exact List.mem_append_left _ hmem
  · exact hmem

/-- Every way of the row is met. -/
theorem met_of_mem (h : Follows p before after offset row ways ways') (hway : way ∈ row) :
    ways'.met way.1 = true := by
  induction h with
  | nil => exact absurd hway List.not_mem_nil
  | skip hmet hrow ih =>
    rcases List.mem_cons.mp hway with rfl | hway
    · exact hrow.met_of_met hmet
    · exact ih hway
  | @meet way' _ ways _ _ hrow ih =>
    rcases List.mem_cons.mp hway with rfl | hway
    · refine hrow.met_of_met ?_
      rw [met_meet, BEq.rfl, Bool.or_true]
    · exact ih (List.mem_append_right _ hway)

end Follows

/-- The ways that a program follows, with as many rounds as there are addresses left. -/
theorem follows_follow (p : Program) (before after : Option Char) (offset : Nat)
    (hrounds : ways.unmet ≤ rounds) (address : Nat) (slots : Slots) :
    Follows p before after offset [(address, slots)] ways
      (p.follow before after offset rounds address slots ways) := by
  induction rounds generalizing address slots ways with
  | zero =>
    cases hmet : ways.met address with
    | true => exact .skip hmet .nil
    | false =>
      have hunmet : (ways.meet p (address, slots)).unmet + 1 = ways.unmet := unmet_meet hmet
      exact absurd (Nat.le_trans (Nat.le_of_eq hunmet) hrounds) (Nat.not_succ_le_zero _)
  | succ rounds ih =>
    rw [follow]
    cases hmet : (ways.seen[address]?).getD true with
    | true => exact .skip hmet .nil
    | false =>
      rw [if_neg Bool.false_ne_true]
      refine .meet hmet ?_
      have hunmet : (ways.meet p (address, slots)).unmet ≤ rounds :=
        Nat.le_of_succ_le_succ (Nat.le_trans (Nat.le_of_eq (unmet_meet hmet)) hrounds)
      cases hstep : p.steps[address]? with
      | none =>
        simp only [onward, Ways.meet, waits, hstep]
        exact .nil
      | some step =>
        cases step with
        | accept | take =>
          simp only [onward, Ways.meet, waits, hstep]
          exact .nil
        | check l next =>
          simp only [onward, Ways.meet, waits, hstep] at hunmet ⊢
          split
          · exact ih hunmet next slots
          · exact .nil
        | note slot next =>
          simp only [onward, Ways.meet, waits, hstep] at hunmet ⊢
          exact ih hunmet next _
        | choose first second =>
          simp only [onward, Ways.meet, waits, hstep] at hunmet ⊢
          have hfirst := ih hunmet first slots
          exact hfirst.append (ih (Nat.le_trans hfirst.unmet_le hunmet) second slots)

/-! ## Ways that have been followed to their ends -/

/-- All ways have been followed: those that go on from an address met have been met, and where an
address met says so a way waits. -/
structure Ways.IsComplete (ways : Ways) (p : Program) (before after : Option Char) (offset : Nat) :
    Prop where
  /-- There is a mark for each address. -/
  size : ways.seen.size = p.steps.size
  /-- The ways that go on have been met. -/
  onward : ∀ way, ways.met way.1 = true → ∀ way' ∈ p.onward before after offset way,
    ways.met way'.1 = true
  /-- There is a way that waits. -/
  waiting : ∀ address, ways.met address = true → p.waits address = true →
    ∃ slots, (address, slots) ∈ ways.waiting.toList

theorem isComplete_noWays (p : Program) (before after : Option Char) (offset : Nat) :
    p.noWays.IsComplete p before after offset := by
  have hmissing (address : Nat) (h : p.noWays.met address = true) : p.steps[address]? = none := by
    rw [met_noWays, decide_eq_true_eq] at h
    exact Array.getElem?_eq_none h
  refine ⟨Array.size_replicate, fun way hmet way' hway' ↦ ?_, fun address hmet hwaits ↦ ?_⟩
  · rw [Program.onward, hmissing _ hmet] at hway'
    exact absurd hway' List.not_mem_nil
  · rw [waits, hmissing _ hmet] at hwaits
    exact absurd hwaits Bool.false_ne_true

theorem Ways.IsComplete.unmet_le (h : ways.IsComplete p before after offset) :
    ways.unmet ≤ p.steps.size :=
  h.size ▸ unmet_le_size ways

/-- An address that is met on the way has been followed to its ends. -/
theorem Follows.settled (h : Follows p before after offset row ways ways') (address : Nat)
    (hmet : ways'.met address = true) :
    ways.met address = true ∨
      (∀ slots, ∀ way ∈ p.onward before after offset (address, slots), ways'.met way.1 = true) ∧
        (p.waits address = true → ∃ slots, (address, slots) ∈ ways'.waiting.toList) := by
  induction h with
  | nil => exact .inl hmet
  | skip _ _ ih => exact ih hmet
  | @meet way row ways ways' hunmet hrow ih =>
    refine (ih hmet).elim (fun hearlier ↦ ?_) .inr
    rw [met_meet, Bool.or_eq_true, beq_iff_eq] at hearlier
    refine hearlier.imp_right ?_
    rintro rfl
    refine ⟨fun slots way' hway' ↦ ?_, fun hwaits ↦ ⟨way.2, hrow.mem_waiting ?_⟩⟩
    · have hsame : way'.1 ∈ (p.onward before after offset way).map Prod.fst :=
        p.map_fst_onward before after offset way.1 slots way.2 ▸ List.mem_map_of_mem hway'
      obtain ⟨way'', hway'', heq⟩ := List.mem_map.mp hsame
      exact heq ▸ hrow.met_of_mem (List.mem_append_left row hway'')
    · rw [Ways.meet, if_pos hwaits, Array.toList_push]
      exact List.mem_append_right _ List.mem_cons_self

/-- Following more ways keeps them complete. -/
theorem Follows.isComplete (h : Follows p before after offset row ways ways')
    (hways : ways.IsComplete p before after offset) : ways'.IsComplete p before after offset := by
  refine ⟨h.size_eq.trans hways.size, fun way hmet way' hway' ↦ ?_, fun address hmet hwaits ↦ ?_⟩
  · rcases h.settled way.1 hmet with hearlier | ⟨honward, -⟩
    · exact h.met_of_met (hways.onward way hearlier way' hway')
    · exact honward way.2 way' hway'
  · rcases h.settled address hmet with hearlier | ⟨-, hwaiting⟩
    · obtain ⟨slots, hslots⟩ := hways.waiting address hearlier hwaits
      exact ⟨slots, h.mem_waiting hslots⟩
    · exact hwaiting hwaits

/-! ## Following with other ways there -/

/-- The ways are others on top of a base: what is met in either of them is met, and those that wait
at an address met in the base are left out. -/
structure Ways.IsOver (ways base ways' : Ways) : Prop where
  /-- What is met. -/
  met : ∀ address, ways.met address = (base.met address || ways'.met address)
  /-- What waits. -/
  waiting : ways.waiting.toList
    = base.waiting.toList ++ ways'.waiting.toList.filter fun way ↦ !base.met way.1

/-- Complete ways are no ways on top of them. -/
theorem Ways.IsComplete.isOver (h : base.IsComplete p before after offset) :
    base.IsOver base p.noWays := by
  refine ⟨fun address ↦ ?_, (List.append_nil _).symm⟩
  cases hmet : p.noWays.met address with
  | false => exact (Bool.or_false _).symm
  | true =>
    rw [met_noWays, decide_eq_true_eq] at hmet
    rw [Bool.or_true, Ways.met, Array.getElem?_eq_none (h.size.symm ▸ hmet)]
    rfl

/-- To meet an address that the base has met changes nothing. -/
theorem Ways.IsOver.meet_of_met (h : ways.IsOver base ways') (hmet : base.met way.1 = true) :
    ways.IsOver base (ways'.meet p way) := by
  refine ⟨fun address ↦ ?_, ?_⟩
  · rw [met_meet, h.met]
    by_cases heq : way.1 = address
    · rw [← heq, hmet, Bool.true_or, Bool.true_or]
    · rw [beq_false_of_ne heq, Bool.or_false]
  · rw [h.waiting, Ways.meet]
    split
    · rw [Array.toList_push, List.filter_append, List.filter_cons_of_neg (by rw [hmet]; decide),
        List.filter_nil, List.append_nil]
    · rfl

/-- To meet another address is the same with and without the base. -/
theorem Ways.IsOver.meet (h : ways.IsOver base ways') (hmet : base.met way.1 = false) :
    (ways.meet p way).IsOver base (ways'.meet p way) := by
  refine ⟨fun address ↦ ?_, ?_⟩
  · rw [met_meet, met_meet, h.met, Bool.or_assoc]
  · simp only [Ways.meet]
    split
    · rw [Array.toList_push, Array.toList_push, h.waiting, List.filter_append,
        List.filter_cons_of_pos (by rw [hmet]; rfl), List.filter_nil, List.append_assoc]
    · exact h.waiting

/-- Ways that are followed with a base there are those followed without it, on top of the base. -/
theorem Follows.over (h : Follows p before after offset row ways₁ ways₂)
    (hbase : base.IsComplete p before after offset) (hover : ways.IsOver base ways₁) :
    ∃ ways', Follows p before after offset row ways ways' ∧ ways'.IsOver base ways₂ := by
  induction h generalizing ways with
  | nil => exact ⟨ways, .nil, hover⟩
  | skip hmet _ ih =>
    obtain ⟨ways', hrow, hover'⟩ := ih hover
    refine ⟨ways', .skip ?_ hrow, hover'⟩
    rw [hover.met, hmet, Bool.or_true]
  | @meet way row ways₁ ways₂ hunmet _ ih =>
    cases hmet : base.met way.1 with
    | true =>
      -- without the base the way goes on, but only to addresses that the base has met
      obtain ⟨ways', hrow, hover'⟩ := ih (hover.meet_of_met hmet)
      refine ⟨ways', .skip ?_ (hrow.of_append fun way' hway' ↦ ?_), hover'⟩
      · rw [hover.met, hmet, Bool.true_or]
      · rw [hover.met, hbase.onward way hmet way' hway', Bool.true_or]
    | false =>
      obtain ⟨ways', hrow, hover'⟩ := ih (hover.meet hmet)
      refine ⟨ways', .meet ?_ hrow, hover'⟩
      rw [hover.met, hmet, hunmet, Bool.or_false]

/-! ## Following with other offsets noted -/

/-- The ways are others but for what has been noted on them. -/
structure Ways.IsLike (ways ways' : Ways) : Prop where
  /-- What is met. -/
  met : ∀ address, ways.met address = ways'.met address
  /-- Where ways wait. -/
  waiting : ways.waiting.toList.map Prod.fst = ways'.waiting.toList.map Prod.fst

theorem Ways.IsLike.refl (ways : Ways) : ways.IsLike ways := ⟨fun _ ↦ rfl, rfl⟩

theorem Ways.IsLike.meet (h : ways.IsLike ways') (address : Nat) (slots slots' : Slots) :
    (ways.meet p (address, slots)).IsLike (ways'.meet p (address, slots')) := by
  refine ⟨fun address' ↦ ?_, ?_⟩
  · rw [met_meet, met_meet, h.met]
  · simp only [Ways.meet]
    split
    · simp only [Array.toList_push, List.map_append, h.waiting, List.map_cons, List.map_nil]
    · exact h.waiting

/-- What has been noted makes no difference to where ways lead. -/
theorem Follows.like (h : Follows p before after offset row ways₁ ways₂)
    (hrow : row.map Prod.fst = row'.map Prod.fst) (hlike : ways₁.IsLike ways) :
    ∃ ways', Follows p before after offset row' ways ways' ∧ ways₂.IsLike ways' := by
  induction h generalizing row' ways with
  | nil =>
    obtain rfl := List.map_eq_nil_iff.mp hrow.symm
    exact ⟨ways, .nil, hlike⟩
  | skip hmet _ ih =>
    obtain ⟨way', row', rfl, heq, hrow⟩ := List.map_eq_cons_iff.mp hrow.symm
    obtain ⟨ways', hfollows, hlike'⟩ := ih hrow.symm hlike
    refine ⟨ways', .skip ?_ hfollows, hlike'⟩
    rw [heq, ← hlike.met, hmet]
  | @meet way row ways₁ ways₂ hunmet _ ih =>
    obtain ⟨⟨address, slots⟩, row', rfl, rfl, htail⟩ := List.map_eq_cons_iff.mp hrow.symm
    have honward : (p.onward before after offset way ++ row).map Prod.fst
        = (p.onward before after offset (way.1, slots) ++ row').map Prod.fst := by
      rw [List.map_append, List.map_append, htail,
        p.map_fst_onward before after offset way.1 way.2 slots]
    obtain ⟨ways', hfollows, hlike'⟩ := ih honward (hlike.meet way.1 way.2 slots)
    refine ⟨ways', .meet ?_ hfollows, hlike'⟩
    rw [← hlike.met, hunmet]

end LineEditor.Pattern.Program
