import LineEditor.Proofs.Document.Following
import LineEditor.Proofs.Document.Numbers

/-!
# Which ranges follow edits

The list of tracked ranges is kept in several places: ranges enter it and leave it when they are
told to, marks enter it when they are set and leave it when their name goes to another place or is
taken away, and an edit of the text frees the places of ranges that have been given up.

Whoever has made a range may do with it what ranges allow, until it is given up. The ranges that
belong to marks are nobody's: they come and go with the names. Along every such run the list keeps
to this: a mark is in it as long as it has its name and not after, and a range is in it from the
time it is told to follow edits to the time it is told not to.
-/

namespace LineEditor

/-- What can be done with the ranges, the marks and the text of a document. -/
inductive RangeCall where
  /-- A range is made. -/
  | hold (b : Bounds)
  /-- The bounds of a range are set. -/
  | moveTo (id : RangeId) (b : Bounds)
  /-- A range is given up. -/
  | drop (id : RangeId)
  /-- A range is to follow edits. -/
  | track (id : RangeId)
  /-- A range is to stay where it is. -/
  | untrack (id : RangeId)
  /-- Bounds are given a name. -/
  | setMark (name : Text) (b : Bounds)
  /-- A mark loses its name. -/
  | removeMark (name : Text)
  /-- The bounds of a range are given a name. -/
  | bookmark (id : RangeId) (name : Text)
  /-- The text is edited, or a step is made in the history. -/
  | edit (op : Operation)

namespace RangeCall

variable {call : RangeCall} {calls : List RangeCall} {id : RangeId}

/-- The document after a call. -/
def perform (call : RangeCall) (d : Document) : Document :=
  match call with
  | hold b => { d with ranges := (d.ranges.hold { bounds := b }).2 }
  | moveTo id b => d.moveTo id b
  | drop id => { d with ranges := d.ranges.drop id }
  | track id => { d with ranges := d.ranges.track id }
  | untrack id => { d with ranges := d.ranges.untrack id }
  | setMark name b => d.setMark name b
  | removeMark name => d.removeMark name
  | bookmark id name => d.bookmark id name
  | edit op => op.perform d

/-- The range through which a call is made. -/
def range? : RangeCall → Option RangeId
  | moveTo id _ | drop id | track id | untrack id | bookmark id _ => some id
  | edit op => op.written?
  | hold _ | setMark _ _ | removeMark _ => none

/-- Of the calls made, the last one first, one has told the range to follow edits, and none after
it has told it not to. -/
def IsLive (calls : List RangeCall) (id : RangeId) : Prop :=
  ∃ later earlier, calls = later ++ track id :: earlier ∧ untrack id ∉ later

theorem not_isLive_nil (id : RangeId) : ¬ IsLive [] id := by
  rintro ⟨later, earlier, heq, -⟩
  exact List.append_ne_nil_of_right_ne_nil later (List.cons_ne_nil _ _) heq.symm

/-- Only being told so begins it or ends it. -/
theorem isLive_cons : IsLive (call :: calls) id ↔
    call = track id ∨ call ≠ untrack id ∧ IsLive calls id := by
  constructor
  · rintro ⟨later, earlier, heq, hnone⟩
    rcases later with - | ⟨c, later⟩
    · exact .inl (List.cons.inj heq).1
    · obtain ⟨rfl, rfl⟩ := List.cons.inj heq
      rw [List.mem_cons, not_or] at hnone
      exact .inr ⟨Ne.symm hnone.1, later, earlier, rfl, hnone.2⟩
  · rintro (rfl | ⟨hne, later, earlier, rfl, hnone⟩)
    · exact ⟨[], calls, rfl, List.not_mem_nil⟩
    · refine ⟨call :: later, earlier, rfl, ?_⟩
      rw [List.mem_cons, not_or]
      exact ⟨hne.symm, hnone⟩

theorem isLive_cons_of_ne (htrack : call ≠ track id) (huntrack : call ≠ untrack id) :
    IsLive (call :: calls) id ↔ IsLive calls id := by
  rw [isLive_cons, or_iff_right htrack, and_iff_right huntrack]

end RangeCall

/-- A range that someone holds, which is not that of a mark. -/
structure Document.HasRange (d : Document) (id : RangeId) : Prop where
  /-- There is such a range. -/
  isHeld : d.ranges.isHeld id
  /-- It belongs to no name. -/
  marks_ne : ∀ name, d.marks.get? name ≠ some id

/-- Calls are made through ranges that there are. -/
def RangeCall.IsAllowed (call : RangeCall) (d : Document) : Prop :=
  ∀ id, call.range? = some id → d.HasRange id

/-! ## Which ranges are held -/

namespace Ranges

variable {r : Ranges} {id other : RangeId} {range : Range}

theorem isHeld_put : (r.put other range).isHeld id ↔ other = id ∨ r.isHeld id := by
  rw [isHeld, put, Table.get?_insert]
  split
  · next h => exact iff_of_true rfl (.inl h)
  · next h => exact (or_iff_right h).symm

theorem isHeld_put_of_isHeld (h : r.isHeld other) :
    (r.put other range).isHeld id ↔ r.isHeld id := by
  refine isHeld_put.trans (or_iff_right_of_imp ?_)
  rintro rfl
  exact h

theorem isHeld_hold : (r.hold range).2.isHeld id ↔ r.fresh = id ∨ r.isHeld id := isHeld_put

theorem isHeld_drop : (r.drop other).isHeld id ↔ r.isHeld id ∧ other ≠ id := by
  rw [isHeld, drop, Table.get?_erase]
  split
  · next h => exact iff_of_false Bool.false_ne_true fun h' ↦ h'.2 h
  · next h => exact (and_iff_left h).symm

theorem isHeld_rebase (e : Edit) : (r.rebase e).isHeld id ↔ r.isHeld id := by
  rw [isHeld, get?_held_rebase, Option.isSome_map, isHeld]

theorem isTracked_track_iff : (r.track other).isTracked id ↔ other = id ∨ r.isTracked id := by
  constructor
  · intro h
    exact (isTracked_of_track h).imp_left Eq.symm
  · rintro (rfl | h)
    · exact r.isTracked_track other
    · by_cases heq : id = other
      · exact heq ▸ r.isTracked_track id
      · rwa [isTracked_track_of_ne heq]

theorem isTracked_untrack_iff : (r.untrack other).isTracked id ↔ r.isTracked id ∧ other ≠ id := by
  by_cases heq : other = id
  · rw [heq, isTracked_untrack]
    exact iff_of_false Bool.false_ne_true fun h ↦ h.2 rfl
  · rw [isTracked_untrack_of_ne (Ne.symm heq), and_iff_left heq]

theorem isHeld_track : (r.track other).isHeld id ↔ r.isHeld id := by
  rw [isHeld, held_track, isHeld]

theorem nodup_tracked_untrack (h : r.tracked.Nodup) (id : RangeId) :
    (r.untrack id).tracked.Nodup := h.filter _

/-- The ranges without the one that a mark has had, if there was one. -/
def without (r : Ranges) : Option RangeId → Ranges
  | some old => (r.untrack old).drop old
  | none => r

variable {old? : Option RangeId}

theorem isTracked_without : (r.without old?).isTracked id ↔ r.isTracked id ∧ old? ≠ some id := by
  cases old? with
  | none => exact (and_iff_left nofun).symm
  | some old =>
    rw [Ne, Option.some.injEq]
    exact isTracked_untrack_iff

theorem isHeld_without : (r.without old?).isHeld id ↔ r.isHeld id ∧ old? ≠ some id := by
  cases old? with
  | none => exact (and_iff_left nofun).symm
  | some old =>
    rw [Ne, Option.some.injEq]
    exact isHeld_drop

theorem nodup_tracked_without (h : r.tracked.Nodup) (old? : Option RangeId) :
    (r.without old?).tracked.Nodup := by
  cases old? with
  | none => exact h
  | some old => exact nodup_tracked_untrack h old

theorem fresh_without (r : Ranges) (old? : Option RangeId) :
    (r.without old?).fresh = r.fresh := by
  cases old? <;> rfl

end Ranges

namespace Document

variable {d d' : Document} {calls : List RangeCall} {id m : RangeId} {name : Text}

/-- A document comes of another by calls, the last one first. -/
inductive RunsTo (d₀ : Document) : List RangeCall → Document → Prop
  | start : RunsTo d₀ [] d₀
  | step {calls : List RangeCall} {d : Document} (h : RunsTo d₀ calls d) (call : RangeCall)
    (hcall : call.IsAllowed d) : RunsTo d₀ (call :: calls) (call.perform d)

/-! ## What an edit does to the ranges -/

/-- What an edit does to the ranges: they are held and named as before, and the places of those
given up are freed, or else the text is what it was. -/
structure Rebases (d d' : Document) : Prop where
  /-- The marks name the same ranges. -/
  marks : d'.marks = d.marks
  /-- The next number is the same. -/
  fresh : d'.ranges.fresh = d.ranges.fresh
  /-- There are the same ranges. -/
  isHeld : ∀ id, d'.ranges.isHeld id ↔ d.ranges.isHeld id
  /-- Only ranges that are held follow edits from now on, if this was one. -/
  tracked : d'.text = d.text ∧ d'.ranges.tracked = d.ranges.tracked ∨
    d'.ranges.tracked = d.ranges.tracked.filter d.ranges.isHeld

namespace Rebases

theorem of_eq (htext : d'.text = d.text) (hmarks : d'.marks = d.marks)
    (hranges : d'.ranges = d.ranges) : d.Rebases d' := by
  refine ⟨hmarks, ?_, fun id ↦ ?_, .inl ⟨htext, ?_⟩⟩ <;> rw [hranges]

/-- What is done afterwards to something else makes no difference. -/
theorem of_rebases {d₁ : Document} (h : d.Rebases d₁) (htext : d'.text = d₁.text)
    (hmarks : d'.marks = d₁.marks) (hranges : d'.ranges = d₁.ranges) : d.Rebases d' := by
  refine ⟨hmarks.trans h.marks, ?_, fun id ↦ ?_, ?_⟩
  · rw [hranges, h.fresh]
  · rw [hranges, h.isHeld id]
  · rw [hranges, htext]
    exact h.tracked

theorem settle {d₁ : Document} (hmarks : d₁.marks = d.marks) (hranges : d₁.ranges = d.ranges)
    (kind : EditKind) (e : Edit) : d.Rebases (d₁.settle kind e) := by
  have hsettled : (d₁.settle kind e).ranges = d.ranges.rebase e := hranges ▸ rfl
  refine ⟨hmarks, ?_, fun id ↦ ?_, .inr ?_⟩
  all_goals
    rw [hsettled]
  · rfl
  · exact Ranges.isHeld_rebase e
  · rfl

theorem replace (d : Document) (start stop : Nat) (piece : Text) (kind : EditKind) :
    d.Rebases (d.replace start stop piece kind).2 := by
  cases he : (d.replace start stop piece kind).1 with
  | none =>
    rw [replace_of_none he]
    exact of_eq rfl rfl rfl
  | some e =>
    rw [replace_of_some he]
    refine settle ?_ ?_ kind e
    all_goals rfl

theorem absorb (d : Document) (s : Surface) (kind : EditKind) (caret : Option Nat) :
    d.Rebases (d.absorb s kind caret).2 := by
  rw [absorb_eq]
  cases he : (d.absorb s kind caret).1 with
  | none => exact of_eq (fst_absorb_eq_none_iff.mp he).symm rfl rfl
  | some e =>
    change d.Rebases ({ d with surface := s }.settle kind e)
    refine settle ?_ ?_ kind e
    all_goals rfl

/-- A range that there is may be set afterwards. -/
theorem moveTo (h : d.Rebases d') (hid : d.ranges.isHeld id) (b : Bounds) :
    d.Rebases (d'.moveTo id b) := by
  have hheld : d'.ranges.isHeld id := (h.isHeld id).mpr hid
  refine ⟨h.marks, h.fresh, fun other ↦ ?_, h.tracked⟩
  exact (Ranges.isHeld_put_of_isHeld hheld).trans (h.isHeld other)

theorem replay (d : Document) (history : History) (kind : EditKind) (e : Edit) :
    d.Rebases ({ d with history := history }.replay kind e).2 := by
  have h := replace { d with history := history } e.start e.oldEnd e.inserted kind
  have hd : d.Rebases ({ d with history := history }.replace e.start e.oldEnd e.inserted kind).2 :=
    ⟨h.marks, h.fresh, h.isHeld, h.tracked⟩
  refine hd.of_rebases (text_select _ _) ?_ ?_
  all_goals
    rw [Document.replay, select]
    split <;> rfl

/-- Every operation does this, if it is made through a range that there is. -/
theorem perform {op : Operation} (hop : ∀ id, op.written? = some id → d.ranges.isHeld id) :
    d.Rebases (op.perform d) := by
  cases op with
  | replace start stop piece kind => exact replace d start stop piece kind
  | write id piece kind indent => exact (replace d _ _ _ kind).moveTo (hop id rfl) _
  | editNative kind edit => exact absorb d _ kind _
  | absorb s kind caret => exact absorb d s kind caret
  | openGroup =>
    refine of_eq (congrArg Surface.text d.openGroup_spec.2.2) ?_ ?_
    all_goals
      rw [Operation.perform, openGroup]
      split <;> rfl
  | closeGroup =>
    refine of_eq (congrArg Surface.text d.surface_closeGroup) ?_ ?_
    all_goals
      rw [Operation.perform, closeGroup]
      split <;> rfl
  | clearHistory => exact of_eq rfl rfl rfl
  | undo =>
    rw [Operation.perform, undoStep, undo?]
    cases d.history.back? with
    | none => exact of_eq rfl rfl rfl
    | some p => exact replay d p.2 .undo p.1.edit.inverse
  | redo =>
    rw [Operation.perform, redoStep, redo?]
    cases d.history.forward? with
    | none => exact of_eq rfl rfl rfl
    | some p => exact replay d p.2 .redo p.1.edit

/-- Where the text has changed, only ranges that are held follow edits. -/
theorem isHeld_of_isTracked (h : d.Rebases d') (htext : d'.text ≠ d.text)
    (hid : d'.ranges.isTracked id) : d'.ranges.isHeld id := by
  rcases h.tracked with ⟨hsame, -⟩ | htracked
  · exact absurd hsame htext
  · rw [Ranges.isTracked, htracked, List.contains_iff_mem] at hid
    exact (h.isHeld id).mpr (List.mem_filter.mp hid).2

end Rebases

/-! ## Calls about names -/

/-- What a call about a name does: the name goes to a new range, which follows edits, or to none,
and the range that had it is there no more. -/
structure Rebinds (d : Document) (name : Text) (new? : Option RangeId) (d' : Document) : Prop where
  /-- All other marks stay. -/
  marks : ∀ other, d'.marks.get? other = if name = other then new? else d.marks.get? other
  /-- No number is given away a second time. -/
  fresh_le : d.ranges.fresh ≤ d'.ranges.fresh
  /-- The new range has got a new number. -/
  new_lt : ∀ id, new? = some id → d.ranges.fresh ≤ id ∧ id < d'.ranges.fresh
  /-- No range gets a second place. -/
  nodup : d.ranges.tracked.Nodup → d'.ranges.tracked.Nodup
  /-- Besides the new range, all are there but the old one. -/
  isHeld : ∀ id, d'.ranges.isHeld id ↔
    new? = some id ∨ d.ranges.isHeld id ∧ d.marks.get? name ≠ some id
  /-- Besides the new range, all follow edits as before but the old one. -/
  isTracked : ∀ id, d'.ranges.isTracked id ↔
    new? = some id ∨ d.ranges.isTracked id ∧ d.marks.get? name ≠ some id

theorem rebinds_setMark (hfresh : d.marks.get? name ≠ some d.ranges.fresh) (b : Bounds) :
    d.Rebinds name (some d.ranges.fresh) (d.setMark name b) := by
  have hranges : (d.setMark name b).ranges
      = ((d.ranges.hold { bounds := b }).2.track d.ranges.fresh).without (d.marks.get? name) := by
    rw [setMark]
    cases d.marks.get? name <;> rfl
  have hnext := d.fresh_setMark name b
  refine ⟨fun other ↦ d.get?_marks_setMark name other b, hnext ▸ Nat.le_succ _, ?_, ?_, ?_, ?_⟩
  · intro id hid
    rw [← Option.some.inj hid, hnext]
    exact ⟨Nat.le_refl _, Nat.lt_succ_self _⟩
  · intro hnodup
    have hheld : (d.ranges.hold { bounds := b }).2.tracked.Nodup := hnodup
    rw [hranges]
    exact Ranges.nodup_tracked_without (Ranges.nodup_tracked_track hheld _) _
  -- the range of the new mark is not given up
  all_goals
    intro id
    rw [hranges]
  · rw [Ranges.isHeld_without, Ranges.isHeld_track, Ranges.isHeld_hold, Option.some.injEq,
      or_and_right, and_iff_left_of_imp]
    rintro rfl
    exact hfresh
  · rw [Ranges.isTracked_without, Ranges.isTracked_track_iff, Option.some.injEq, or_and_right,
      and_iff_left_of_imp]
    · rfl
    · rintro rfl
      exact hfresh

theorem rebinds_removeMark (d : Document) (name : Text) :
    d.Rebinds name none (d.removeMark name) := by
  have hranges : (d.removeMark name).ranges = d.ranges.without (d.marks.get? name) := by
    rw [removeMark]
    cases d.marks.get? name <;> rfl
  have hmarks (other : Text) : (d.removeMark name).marks.get? other
      = if name = other then none else d.marks.get? other := by
    unfold removeMark
    split
    · exact Table.get?_erase name other d.marks
    · next hnone =>
      split
      · next heq => exact heq ▸ hnone
      · rfl
  have hnone (id : RangeId) : (none : Option RangeId) ≠ some id := (Option.some_ne_none id).symm
  refine ⟨hmarks, ?_, fun id hid ↦ absurd hid (hnone id), ?_, ?_, ?_⟩
  all_goals
    rw [hranges]
  · exact Nat.le_of_eq (Ranges.fresh_without _ _).symm
  · intro hnodup
    exact Ranges.nodup_tracked_without hnodup _
  · intro id
    rw [Ranges.isHeld_without, or_iff_right (hnone id)]
  · intro id
    rw [Ranges.isTracked_without, or_iff_right (hnone id)]

/-- A mark is the new one, or one that has kept its name. -/
theorem Rebinds.mark_cases {new? : Option RangeId} (hd : d.Rebinds name new? d') {other : Text}
    (hm : d'.marks.get? other = some m) :
    name = other ∧ new? = some m ∨ name ≠ other ∧ d.marks.get? other = some m := by
  rw [hd.marks] at hm
  split at hm
  · next heq => exact .inl ⟨heq, hm⟩
  · next hne => exact .inr ⟨hne, hm⟩

/-- Nobody has got a range by it. -/
theorem Rebinds.hasRange {new? : Option RangeId} (hd : d.Rebinds name new? d')
    (hid : d'.HasRange id) : d.HasRange id ∧ new? ≠ some id ∧ d.marks.get? name ≠ some id := by
  have hnew : new? ≠ some id := by
    intro hnew
    refine hid.marks_ne name ?_
    rw [hd.marks, if_pos rfl, hnew]
  obtain ⟨hheld, hold⟩ := ((hd.isHeld id).mp hid.isHeld).resolve_left hnew
  refine ⟨⟨hheld, fun other hother ↦ ?_⟩, hnew, hold⟩
  by_cases hname : name = other
  · exact hold (hname ▸ hother)
  · refine hid.marks_ne other ?_
    rw [hd.marks, if_neg hname, hother]

/-! ## Calls that are not about names -/

/-- What a call does that is not about names: the marks and their ranges stay what they are, and
what there is follows edits as before, but for a range that is told otherwise. -/
structure KeepsMarks (d : Document) (call : RangeCall) (d' : Document) : Prop where
  /-- The marks name the same ranges. -/
  marks : d'.marks = d.marks
  /-- No number is given away a second time. -/
  fresh_le : d.ranges.fresh ≤ d'.ranges.fresh
  /-- Every range was there before, or it has got a new number. -/
  isHeld : ∀ id, d'.ranges.isHeld id →
    d.ranges.isHeld id ∨ d.ranges.fresh ≤ id ∧ id < d'.ranges.fresh
  /-- The ranges of marks are still there. -/
  isHeld_mark : ∀ name m, d.marks.get? name = some m → d.ranges.isHeld m → d'.ranges.isHeld m
  /-- No range gets a second place. -/
  nodup : d.ranges.tracked.Nodup → d'.ranges.tracked.Nodup
  /-- What there is follows edits as before, unless it is told otherwise. -/
  isTracked_iff : ∀ id, d.ranges.isHeld id →
    (d'.ranges.isTracked id ↔ call = .track id ∨ call ≠ .untrack id ∧ d.ranges.isTracked id)
  /-- Nothing else begins to follow edits. -/
  of_isTracked : ∀ id, d'.ranges.isTracked id → call = .track id ∨ d.ranges.isTracked id

namespace KeepsMarks

theorem hold (d : Document) (b : Bounds) :
    d.KeepsMarks (.hold b) ((RangeCall.hold b).perform d) := by
  have hheld (id : RangeId) : ((RangeCall.hold b).perform d).ranges.isHeld id ↔
      d.ranges.fresh = id ∨ d.ranges.isHeld id := Ranges.isHeld_hold
  refine ⟨rfl, Nat.le_succ _, fun id hid ↦ ?_, fun _ m _ hm ↦ ?_, id, fun id _ ↦ ?_, fun _ ↦ .inr⟩
  · rcases (hheld id).mp hid with rfl | hid
    · exact .inr ⟨Nat.le_refl _, Nat.lt_succ_self _⟩
    · exact .inl hid
  · exact (hheld m).mpr (.inr hm)
  · rw [or_iff_right nofun, and_iff_right nofun]
    rfl

theorem drop (hid : d.HasRange id) :
    d.KeepsMarks (.drop id) ((RangeCall.drop id).perform d) := by
  have hheld (other : RangeId) : ((RangeCall.drop id).perform d).ranges.isHeld other ↔
      d.ranges.isHeld other ∧ id ≠ other := Ranges.isHeld_drop
  refine ⟨rfl, Nat.le_refl _, fun other h ↦ ?_, fun name m hname hm ↦ ?_, fun h ↦ h,
    fun other _ ↦ ?_, fun _ ↦ .inr⟩
  · exact .inl ((hheld other).mp h).1
  · refine (hheld m).mpr ⟨hm, ?_⟩
    rintro rfl
    exact hid.marks_ne name hname
  · rw [or_iff_right nofun, and_iff_right nofun]
    rfl

theorem track (d : Document) (id : RangeId) :
    d.KeepsMarks (.track id) ((RangeCall.track id).perform d) := by
  have htracked (other : RangeId) : ((RangeCall.track id).perform d).ranges.isTracked other ↔
      id = other ∨ d.ranges.isTracked other := Ranges.isTracked_track_iff
  have hheld (other : RangeId) : ((RangeCall.track id).perform d).ranges.isHeld other ↔
      d.ranges.isHeld other := Ranges.isHeld_track
  refine ⟨rfl, Nat.le_of_eq (d.ranges.fresh_track id).symm, fun other h ↦ .inl ((hheld other).mp h),
    fun _ m _ hm ↦ (hheld m).mpr hm, fun h ↦ Ranges.nodup_tracked_track h id, fun other _ ↦ ?_,
    fun other h ↦ ?_⟩
  · rw [htracked, RangeCall.track.injEq, and_iff_right nofun]
  · rw [RangeCall.track.injEq]
    exact (htracked other).mp h

theorem untrack (d : Document) (id : RangeId) :
    d.KeepsMarks (.untrack id) ((RangeCall.untrack id).perform d) := by
  have htracked (other : RangeId) : ((RangeCall.untrack id).perform d).ranges.isTracked other ↔
      d.ranges.isTracked other ∧ id ≠ other := Ranges.isTracked_untrack_iff
  refine ⟨rfl, Nat.le_refl _, fun _ ↦ .inl, fun _ _ _ h ↦ h,
    fun h ↦ Ranges.nodup_tracked_untrack h id, fun other _ ↦ ?_, fun other h ↦ ?_⟩
  · rw [htracked, or_iff_right nofun, Ne, Ne, RangeCall.untrack.injEq, and_comm]
  · exact .inr ((htracked other).mp h).1

end KeepsMarks

/-- So does whatever moves ranges across an edit. -/
theorem Rebases.keepsMarks (h : d.Rebases d') {call : RangeCall}
    (hcall : ∀ id, call ≠ .track id ∧ call ≠ .untrack id) : d.KeepsMarks call d' := by
  refine ⟨h.marks, Nat.le_of_eq h.fresh.symm, fun id hid ↦ .inl ((h.isHeld id).mp hid),
    fun _ m _ hm ↦ (h.isHeld m).mpr hm, fun hnodup ↦ ?_, fun id hheld ↦ ?_, fun id hid ↦ ?_⟩
  · rcases h.tracked with ⟨-, htracked⟩ | htracked
    · exact htracked ▸ hnodup
    · exact htracked ▸ hnodup.filter _
  · rw [or_iff_right (hcall id).1, and_iff_right (hcall id).2, Ranges.isTracked, Ranges.isTracked,
      List.contains_iff_mem, List.contains_iff_mem]
    rcases h.tracked with ⟨-, htracked⟩ | htracked
    · rw [htracked]
    · rw [htracked, List.mem_filter, and_iff_left hheld]
  · rw [Ranges.isTracked, List.contains_iff_mem] at hid
    rw [or_iff_right (hcall id).1, Ranges.isTracked, List.contains_iff_mem]
    rcases h.tracked with ⟨-, htracked⟩ | htracked
    · exact htracked ▸ hid
    · exact (List.mem_filter.mp (htracked ▸ hid)).1

/-! ## What every call keeps -/

/-- The list of tracked ranges is what the calls have made of it. -/
structure ListsLive (d : Document) (calls : List RangeCall) : Prop where
  /-- No range has two places. -/
  nodup : d.ranges.tracked.Nodup
  /-- The numbers in use are in order. -/
  numbered : d.IsNumbered
  /-- The numbers of ranges have been given away. -/
  held_lt : ∀ id, d.ranges.isHeld id → id < d.ranges.fresh
  /-- So have those of the ranges that have been told to follow edits. -/
  live_lt : ∀ id, RangeCall.IsLive calls id → id < d.ranges.fresh
  /-- There is a range for every mark, and it follows edits. -/
  marks : ∀ name m, d.marks.get? name = some m → d.ranges.isHeld m ∧ d.ranges.isTracked m
  /-- A range follows edits if it has been told so. -/
  isTracked_iff : ∀ id, d.HasRange id → (d.ranges.isTracked id ↔ RangeCall.IsLive calls id)

theorem listsLive_ofSurface (s : Surface) (c : Config) : (ofSurface s c).ListsLive [] := by
  refine ⟨List.nodup_nil, ⟨nofun, nofun, fun m hm ↦ ?_⟩, fun id hid ↦ ?_, fun id hid ↦ ?_, nofun,
    fun id hid ↦ ?_⟩
  · exact absurd hm Bool.false_ne_true
  · exact absurd hid Bool.false_ne_true
  · exact (RangeCall.not_isLive_nil id hid).elim
  · exact absurd hid.isHeld Bool.false_ne_true

namespace ListsLive

variable {call : RangeCall}

theorem keepsMarks (h : d.ListsLive calls) (hd : d.KeepsMarks call d') (hcall : call.IsAllowed d) :
    d'.ListsLive (call :: calls) := by
  have hlt (id : RangeId) (hid : call = .track id) : id < d.ranges.fresh := by
    subst hid
    exact h.held_lt id (hcall id rfl).isHeld
  refine ⟨hd.nodup h.nodup, ⟨?_, ?_, ?_⟩, ?_, ?_, ?_, ?_⟩
  · intro name m hm
    exact Nat.lt_of_lt_of_le (h.numbered.marks_lt name m (hd.marks ▸ hm)) hd.fresh_le
  · rw [hd.marks]
    exact h.numbered.marks_inj
  · intro m hm
    refine Nat.lt_of_lt_of_le ?_ hd.fresh_le
    rcases hd.of_isTracked m hm with hm | hm
    · exact hlt m hm
    · exact h.numbered.tracked_lt m hm
  · intro id hid
    rcases hd.isHeld id hid with hid | ⟨-, hid⟩
    · exact Nat.lt_of_lt_of_le (h.held_lt id hid) hd.fresh_le
    · exact hid
  · intro id hid
    refine Nat.lt_of_lt_of_le ?_ hd.fresh_le
    rcases RangeCall.isLive_cons.mp hid with hid | ⟨-, hid⟩
    · exact hlt id hid
    · exact h.live_lt id hid
  · intro name m hm
    rw [hd.marks] at hm
    obtain ⟨hheld, htracked⟩ := h.marks name m hm
    refine ⟨hd.isHeld_mark name m hm hheld, (hd.isTracked_iff m hheld).mpr (.inr ⟨?_, htracked⟩)⟩
    rintro rfl
    exact (hcall m rfl).marks_ne name hm
  · intro id hid
    rw [RangeCall.isLive_cons]
    rcases hd.isHeld id hid.isHeld with hheld | ⟨hnew, -⟩
    · rw [hd.isTracked_iff id hheld, h.isTracked_iff id ⟨hheld, hd.marks ▸ hid.marks_ne⟩]
    · -- a range just made has never been told anything
      refine iff_of_false (fun htracked ↦ ?_) ?_
      · rcases hd.of_isTracked id htracked with hid | hid
        · exact Nat.not_lt_of_le hnew (hlt id hid)
        · exact Nat.not_lt_of_le hnew (h.numbered.tracked_lt id hid)
      · rintro (hid | ⟨-, hid⟩)
        · exact Nat.not_lt_of_le hnew (hlt id hid)
        · exact Nat.not_lt_of_le hnew (h.live_lt id hid)

theorem rebinds {new? : Option RangeId} (h : d.ListsLive calls) (hd : d.Rebinds name new? d')
    (hcall : ∀ id, call ≠ .track id ∧ call ≠ .untrack id) : d'.ListsLive (call :: calls) := by
  have hlive (id : RangeId) : RangeCall.IsLive (call :: calls) id ↔ RangeCall.IsLive calls id :=
    RangeCall.isLive_cons_of_ne (hcall id).1 (hcall id).2
  refine ⟨hd.nodup h.nodup, ⟨?_, ?_, ?_⟩, ?_, ?_, ?_, ?_⟩
  · intro other m hm
    rcases hd.mark_cases hm with ⟨-, hnew⟩ | ⟨-, hm⟩
    · exact (hd.new_lt m hnew).2
    · exact Nat.lt_of_lt_of_le (h.numbered.marks_lt other m hm) hd.fresh_le
  · intro first second m hfirst hsecond
    have hnone (other : Text) (hother : d.marks.get? other = some m) : new? ≠ some m := fun hnew ↦
      Nat.not_lt_of_le (hd.new_lt m hnew).1 (h.numbered.marks_lt other m hother)
    rcases hd.mark_cases hfirst with ⟨hname, hnew⟩ | ⟨-, hfirst⟩
    all_goals
      rcases hd.mark_cases hsecond with ⟨hname', hnew'⟩ | ⟨-, hsecond⟩
    · exact hname.symm.trans hname'
    · exact absurd hnew (hnone second hsecond)
    · exact absurd hnew' (hnone first hfirst)
    · exact h.numbered.marks_inj first second m hfirst hsecond
  · intro m hm
    rcases (hd.isTracked m).mp hm with hnew | ⟨hm, -⟩
    · exact (hd.new_lt m hnew).2
    · exact Nat.lt_of_lt_of_le (h.numbered.tracked_lt m hm) hd.fresh_le
  · intro id hid
    rcases (hd.isHeld id).mp hid with hnew | ⟨hid, -⟩
    · exact (hd.new_lt id hnew).2
    · exact Nat.lt_of_lt_of_le (h.held_lt id hid) hd.fresh_le
  · intro id hid
    exact Nat.lt_of_lt_of_le (h.live_lt id ((hlive id).mp hid)) hd.fresh_le
  · intro other m hm
    rcases hd.mark_cases hm with ⟨-, hnew⟩ | ⟨hne, hm⟩
    · exact ⟨(hd.isHeld m).mpr (.inl hnew), (hd.isTracked m).mpr (.inl hnew)⟩
    · have hold : d.marks.get? name ≠ some m := fun hname ↦
        hne (h.numbered.marks_inj name other m hname hm)
      obtain ⟨hheld, htracked⟩ := h.marks other m hm
      exact ⟨(hd.isHeld m).mpr (.inr ⟨hheld, hold⟩), (hd.isTracked m).mpr (.inr ⟨htracked, hold⟩)⟩
  · intro id hid
    obtain ⟨hrange, hnew, hold⟩ := hd.hasRange hid
    rw [hd.isTracked, or_iff_right hnew, and_iff_left hold, hlive]
    exact h.isTracked_iff id hrange

/-- The next number belongs to no mark. -/
theorem marks_ne_fresh (h : d.ListsLive calls) (name : Text) :
    d.marks.get? name ≠ some d.ranges.fresh :=
  fun hname ↦ Nat.lt_irrefl _ (h.numbered.marks_lt name _ hname)

end ListsLive

/-! ## What a call is -/

/-- Every call is about a name or it is not. -/
theorem ListsLive.call_cases (h : d.ListsLive calls) {call : RangeCall} (hcall : call.IsAllowed d) :
    d.KeepsMarks call (call.perform d) ∨
      ((∀ id, call ≠ .track id ∧ call ≠ .untrack id) ∧
        ∃ name new?, d.Rebinds name new? (call.perform d)) := by
  cases call with
  | hold b => exact .inl (.hold d b)
  | moveTo id b =>
    have hmoves : d.Rebases (d.moveTo id b) :=
      (Rebases.of_eq rfl rfl rfl).moveTo (hcall id rfl).isHeld b
    exact .inl (hmoves.keepsMarks fun _ ↦ ⟨nofun, nofun⟩)
  | drop id => exact .inl (.drop (hcall id rfl))
  | track id => exact .inl (.track d id)
  | untrack id => exact .inl (.untrack d id)
  | edit op =>
    have hrebases : d.Rebases (op.perform d) := .perform fun id hid ↦ (hcall id hid).isHeld
    exact .inl (hrebases.keepsMarks fun _ ↦ ⟨nofun, nofun⟩)
  | setMark name b =>
    exact .inr ⟨fun _ ↦ ⟨nofun, nofun⟩, name, _, rebinds_setMark (h.marks_ne_fresh name) b⟩
  | bookmark id name =>
    exact .inr ⟨fun _ ↦ ⟨nofun, nofun⟩, name, _, rebinds_setMark (h.marks_ne_fresh name) _⟩
  | removeMark name =>
    exact .inr ⟨fun _ ↦ ⟨nofun, nofun⟩, name, _, rebinds_removeMark d name⟩

/-- So every call keeps the list in order. -/
theorem ListsLive.perform (h : d.ListsLive calls) {call : RangeCall} (hcall : call.IsAllowed d) :
    (call.perform d).ListsLive (call :: calls) := by
  rcases h.call_cases hcall with hkeeps | ⟨hother, name, new?, hrebinds⟩
  · exact h.keepsMarks hkeeps hcall
  · exact h.rebinds hrebinds hother

theorem RunsTo.listsLive {s : Surface} {c : Config} (h : RunsTo (ofSurface s c) calls d) :
    d.ListsLive calls := by
  induction h with
  | start => exact listsLive_ofSurface s c
  | step _ call hcall ih => exact ih.perform hcall

/-! ## Marks that have lost their name -/

/-- The range with this number has been there and is there no more, nor does it have a place. -/
structure IsGone (d : Document) (id : RangeId) : Prop where
  /-- The number has been given away. -/
  lt : id < d.ranges.fresh
  /-- There is no such range. -/
  not_isHeld : ¬ d.ranges.isHeld id
  /-- It does not follow edits. -/
  not_isTracked : ¬ d.ranges.isTracked id

/-- What is gone does not come back. -/
theorem IsGone.perform (hid : d.IsGone id) (h : d.ListsLive calls) {call : RangeCall}
    (hcall : call.IsAllowed d) : (call.perform d).IsGone id := by
  rcases h.call_cases hcall with hkeeps | ⟨-, name, new?, hrebinds⟩
  · refine ⟨Nat.lt_of_lt_of_le hid.lt hkeeps.fresh_le, fun hheld ↦ ?_, fun htracked ↦ ?_⟩
    · rcases hkeeps.isHeld id hheld with hheld | ⟨hnew, -⟩
      · exact hid.not_isHeld hheld
      · exact Nat.not_lt_of_le hnew hid.lt
    · rcases hkeeps.of_isTracked id htracked with rfl | htracked
      · exact hid.not_isHeld (hcall id rfl).isHeld
      · exact hid.not_isTracked htracked
  · have hnew : new? ≠ some id := fun hnew ↦ Nat.not_lt_of_le (hrebinds.new_lt id hnew).1 hid.lt
    refine ⟨Nat.lt_of_lt_of_le hid.lt hrebinds.fresh_le, fun hheld ↦ ?_, fun htracked ↦ ?_⟩
    · exact hid.not_isHeld (((hrebinds.isHeld id).mp hheld).resolve_left hnew).1
    · exact hid.not_isTracked (((hrebinds.isTracked id).mp htracked).resolve_left hnew).1

/-- A mark keeps its range or loses it for good. -/
theorem ListsLive.mark_or_isGone (h : d.ListsLive calls) (hname : d.marks.get? name = some id)
    {call : RangeCall} (hcall : call.IsAllowed d) :
    (call.perform d).marks.get? name = some id ∨ (call.perform d).IsGone id := by
  have hlt : id < d.ranges.fresh := h.numbered.marks_lt name id hname
  rcases h.call_cases hcall with hkeeps | ⟨-, other, new?, hrebinds⟩
  · rw [hkeeps.marks]
    exact .inl hname
  · by_cases hother : other = name
    · subst hother
      have hnew : new? ≠ some id := fun hnew ↦ Nat.not_lt_of_le (hrebinds.new_lt id hnew).1 hlt
      refine .inr ⟨Nat.lt_of_lt_of_le hlt hrebinds.fresh_le, fun hheld ↦ ?_, fun htracked ↦ ?_⟩
      · exact (((hrebinds.isHeld id).mp hheld).resolve_left hnew).2 hname
      · exact (((hrebinds.isTracked id).mp htracked).resolve_left hnew).2 hname
    · rw [hrebinds.marks, if_neg hother]
      exact .inl hname

theorem RunsTo.mark_or_isGone {later : List RangeCall} (h : d.ListsLive calls)
    (hrun : RunsTo d later d') (hname : d.marks.get? name = some id) :
    d'.ListsLive (later ++ calls) ∧ (d'.marks.get? name = some id ∨ d'.IsGone id) := by
  -- what is gone stays gone only where numbers are in order, so both are carried along
  induction hrun with
  | start => exact ⟨h, .inl hname⟩
  | step _ call hcall ih =>
    obtain ⟨hlists, hkept⟩ := ih
    refine ⟨hlists.perform hcall, ?_⟩
    rcases hkept with hkept | hgone
    · exact hlists.mark_or_isGone hkept hcall
    · exact .inr (hgone.perform hlists hcall)

/-! ## Along a run -/

/-- **Which ranges follow edits.** Whatever has been done with the ranges, the marks and the text of
a document, no range has two places in the list of those that follow edits; every mark is in it; the
range of a mark that has been set anew or removed is not, and will not be; and a range that somebody
holds is in it from the time it is told to follow edits to the time it is told not to. Ranges that
have been given up may still have a place, but only until the text is edited: then the list consists
of the marks and the ranges that are there and have been told to follow edits. -/
theorem RunsTo.tracked_exactly {s : Surface} {c : Config} (h : RunsTo (ofSurface s c) calls d) :
    d.ranges.tracked.Nodup ∧
      (∀ name id, d.marks.get? name = some id → id ∈ d.ranges.tracked) ∧
      (∀ later d', RunsTo d later d' → ∀ name id, d.marks.get? name = some id →
        d'.marks.get? name ≠ some id → id ∉ d'.ranges.tracked) ∧
      (∀ id, d.HasRange id → (id ∈ d.ranges.tracked ↔ RangeCall.IsLive calls id)) ∧
      ∀ op : Operation, (RangeCall.edit op).IsAllowed d → (op.perform d).text ≠ d.text →
        ∀ id, id ∈ (op.perform d).ranges.tracked ↔
          (∃ name, (op.perform d).marks.get? name = some id) ∨
            (op.perform d).HasRange id ∧ RangeCall.IsLive calls id := by
  have hlists := h.listsLive
  have hmem (r : Ranges) (id : RangeId) : id ∈ r.tracked ↔ r.isTracked id :=
    List.contains_iff_mem.symm
  simp only [hmem]
  refine ⟨hlists.nodup, fun name id hname ↦ (hlists.marks name id hname).2, ?_,
    hlists.isTracked_iff, ?_⟩
  · intro later d' hrun name id hname hlost
    obtain ⟨-, hkept⟩ := hrun.mark_or_isGone hlists hname
    exact (hkept.resolve_left hlost).not_isTracked
  · intro op hop htext id
    have hedit : (op.perform d).ListsLive (.edit op :: calls) := hlists.perform hop
    have hrebases : d.Rebases (op.perform d) := .perform fun id hid ↦ (hop id hid).isHeld
    have hlive : RangeCall.IsLive (.edit op :: calls) id ↔ RangeCall.IsLive calls id :=
      RangeCall.isLive_cons_of_ne (by simp) (by simp)
    constructor
    · intro htracked
      by_cases hmark : ∃ name, (op.perform d).marks.get? name = some id
      · exact .inl hmark
      · have hrange : (op.perform d).HasRange id :=
          ⟨hrebases.isHeld_of_isTracked htext htracked, fun name hname ↦ hmark ⟨name, hname⟩⟩
        exact .inr ⟨hrange, hlive.mp ((hedit.isTracked_iff id hrange).mp htracked)⟩
    · rintro (⟨name, hname⟩ | ⟨hrange, hid⟩)
      · exact (hedit.marks name id hname).2
      · exact (hedit.isTracked_iff id hrange).mpr (hlive.mpr hid)

/-- A range that is tracked and given up, and a mark set twice: the range of the old mark loses its
place at once, that of the range given up is freed by the next edit. -/
theorem tracked_exactly_after_edit :
    let d₀ := ofSurface (.ofField "abc".toList) {}
    let op := Operation.replace 0 0 ['x'] .command
    ∃ calls d, RunsTo d₀ calls d ∧ RangeCall.IsLive calls 0 ∧ d.ranges.tracked = [0, 2] ∧
      (op.perform d).ranges.tracked = [2] ∧
      ∀ id, id ∈ (op.perform d).ranges.tracked ↔
        (∃ name, (op.perform d).marks.get? name = some id) ∨
          (op.perform d).HasRange id ∧ RangeCall.IsLive calls id := by
  intro d₀ op
  have h₁ : RunsTo d₀ _ _ := RunsTo.start.step (.hold ⟨1, 2⟩) nofun
  have hrange : ((RangeCall.hold ⟨1, 2⟩).perform d₀).HasRange 0 := ⟨by decide, nofun⟩
  have h₂ := h₁.step (.track 0) fun id hid ↦ Option.some.inj hid ▸ hrange
  have h₃ := (h₂.step (.setMark ['m'] ⟨0, 1⟩) nofun).step (.setMark ['m'] ⟨2, 3⟩) nofun
  have hnone (name : Text) : (if ['m'] = name then some 2 else none) ≠ some 0 := by
    split <;> decide
  have h := h₃.step (.drop 0) fun id hid ↦ Option.some.inj hid ▸ ⟨by decide, hnone⟩
  obtain ⟨-, -, -, -, hexact⟩ := h.tracked_exactly
  have hlive : RangeCall.IsLive _ 0 :=
    ⟨[.drop 0, .setMark ['m'] ⟨2, 3⟩, .setMark ['m'] ⟨0, 1⟩], [.hold ⟨1, 2⟩], rfl, by simp⟩
  exact ⟨_, _, h, hlive, by decide, by decide, hexact op nofun (by decide)⟩

end Document

end LineEditor
