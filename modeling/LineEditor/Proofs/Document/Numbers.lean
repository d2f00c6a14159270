import LineEditor.Proofs.Document.Runs

/-!
# Ranges with numbers of their own

Ranges are held under numbers, and a mark is a range with a name. When a name is given to other
bounds, the range that had it is given up, whatever else it may be used for. So a range to work at
is safe only if no mark has its number. Numbers are given away one after the other: a range that has
a number of its own keeps it for itself through everything that is done to the document, and setting
a mark does nothing to it.
-/

namespace LineEditor

namespace Ranges

@[simp] theorem fresh_track (r : Ranges) (id : RangeId) : (r.track id).fresh = r.fresh := by
  unfold track
  split <;> rfl

@[simp] theorem held_track (r : Ranges) (id : RangeId) : (r.track id).held = r.held := by
  unfold track
  split <;> rfl

variable {r : Ranges} {id other : RangeId}

theorem isTracked_track_of_ne (h : id ≠ other) :
    (r.track other).isTracked id = r.isTracked id := by
  unfold track
  split
  · rfl
  · simp [isTracked, h]

theorem isTracked_untrack_of_ne (h : id ≠ other) :
    (r.untrack other).isTracked id = r.isTracked id := by
  simp [isTracked, untrack, h]

theorem isTracked_drop : (r.drop other).isTracked id = r.isTracked id := rfl

/-- A range that follows edits still does so after one, if it has not been given up. -/
theorem isTracked_rebase (h : r.isTracked id) (hheld : r.isHeld id) (e : Edit) :
    (r.rebase e).isTracked id := by
  simp only [isTracked, List.contains_iff_mem] at h ⊢
  exact List.mem_filter.mpr ⟨h, hheld⟩

/-- No range begins to follow edits by being moved across one. -/
theorem isTracked_of_rebase {e : Edit} (h : (r.rebase e).isTracked id) : r.isTracked id := by
  simp only [isTracked, List.contains_iff_mem] at h ⊢
  exact (List.mem_filter.mp h).1

/-- Only the range itself begins to follow edits. -/
theorem isTracked_of_track (h : (r.track other).isTracked id) : id = other ∨ r.isTracked id := by
  by_cases heq : id = other
  · exact .inl heq
  · rw [isTracked_track_of_ne heq] at h
    exact .inr h

theorem isTracked_of_untrack (h : (r.untrack other).isTracked id) : r.isTracked id := by
  simp only [isTracked, List.contains_iff_mem] at h ⊢
  exact (List.mem_filter.mp h).1

end Ranges

namespace Document

variable {d d' d₁ d₂ d₃ : Document} {id : RangeId}

/-- The number of a range is its own: it has been given away, and not to a mark. -/
structure IsApart (d : Document) (id : RangeId) : Prop where
  /-- The number has been given away. -/
  lt : id < d.ranges.fresh
  /-- So have the numbers of marks. -/
  marks_lt : ∀ name m, d.marks.get? name = some m → m < d.ranges.fresh
  /-- They are other ones. -/
  marks_ne : ∀ name, d.marks.get? name ≠ some id

/-- Every number that is in use has been given away, and no two marks have the same one. -/
structure IsNumbered (d : Document) : Prop where
  /-- The numbers of marks have been given away. -/
  marks_lt : ∀ name m, d.marks.get? name = some m → m < d.ranges.fresh
  /-- They are numbers of one mark each. -/
  marks_inj : ∀ name name' m, d.marks.get? name = some m → d.marks.get? name' = some m →
    name = name'
  /-- The numbers of ranges that follow edits have been given away. -/
  tracked_lt : ∀ m, d.ranges.isTracked m → m < d.ranges.fresh

/-- Numbers are given away one after the other, and none of them twice. -/
structure KeepsApart (d d' : Document) : Prop where
  /-- Whatever has a number of its own still has it. -/
  apart : ∀ id, d.IsApart id → d'.IsApart id
  /-- The numbers in use are in order if they were. -/
  numbered : d.IsNumbered → d'.IsNumbered

theorem KeepsApart.trans (h : d₁.KeepsApart d₂) (h' : d₂.KeepsApart d₃) : d₁.KeepsApart d₃ :=
  ⟨fun id hid ↦ h'.apart id (h.apart id hid), fun hd ↦ h'.numbered (h.numbered hd)⟩

theorem KeepsApart.of_eq (hfresh : d'.ranges.fresh = d.ranges.fresh) (hmarks : d'.marks = d.marks)
    (htracked : ∀ m, d'.ranges.isTracked m → d.ranges.isTracked m) : d.KeepsApart d' := by
  constructor
  · exact fun _ h ↦ ⟨hfresh ▸ h.lt, hfresh ▸ hmarks ▸ h.marks_lt, hmarks ▸ h.marks_ne⟩
  · exact fun h ↦ ⟨hfresh ▸ hmarks ▸ h.marks_lt, hmarks ▸ h.marks_inj,
      fun m hm ↦ hfresh ▸ h.tracked_lt m (htracked m hm)⟩

theorem KeepsApart.refl (d : Document) : d.KeepsApart d := .of_eq rfl rfl fun _ h ↦ h

/-! ## Moving one range -/

/-- Of the text, the options, the ranges and the marks, nothing is changed but where one range
is. -/
structure MovesOnly (d : Document) (id : RangeId) (d' : Document) : Prop where
  /-- The surface is the same. -/
  surface : d'.surface = d.surface
  /-- The options are the same. -/
  options : d'.options = d.options
  /-- The marks name the same ranges. -/
  marks : d'.marks = d.marks
  /-- The next number is the same. -/
  fresh : d'.ranges.fresh = d.ranges.fresh
  /-- The same ranges follow edits. -/
  tracked : d'.ranges.tracked = d.ranges.tracked
  /-- All other ranges are the same. -/
  held : ∀ other, other ≠ id → d'.ranges.held.get? other = d.ranges.held.get? other

namespace MovesOnly

theorem of_eq (hsurface : d'.surface = d.surface) (hoptions : d'.options = d.options)
    (hmarks : d'.marks = d.marks) (hranges : d'.ranges = d.ranges) : d.MovesOnly id d' := by
  refine ⟨hsurface, hoptions, hmarks, ?_, ?_, fun other _ ↦ ?_⟩ <;> rw [hranges]

theorem refl (d : Document) (id : RangeId) : d.MovesOnly id d := .of_eq rfl rfl rfl rfl

theorem trans (h : d₁.MovesOnly id d₂) (h' : d₂.MovesOnly id d₃) : d₁.MovesOnly id d₃ :=
  ⟨h'.surface.trans h.surface, h'.options.trans h.options, h'.marks.trans h.marks,
    h'.fresh.trans h.fresh, h'.tracked.trans h.tracked,
    fun other hne ↦ (h'.held other hne).trans (h.held other hne)⟩

theorem moveTo (d : Document) (id : RangeId) (b : Bounds) : d.MovesOnly id (d.moveTo id b) := by
  refine ⟨rfl, rfl, rfl, rfl, rfl, fun other hne ↦ ?_⟩
  rw [Document.moveTo, Ranges.put, Table.get?_insert, if_neg (Ne.symm hne)]

theorem told (d : Document) (id : RangeId) : d.MovesOnly id { d with notices := [] } :=
  .of_eq rfl rfl rfl rfl

theorem openGroup (d : Document) (id : RangeId) : d.MovesOnly id d.openGroup := by
  unfold Document.openGroup
  split <;> exact .of_eq rfl rfl rfl rfl

theorem closeGroup (d : Document) (id : RangeId) : d.MovesOnly id d.closeGroup := by
  unfold Document.closeGroup
  split <;> exact .of_eq rfl rfl rfl rfl

theorem text (h : d.MovesOnly id d') : d'.text = d.text := congrArg Surface.text h.surface

end MovesOnly

/-! ## Setting marks -/

/-- A mark takes the next number. -/
theorem fresh_setMark (d : Document) (name : Text) (b : Bounds) :
    (d.setMark name b).ranges.fresh = d.ranges.fresh + 1 := by
  unfold setMark
  cases d.marks.get? name <;> simp [Ranges.untrack, Ranges.drop, Ranges.hold]

theorem get?_marks_setMark (d : Document) (name other : Text) (b : Bounds) :
    (d.setMark name b).marks.get? other
      = if name = other then some d.ranges.fresh else d.marks.get? other :=
  Table.get?_insert name other d.ranges.fresh d.marks

/-- Only the mark that is set begins to follow edits. -/
theorem isTracked_of_setMark {name : Text} {b : Bounds}
    (h : (d.setMark name b).ranges.isTracked id) : id = d.ranges.fresh ∨ d.ranges.isTracked id := by
  unfold setMark at h
  cases hold : d.marks.get? name with
  | none =>
    simp only [hold, Ranges.hold] at h
    have htracked := Ranges.isTracked_of_track h
    exact htracked
  | some old =>
    simp only [hold, Ranges.hold, Ranges.isTracked_drop] at h
    have htracked := Ranges.isTracked_of_track (Ranges.isTracked_of_untrack h)
    exact htracked

/-- The number of a mark is one that a mark has had before, or the one just given away. -/
theorem marks_lt_setMark (h : ∀ name m, d.marks.get? name = some m → m < d.ranges.fresh)
    (name : Text) (b : Bounds) (other : Text) (m : RangeId)
    (hm : (d.setMark name b).marks.get? other = some m) :
    m < (d.setMark name b).ranges.fresh := by
  rw [get?_marks_setMark] at hm
  rw [fresh_setMark]
  split at hm
  · cases hm
    exact Nat.lt_succ_self _
  · exact Nat.lt_succ_of_lt (h other m hm)

/-- So a range keeps a number of its own. -/
theorem IsApart.setMark (h : d.IsApart id) (name : Text) (b : Bounds) :
    (d.setMark name b).IsApart id := by
  refine ⟨?_, marks_lt_setMark h.marks_lt name b, fun other hm ↦ ?_⟩
  · rw [fresh_setMark]
    exact Nat.lt_succ_of_lt h.lt
  · rw [get?_marks_setMark] at hm
    split at hm
    · cases hm
      exact Nat.lt_irrefl _ h.lt
    · exact h.marks_ne other hm

/-- And so do marks. -/
theorem IsNumbered.setMark (h : d.IsNumbered) (name : Text) (b : Bounds) :
    (d.setMark name b).IsNumbered := by
  have hfresh : ∀ other, d.marks.get? other ≠ some d.ranges.fresh :=
    fun other hother ↦ Nat.lt_irrefl _ (h.marks_lt other _ hother)
  refine ⟨marks_lt_setMark h.marks_lt name b, fun first second m hfirst hsecond ↦ ?_, fun m hm ↦ ?_⟩
  · rw [get?_marks_setMark] at hfirst hsecond
    split at hfirst
    · next hname =>
      cases hfirst
      split at hsecond
      · next hname' => exact hname.symm.trans hname'
      · exact absurd hsecond (hfresh second)
    · split at hsecond
      · cases hsecond
        exact absurd hfirst (hfresh first)
      · exact h.marks_inj first second m hfirst hsecond
  · rw [fresh_setMark]
    rcases isTracked_of_setMark hm with rfl | hm
    · exact Nat.lt_succ_self _
    · exact Nat.lt_succ_of_lt (h.tracked_lt m hm)

theorem keepsApart_setMark (d : Document) (name : Text) (b : Bounds) :
    d.KeepsApart (d.setMark name b) := ⟨fun _ h ↦ h.setMark name b, fun h ↦ h.setMark name b⟩

/-- The mark is a range with this number, which follows edits. -/
theorem get?_held_setMark_fresh {name : Text} (hname : d.marks.get? name ≠ some d.ranges.fresh)
    (b : Bounds) :
    (d.setMark name b).ranges.held.get? d.ranges.fresh = some { bounds := b } ∧
      (d.setMark name b).ranges.isTracked d.ranges.fresh := by
  have hheld : (d.ranges.held.insert d.ranges.fresh { bounds := b }).get? d.ranges.fresh
      = some { bounds := b } := by
    rw [Table.get?_insert, if_pos rfl]
  unfold setMark
  cases hold : d.marks.get? name with
  | none =>
    simp only [Ranges.hold, Ranges.held_track]
    exact ⟨hheld, Ranges.isTracked_track _ _⟩
  | some old =>
    have hne : old ≠ d.ranges.fresh := fun h ↦ hname (h ▸ hold)
    simp only [Ranges.hold]
    rw [Ranges.isTracked_drop, Ranges.isTracked_untrack_of_ne hne.symm, Ranges.isTracked_track]
    simp [Ranges.untrack, Ranges.drop, Table.get?_erase, hne, hheld]

/-- Setting a mark does nothing to a range that is given away and not the one that had the name. -/
theorem get?_held_setMark (hid : id < d.ranges.fresh) {name : Text}
    (hname : d.marks.get? name ≠ some id) (b : Bounds) :
    (d.setMark name b).ranges.held.get? id = d.ranges.held.get? id := by
  have hheld : (d.ranges.held.insert d.ranges.fresh { bounds := b }).get? id
      = d.ranges.held.get? id := by
    rw [Table.get?_insert, if_neg (Nat.ne_of_gt hid)]
  unfold setMark
  cases hold : d.marks.get? name with
  | none => simp [Ranges.hold, hheld]
  | some old =>
    have hne : old ≠ id := fun h ↦ hname (h ▸ hold)
    simp [Ranges.hold, Ranges.untrack, Ranges.drop, Table.get?_erase, hne, hheld]

/-- Nor does it change whether such a range follows edits. -/
theorem isTracked_setMark (hid : id < d.ranges.fresh) {name : Text}
    (hname : d.marks.get? name ≠ some id) (b : Bounds) :
    (d.setMark name b).ranges.isTracked id = d.ranges.isTracked id := by
  have hnew : id ≠ d.ranges.fresh := Nat.ne_of_lt hid
  unfold setMark
  cases hold : d.marks.get? name with
  | none =>
    simp only [Ranges.hold]
    rw [Ranges.isTracked_track_of_ne hnew]
    rfl
  | some old =>
    have hne : id ≠ old := fun h ↦ hname (h ▸ hold)
    simp only [Ranges.hold]
    rw [Ranges.isTracked_drop, Ranges.isTracked_untrack_of_ne hne,
      Ranges.isTracked_track_of_ne hnew]
    rfl

/-- So the bounds of a range with a number of its own stay as they are. -/
theorem IsApart.bounds_setMark (h : d.IsApart id) (name : Text) (b : Bounds) :
    (d.setMark name b).bounds id = d.bounds id := by
  rw [bounds, Ranges.get, get?_held_setMark h.lt (h.marks_ne name)]
  rfl

/-! ## Everything else -/

theorem keepsApart_replace (d : Document) (start stop : Nat) (piece : Text) (kind : EditKind) :
    d.KeepsApart (d.replace start stop piece kind).2 := by
  cases he : (d.replace start stop piece kind).1 with
  | none =>
    rw [replace_of_none he]
    exact .refl d
  | some e =>
    rw [replace_of_some he]
    exact .of_eq rfl rfl fun _ ↦ Ranges.isTracked_of_rebase

theorem keepsApart_select (d : Document) (b : Bounds) : d.KeepsApart (d.select b) := by
  unfold select
  split <;> exact .of_eq rfl rfl fun _ h ↦ h

theorem keepsApart_openGroup (d : Document) : d.KeepsApart d.openGroup := by
  unfold openGroup
  split <;> exact .of_eq rfl rfl fun _ h ↦ h

theorem keepsApart_closeGroup (d : Document) : d.KeepsApart d.closeGroup := by
  unfold closeGroup
  split <;> exact .of_eq rfl rfl fun _ h ↦ h

theorem keepsApart_replay (d : Document) (history : History) (kind : EditKind) (e : Edit) :
    d.KeepsApart ({ d with history := history }.replay kind e).2 :=
  have hhistory : d.KeepsApart { d with history := history } :=
    .of_eq rfl rfl fun _ h ↦ h
  (hhistory.trans (keepsApart_replace _ _ _ _ _)).trans (keepsApart_select _ _)

theorem keepsApart_undo? {p : Bounds × Document} (h : d.undo? = some p) : d.KeepsApart p.2 := by
  obtain ⟨⟨r, history⟩, -, rfl⟩ := Option.map_eq_some_iff.mp h
  exact d.keepsApart_replay history _ _

theorem keepsApart_redo? {p : Bounds × Document} (h : d.redo? = some p) : d.KeepsApart p.2 := by
  obtain ⟨⟨r, history⟩, -, rfl⟩ := Option.map_eq_some_iff.mp h
  exact d.keepsApart_replay history _ _

end Document

end LineEditor
