import LineEditor.Proofs.Document.Runs
import LineEditor.Proofs.Edit.Rebase

/-!
# Ranges that follow edits

Every operation that edits a document answers the edit it made, and the ranges of the document have
been moved across just this edit. What a range holds afterwards therefore depends on nothing but the
edit and the bounds that the range had: `Bounds.survivors` says what it is. Marks are ranges with a
name, so they are covered; a range that is not tracked keeps its bounds.

The edit need not be the one asked for: where the old text and the new one begin or end alike it is
smaller, and of an edit of the host only the two texts and the caret are known.
-/

namespace LineEditor

variable {e : Edit} {id : RangeId} {range : Range}

namespace Ranges

/-- Moving ranges across an edit moves the tracked ones and leaves the others alone. -/
theorem get?_held_rebase (r : Ranges) (e : Edit) (id : RangeId) :
    (r.rebase e).held.get? id = (r.held.get? id).map fun range ↦
      if r.isTracked id then { range with bounds := range.bounds.rebase e } else range := by
  simp only [rebase]
  induction r.held with
  | nil => rfl
  | cons entry rest ih =>
    simp only [List.map_cons, Table.get?, ih]
    split
    · next hid => rw [hid]; rfl
    · rfl

end Ranges

/-- The edit made when one from the history is replayed. -/
def Document.replayed? (d : Document) (kind : EditKind) (e : Edit) : Option Edit :=
  (d.replace e.start e.oldEnd e.inserted kind).1

namespace Operation

/-- The edit that an operation makes, if it makes one. -/
def edit? (op : Operation) (d : Document) : Option Edit :=
  match op with
  | replace start stop piece kind => (d.replace start stop piece kind).1
  | write id piece kind indent => (d.write id piece kind indent).1
  | editNative kind edit => (d.editNative kind edit).1
  | absorb s kind caret => (d.absorb s kind caret).1
  | openGroup | closeGroup | clearHistory => none
  | undo => d.history.back?.bind fun p ↦
    { d with history := p.2 }.replayed? .undo p.1.edit.inverse
  | redo => d.history.forward?.bind fun p ↦
    { d with history := p.2 }.replayed? .redo p.1.edit

/-- The range that an operation sets after its edit. -/
def written? : Operation → Option RangeId
  | write id _ _ _ => some id
  | _ => none

end Operation

namespace Document

variable {d d' : Document} {op : Operation}

/-! ## The ranges after an edit -/

/-- The text of a document has been edited and its ranges have been moved across the edit, but for
one that may have been set since. -/
structure Moves (d : Document) (e : Edit) (set? : Option RangeId) (d' : Document) : Prop where
  /-- The edit leads from the old text to the new one. -/
  leads : e.Leads d.text d'.text
  /-- The ranges are those moved across it. -/
  held : ∀ id, set? ≠ some id → d'.ranges.held.get? id = (d.ranges.rebase e).held.get? id
  /-- The marks name the same ranges. -/
  marks : d'.marks = d.marks

theorem moves_replace (hd : d.surface.IsFlat) {start stop : Nat} {piece : Text} {kind : EditKind}
    (he : (d.replace start stop piece kind).1 = some e) :
    d.Moves e none (d.replace start stop piece kind).2 := by
  have hleads := (makes_replace hd start stop piece kind).leads e he
  rw [replace_of_some he] at hleads ⊢
  exact ⟨hleads, fun id _ ↦ rfl, rfl⟩

/-- A range that is written through is set to what was written; the others are moved. -/
theorem moves_write (hd : d.surface.IsFlat) {written : RangeId} {piece : Text} {kind : EditKind}
    {indent : Text} (he : (d.write written piece kind indent).1 = some e) :
    d.Moves e (some written) (d.write written piece kind indent).2 := by
  have h := moves_replace hd (d := d) he
  refine ⟨h.leads, fun id hid ↦ ?_, h.marks⟩
  rw [← h.held id nofun]
  change ((d.replace _ _ _ _).2.moveTo _ _).ranges.held.get? id = _
  rw [moveTo, Ranges.put, Table.get?_insert, if_neg (fun hne ↦ hid (congrArg some hne))]

theorem moves_absorb {s : Surface} {kind : EditKind} {caret : Option Nat}
    (he : (d.absorb s kind caret).1 = some e) : d.Moves e none (d.absorb s kind caret).2 := by
  have hleads := (d.makes_absorb s kind caret).leads e he
  rw [absorb_eq, he] at hleads ⊢
  exact ⟨hleads, fun id _ ↦ rfl, rfl⟩

theorem moves_replay (hd : d.surface.IsFlat) {f : Edit} {kind : EditKind}
    (he : d.replayed? kind f = some e) : d.Moves e none (d.replay kind f).2 := by
  have h := moves_replace hd he
  refine ⟨?_, ?_, ?_⟩
  · rw [replay, text_select]
    exact h.leads
  all_goals
    rw [replay, select]
  · split
    · exact h.held
    · exact h.held
  · split
    · exact h.marks
    · exact h.marks

/-- Whatever makes an edit moves the ranges across it. -/
theorem moves_perform (hd : d.surface.IsFlat) (he : op.edit? d = some e) :
    d.Moves e op.written? (op.perform d) := by
  cases op with
  | replace start stop piece kind => exact moves_replace hd he
  | write id piece kind indent => exact moves_write hd he
  | editNative kind edit => exact moves_absorb he
  | absorb s kind caret => exact moves_absorb he
  | openGroup | closeGroup | clearHistory => exact nomatch he
  | undo =>
    obtain ⟨⟨r, history⟩, hback, hreplayed⟩ := Option.bind_eq_some_iff.mp he
    have h := moves_replay (d := { d with history := history }) hd hreplayed
    rw [Operation.perform, undoStep, undo?, hback]
    exact ⟨h.leads, h.held, h.marks⟩
  | redo =>
    obtain ⟨⟨r, history⟩, hforward, hreplayed⟩ := Option.bind_eq_some_iff.mp he
    have h := moves_replay (d := { d with history := history }) hd hreplayed
    rw [Operation.perform, redoStep, redo?, hforward]
    exact ⟨h.leads, h.held, h.marks⟩

/-! ## What ranges hold -/

/-- A slice of a document between bounds is what the bounds hold. -/
theorem slice_bounds (d : Document) (b : Bounds) : d.slice b.start b.stop = b.read d.text := rfl

theorem textOf_eq_read (d : Document) (id : RangeId) :
    d.textOf id = (d.ranges.get id).bounds.read d.text := by
  have hclamp : (d.bounds id).clamp d.length = d.bounds id := Bounds.clamp_clamp _ _
  rw [textOf, slice_bounds, Bounds.read]
  change d.text.slice ((d.bounds id).clamp d.length).start ((d.bounds id).clamp d.length).stop = _
  rw [hclamp]
  rfl

/-- **Tracked ranges follow every edit.** When an operation edits the text of a document on a flat
surface, a tracked range whose bounds fit the old text ends in the new one and holds what is left of
the text it held, and so does a mark that names it. A range that is not tracked keeps its bounds. -/
theorem textOf_perform (hd : d.surface.IsFlat) (he : op.edit? d = some e)
    (hrange : d.ranges.held.get? id = some range) (hid : op.written? ≠ some id) :
    e.Leads d.text (op.perform d).text ∧
      (d.ranges.isTracked id = false → (op.perform d).ranges.held.get? id = some range) ∧
      (d.ranges.isTracked id → range.bounds.start ≤ range.bounds.stop →
        range.bounds.stop ≤ d.length →
          ((op.perform d).ranges.get id).bounds.start ≤ (op.perform d).length ∧
          ((op.perform d).ranges.get id).bounds.stop ≤ (op.perform d).length ∧
          (op.perform d).textOf id = range.bounds.survivors e d.text ∧
          ∀ name, d.marks.get? name = some id → ∃ b, (op.perform d).mark? name = some b ∧
            (op.perform d).slice b.start b.stop = range.bounds.survivors e d.text) := by
  have h := moves_perform hd he
  have hheld := h.held id hid
  rw [Ranges.get?_held_rebase, hrange, Option.map_some] at hheld
  refine ⟨h.leads, fun hstill ↦ ?_, fun htracked hle hlen ↦ ?_⟩
  · rw [hheld, if_neg (by rw [hstill]; exact Bool.false_ne_true)]
  · have hbounds : ((op.perform d).ranges.get id).bounds = range.bounds.rebase e := by
      rw [Ranges.get, hheld, if_pos htracked]
      rfl
    have hread : (op.perform d).textOf id = range.bounds.survivors e d.text := by
      rw [textOf_eq_read, hbounds, Bounds.read_rebase h.leads hle hlen]
    obtain ⟨hstart, hstop⟩ := Bounds.rebase_le h.leads (Nat.le_trans hle hlen) hlen
    rw [← hbounds] at hstart hstop
    refine ⟨hstart, hstop, hread, fun name hname ↦ ⟨(op.perform d).bounds id, ?_, hread⟩⟩
    rw [mark?, h.marks, hname]
    rfl

/-- A mark around `bcd` in `abcdef`, across an edit inside it. -/
theorem textOf_perform_inside :
    ∃ d : Document, d.marks.get? ['m'] = some 0 ∧ d.textOf 0 = ['b', 'c', 'd'] ∧
      ((Operation.replace 2 3 ['x', 'y'] .command).perform d).textOf 0 = ['b', 'x', 'y', 'd'] := by
  let d := (ofSurface (.ofField "abcdef".toList) {}).setMark ['m'] ⟨1, 4⟩
  have he : (Operation.replace 2 3 ['x', 'y'] .command).edit? d = some ⟨2, ['c'], ['x', 'y']⟩ := by
    decide
  have hrange : d.ranges.held.get? 0 = some { bounds := ⟨1, 4⟩ } := rfl
  obtain ⟨-, -, hfollows⟩ := textOf_perform (d := d) trivial he hrange nofun
  obtain ⟨-, -, hread, -⟩ := hfollows (by decide) (by decide) (by decide)
  exact ⟨d, rfl, rfl, hread.trans (by decide)⟩

end Document

end LineEditor
