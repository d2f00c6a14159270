import LineEditor.Proofs.Document.Replacing
import LineEditor.Proofs.Table
import LineEditor.Proofs.Text.Occurrences

/-!
# Extending a range to separators

A range is extended to literal separators by three names: `from` moves its start back, `to` moves
its stop on, and `whole` does both. The start goes back to the last occurrence of the opening
literal that ends at or before it, and the stop on to the first occurrence of the closing literal
that starts at or after it. Where there is none they go to the ends of the text.

Without the separators taken in, the range ends up right between the two occurrences, so that the
same ones are found from there, and nothing moves any more.
-/

namespace LineEditor

variable {t piece front back : Text} {s : Separator} {args : List BoundsArgument}
  {outer : Bool} {start stop n : Nat} {b : Bounds}

/-! ## Where ends go -/

/-- A start goes back to `n`: behind the last occurrence of a literal in front of it or, if that is
to be taken in, to where it starts; and to the start of the text if there is none. -/
def GoesBack (t piece : Text) (outer : Bool) (start n : Nat) : Prop :=
  (∃ i, IsGreatest {j | t.OccursAt piece j ∧ j + piece.length ≤ start} i ∧
    n = if outer then i else i + piece.length) ∨
  ((∀ j, t.OccursAt piece j → start < j + piece.length) ∧ n = 0)

/-- A stop goes on to `n`: to the first occurrence of a literal behind it or, if that is to be taken
in, to where it ends; and to the end of the text if there is none. -/
def GoesOn (t piece : Text) (outer : Bool) (stop n : Nat) : Prop :=
  (∃ i, IsLeast {j | t.OccursAt piece j ∧ stop ≤ j} i ∧
    n = if outer then i + piece.length else i) ∨
  ((∀ j, t.OccursAt piece j → j < stop) ∧ n = t.length)

theorem GoesBack.le (h : GoesBack t piece outer start n) : n ≤ start := by
  rcases h with ⟨i, ⟨⟨-, hi⟩, -⟩, rfl⟩ | ⟨-, rfl⟩
  · split <;> omega
  · exact Nat.zero_le _

theorem GoesOn.le (h : GoesOn t piece outer stop n) (hstop : stop ≤ t.length) : stop ≤ n := by
  rcases h with ⟨i, ⟨⟨-, hi⟩, -⟩, rfl⟩ | ⟨-, rfl⟩
  · split <;> omega
  · exact hstop

theorem GoesOn.le_length (h : GoesOn t piece outer stop n) (hpiece : piece ≠ []) :
    n ≤ t.length := by
  rcases h with ⟨i, ⟨⟨hocc, -⟩, -⟩, rfl⟩ | ⟨-, rfl⟩
  · have hlength := hocc.length_le hpiece
    split <;> omega
  · exact Nat.le_refl _

/-- What a start has passed on its way back holds no occurrence. -/
theorem GoesBack.lt_of_occursAt (h : GoesBack t piece false start n) (hpiece : piece ≠ []) {j : Nat}
    (hj : t.OccursAt piece j) (hn : n ≤ j) : start < j + piece.length := by
  have hpos : 0 < piece.length := List.length_pos_iff.mpr hpiece
  rcases h with ⟨i, ⟨-, hgreatest⟩, rfl⟩ | ⟨hnone, -⟩
  · by_contra hlt
    have hle : j ≤ i := hgreatest ⟨hj, Nat.not_lt.mp hlt⟩
    rw [if_neg Bool.false_ne_true] at hn
    omega
  · exact hnone j hj

/-- Neither does what a stop has passed on its way. -/
theorem GoesOn.lt_of_occursAt (h : GoesOn t piece false stop n) (hpiece : piece ≠ []) {j : Nat}
    (hj : t.OccursAt piece j) (hstop : stop ≤ j) : n < j + piece.length := by
  have hpos : 0 < piece.length := List.length_pos_iff.mpr hpiece
  rcases h with ⟨i, ⟨-, hleast⟩, rfl⟩ | ⟨hnone, -⟩
  · have hle : n ≤ j := hleast ⟨hj, hstop⟩
    omega
  · exact absurd hstop (Nat.not_le.mpr (hnone j hj))

/-- There is one place to go to. -/
theorem GoesBack.unique {m : Nat} (h : GoesBack t piece outer start n)
    (h' : GoesBack t piece outer start m) : n = m := by
  rcases h with ⟨i, hi, rfl⟩ | ⟨hnone, rfl⟩ <;> rcases h' with ⟨i', hi', rfl⟩ | ⟨hnone', rfl⟩
  · rw [hi.unique hi']
  · exact absurd hi.1.2 (Nat.not_le.mpr (hnone' i hi.1.1))
  · exact absurd hi'.1.2 (Nat.not_le.mpr (hnone i' hi'.1.1))
  · rfl

theorem GoesOn.unique {m : Nat} (h : GoesOn t piece outer stop n)
    (h' : GoesOn t piece outer stop m) : n = m := by
  rcases h with ⟨i, hi, rfl⟩ | ⟨hnone, rfl⟩ <;> rcases h' with ⟨i', hi', rfl⟩ | ⟨hnone', rfl⟩
  · rw [hi.unique hi']
  · exact absurd hi.1.2 (Nat.not_le.mpr (hnone' i hi.1.1))
  · exact absurd hi'.1.2 (Nat.not_le.mpr (hnone i' hi'.1.1))
  · rfl

/-- From where a start has gone back to, it goes nowhere. -/
theorem GoesBack.again (h : GoesBack t piece false start n) (hpiece : piece ≠ []) :
    GoesBack t piece false n n := by
  have hpos : 0 < piece.length := List.length_pos_iff.mpr hpiece
  rcases h with ⟨i, ⟨⟨hocc, hi⟩, hgreatest⟩, rfl⟩ | ⟨-, rfl⟩
  · rw [if_neg Bool.false_ne_true]
    refine .inl ⟨i, ⟨⟨hocc, Nat.le_refl _⟩, fun j ⟨hj, hle⟩ ↦ hgreatest ⟨hj, ?_⟩⟩, rfl⟩
    exact Nat.le_trans hle hi
  · exact .inr ⟨fun j _ ↦ by omega, rfl⟩

theorem GoesOn.again (h : GoesOn t piece false stop n) (hpiece : piece ≠ []) :
    GoesOn t piece false n n := by
  have hpos : 0 < piece.length := List.length_pos_iff.mpr hpiece
  rcases h with ⟨i, ⟨⟨hocc, hi⟩, hleast⟩, rfl⟩ | ⟨-, rfl⟩
  · refine .inl ⟨n, ⟨⟨hocc, Nat.le_refl _⟩, fun j ⟨hj, hle⟩ ↦ hleast ⟨hj, ?_⟩⟩, rfl⟩
    exact Nat.le_trans hi hle
  · refine .inr ⟨fun j hj ↦ ?_, rfl⟩
    have hlength := hj.length_le hpiece
    omega

/-! ## Literal separators -/

namespace Separator

/-- The separator is made of literals, none of them empty, and these are the ones that count: one
literal for both ends, or those of the opening and the closing part of a pair. -/
inductive Delimits : Separator → (front back : Text) → Prop
  | literal {t : Text} (h : t ≠ []) : Delimits (.literal t) t t
  | pair {opening closing : Separator} {front front' back back' : Text}
      (hopening : Delimits opening front front') (hclosing : Delimits closing back' back) :
      Delimits (.pair opening closing) front back

namespace Delimits

theorem front_ne_nil (h : s.Delimits front back) : front ≠ [] := by
  induction h with
  | literal h => exact h
  | pair _ _ ih _ => exact ih

theorem back_ne_nil (h : s.Delimits front back) : back ≠ [] := by
  induction h with
  | literal h => exact h
  | pair _ _ _ ih => exact ih

theorem opening_eq (h : s.Delimits front back) : s.opening = .literal front := by
  induction h with
  | literal h => rfl
  | pair _ _ ih _ => exact ih

theorem closing_eq (h : s.Delimits front back) : s.closing = .literal back := by
  induction h with
  | literal h => rfl
  | pair _ _ _ ih => exact ih

theorem goesBack (h : s.Delimits front back) (t : Text) (outer : Bool) (start : Nat) :
    GoesBack t front outer start (s.extendStart t outer start) := by
  have hne := h.front_ne_nil
  rw [extendStart, h.opening_eq, before?, if_neg hne]
  cases hfound : t.findLastBefore front start with
  | none => exact .inr ⟨(Text.findLastBefore_eq_none_iff hne).mp hfound, rfl⟩
  | some i => exact .inl ⟨i, (Text.findLastBefore_eq_some_iff hne).mp hfound, rfl⟩

theorem goesOn (h : s.Delimits front back) (t : Text) (outer : Bool) (stop : Nat) :
    GoesOn t back outer stop (s.extendStop t outer stop) := by
  have hne := h.back_ne_nil
  rw [extendStop, h.closing_eq, after?, if_neg hne]
  cases hfound : t.findFrom back stop with
  | none => exact .inr ⟨(Text.findFrom_eq_none_iff hne).mp hfound, rfl⟩
  | some i => exact .inl ⟨i, (Text.findFrom_eq_some_iff hne).mp hfound, rfl⟩

/-- Bounds that have been extended, without the separators taken in, extend no further. -/
theorem extend_extend (h : s.Delimits front back) (t : Text) (b : Bounds) :
    s.extend t false (s.extend t false b) = s.extend t false b := by
  have hstart := (h.goesBack t false b.start).again h.front_ne_nil
  have hstop := (h.goesOn t false b.stop).again h.back_ne_nil
  simp only [extend, Bool.and_false]
  rw [(h.goesBack t false _).unique hstart, (h.goesOn t false _).unique hstop]

end Delimits

end Separator

/-- The arguments ask for a separator, and perhaps for taking it in. A literal may be given as a
name. -/
inductive Asks : (args : List BoundsArgument) → Separator → (outer : Bool) → Prop
  | separator (s : Separator) : Asks [.separator s] s false
  | separatorFlag (s : Separator) (outer : Bool) : Asks [.separator s, .flag outer] s outer
  | name (t : Text) : Asks [.name t] (.literal t) false
  | nameFlag (t : Text) (outer : Bool) : Asks [.name t, .flag outer] (.literal t) outer

namespace Bounds

variable {setting : Setting}

theorem named_around (h : Asks args s outer) :
    named setting b "whole".toList args = .ok (s.extend setting.text outer b) := by
  cases h <;> rfl

theorem named_backward (h : Asks args s outer) :
    named setting b "from".toList args
      = .ok ⟨s.extendStart setting.text outer b.start, b.stop⟩ := by
  cases h <;> rfl

theorem named_forward (h : Asks args s outer) :
    named setting b "to".toList args
      = .ok ⟨b.start, s.extendStop setting.text outer b.stop⟩ := by
  cases h <;> rfl

end Bounds

namespace Document

/-- Bounds that are set again do not matter. -/
theorem moveTo_moveTo (d : Document) (id : RangeId) (b b' : Bounds) :
    (d.moveTo id b).moveTo id b' = d.moveTo id b' := by
  simp only [moveTo, Ranges.get_put]
  simp only [Ranges.put, Table.insert_insert]

theorem moveToNamed_of_named {d : Document} {id : RangeId} {name : Text}
    (h : Bounds.named d.setting (d.bounds id) name args = .ok b) :
    d.moveToNamed id name args = .ok (d.moveTo id b) := by
  rw [moveToNamed, h]

/-- **Extending to literals.** A range is extended to a separator made of literals: its start goes
back and its stop on, so that it contains what it was, and the separators are taken in if that is
asked for, the opening one only of a pair. If it is not, then none occurs in what was added at
either end, extending again leaves the whole document as it is, and `from` and `to` move one of the
ends to the same place. -/
theorem extends_to_literals (hs : s.Delimits front back) (hargs : Asks args s outer) (d : Document)
    (id : RangeId) :
    let b := d.bounds id
    ∃ b', GoesBack d.text front (s.isPair && outer) b.start b'.start ∧
      GoesOn d.text back outer b.stop b'.stop ∧ b'.start ≤ b.start ∧ b.stop ≤ b'.stop ∧
      d.moveToNamed id "whole".toList args = .ok (d.moveTo id b') ∧
      (d.moveTo id b').bounds id = b' ∧
      (outer = false →
        (∀ i, d.text.OccursAt front i → b'.start ≤ i → b.start < i + front.length) ∧
        (∀ i, d.text.OccursAt back i → b.stop ≤ i → b'.stop < i + back.length) ∧
        (d.moveTo id b').moveToNamed id "whole".toList args = .ok (d.moveTo id b') ∧
        d.moveToNamed id "from".toList args = .ok (d.moveTo id ⟨b'.start, b.stop⟩) ∧
        d.moveToNamed id "to".toList args = .ok (d.moveTo id ⟨b.start, b'.stop⟩)) := by
  intro b
  have hle : b.start ≤ b.stop := (d.ranges.get id).bounds.clamp_start_le d.length
  have hlength : b.stop ≤ d.text.length := (d.ranges.get id).bounds.clamp_stop_le d.length
  have hback := hs.goesBack d.text (s.isPair && outer) b.start
  have hon := hs.goesOn d.text outer b.stop
  have hstart := hback.le
  have hstop := hon.le hlength
  have hbounds : (d.moveTo id (s.extend d.text outer b)).bounds id = s.extend d.text outer b :=
    bounds_moveTo (Nat.le_trans hstart (Nat.le_trans hle hstop)) (hon.le_length hs.back_ne_nil) id
  refine ⟨s.extend d.text outer b, hback, hon, hstart, hstop,
    moveToNamed_of_named (Bounds.named_around hargs), hbounds, ?_⟩
  rintro rfl
  have hpair : (s.isPair && false) = false := Bool.and_false _
  rw [hpair] at hback
  have hpassed : ∀ i, d.text.OccursAt front i → (s.extend d.text false b).start ≤ i →
      b.start < i + front.length := fun i ↦ by
    rw [Separator.extend, hpair]
    exact hback.lt_of_occursAt hs.front_ne_nil
  refine ⟨hpassed, fun i ↦ hon.lt_of_occursAt hs.back_ne_nil, ?_, ?_, ?_⟩
  · -- the range is where it is put, and from there the same occurrences are found
    rw [moveToNamed_of_named (Bounds.named_around hargs), hbounds, moveTo_moveTo]
    exact congrArg (fun b' ↦ Except.ok (d.moveTo id b')) (hs.extend_extend d.text b)
  · rw [Separator.extend, hpair]
    exact moveToNamed_of_named (Bounds.named_backward hargs)
  · exact moveToNamed_of_named (Bounds.named_forward hargs)

/-- A pair whose opening part is a pair again, and closing literals that overlap. -/
theorem extends_to_literals_nested :
    let s : Separator :=
      .pair (.pair (.literal "<<".toList) (.literal "?".toList)) (.literal ">>".toList)
    let d := (Document.ofSurface (.ofField "a<<bé>>>c".toList) {}).moveTo 0 (.collapsed 4)
    s.Delimits "<<".toList ">>".toList ∧ Asks [.separator s] s false ∧
      d.moveToNamed 0 "whole".toList [.separator s] = .ok (d.moveTo 0 ⟨3, 5⟩) ∧
      (d.moveTo 0 ⟨3, 5⟩).moveToNamed 0 "whole".toList [.separator s]
        = .ok (d.moveTo 0 ⟨3, 5⟩) := by
  intro s d
  have hs : s.Delimits "<<".toList ">>".toList :=
    .pair (.pair (.literal (by decide)) (.literal (by decide))) (.literal (by decide))
  have hargs : Asks [.separator s] s false := .separator s
  obtain ⟨b', -, -, -, -, hwhole, hbounds, hinner⟩ := extends_to_literals hs hargs d 0
  have hplace : (d.moveToNamed 0 "whole".toList [.separator s]).toOption.map (·.bounds 0)
      = some ⟨3, 5⟩ := by decide +kernel
  rw [hwhole] at hplace
  obtain rfl : b' = ⟨3, 5⟩ := hbounds.symm.trans (Option.some.inj hplace)
  exact ⟨hs, hargs, hwhole, (hinner rfl).2.2.1⟩

end Document

end LineEditor
