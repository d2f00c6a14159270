import LineEditor.Proofs.Edit.Rebase
import LineEditor.Proofs.Search.Order

/-!
# What replacing does to a region

A region is a row of gaps and matches in turn. Replacing puts other texts in the place of the
matches and copies the gaps. Said of both texts at once, this is a relation between the region and
its new text: they have the same gaps, at the places that the matches leave.

The matches are those of the text up to the end of the region, one after the other from its start
on, or only the first or the last one of them.
-/

namespace LineEditor.Search

open Pattern (Captures)

/-- The matches that are replaced: all, or the last one, or the first one. -/
def chosen (all backward : Bool) (cs : List Captures) : List Captures :=
  if all then cs else if backward then cs.drop (cs.length - 1) else cs.take 1

/-- What a match takes. -/
def taken (hay : Text) (c : Captures) : Text := hay.slice c.whole.start c.whole.stop

/-- Of the text from an offset up to `stop`, the matches are rewritten by `f` and the gaps are kept.
The old text is a row of gaps and matches in turn, and so is the new one. -/
inductive Rewritten (hay : Text) (f : Captures → Text) (stop : Nat) :
    (offset : Nat) → List Captures → (old new : Text) → Prop
  /-- Behind the last match there is a gap. -/
  | rest {offset : Nat} (gap : Text) (hgap : offset + gap.length = stop) :
    Rewritten hay f stop offset [] gap gap
  /-- A gap goes up to the start of the next match. -/
  | hit {offset : Nat} {c : Captures} {cs : List Captures} {old new : Text} (gap : Text)
    (hgap : offset + gap.length = c.whole.start)
    (h : Rewritten hay f stop c.whole.stop cs old new) :
    Rewritten hay f stop offset (c :: cs) (gap ++ taken hay c ++ old) (gap ++ f c ++ new)

variable {m : Matcher} {hay t : Text} {f : Captures → Text} {stop offset : Nat} {last : Option Nat}
  {c : Captures} {cs ds : List Captures} {old new : Text} {region : Bounds}

/-- Where each match is rewritten to itself nothing changes. -/
theorem Rewritten.eq_of_taken (h : Rewritten hay f stop offset cs old new)
    (hf : ∀ c, f c = taken hay c) : new = old := by
  induction h with
  | rest gap => rfl
  | hit gap hgap h ih => rw [hf, ih]

/-! ## Matches that do not overlap -/

/-- The matches follow one another from an offset on and end before `stop`. -/
def Apart (stop : Nat) : (offset : Nat) → List Captures → Prop
  | offset, [] => offset ≤ stop
  | offset, c :: cs =>
    offset ≤ c.whole.start ∧ c.whole.start ≤ c.whole.stop ∧ Apart stop c.whole.stop cs

namespace Apart

theorem offset_le (h : Apart stop offset cs) : offset ≤ stop := by
  induction cs generalizing offset with
  | nil => exact h
  | cons c cs ih => exact Nat.le_trans h.1 (Nat.le_trans h.2.1 (ih h.2.2))

/-- They do so from any earlier offset. -/
theorem mono (h : Apart stop offset cs) {i : Nat} (hi : i ≤ offset) : Apart stop i cs := by
  cases cs with
  | nil => exact Nat.le_trans hi h
  | cons c cs => exact ⟨Nat.le_trans hi h.1, h.2⟩

/-- Some of them do so, too. -/
theorem sublist (h : Apart stop offset cs) (hds : ds.Sublist cs) : Apart stop offset ds := by
  induction hds generalizing offset with
  | slnil => exact h
  | cons c _ ih => exact (ih h.2.2).mono (Nat.le_trans h.1 h.2.1)
  | cons_cons c _ ih => exact ⟨h.1, h.2.1, ih h.2.2⟩

/-- Behind the gap in front of it, a match is taken and the rest is left. -/
theorem slice_eq (h : Apart hay.length offset (c :: cs)) :
    hay.slice offset hay.length
      = hay.slice offset c.whole.start ++ taken hay c ++ hay.slice c.whole.stop hay.length := by
  obtain ⟨hstart, hle, hcs⟩ := h
  rw [taken, Text.slice_append_slice hay hstart hle,
    Text.slice_append_slice hay (Nat.le_trans hstart hle) hcs.offset_le]

/-- Writing out the gaps and the expanded template in turn rewrites the matches. -/
theorem rewritten (h : Apart hay.length offset cs) (template : Text) (magic : Bool) :
    Rewritten hay (Template.expand template hay · magic) hay.length offset cs
      (hay.slice offset hay.length) (replaceMatches template hay magic hay.length offset cs) := by
  induction cs generalizing offset with
  | nil =>
    refine .rest _ ?_
    have hle : offset ≤ hay.length := h
    rw [Text.length_slice, Nat.max_eq_right hle, Nat.min_self, Nat.add_sub_cancel' hle]
  | cons c cs ih =>
    obtain ⟨hstart, hle, hcs⟩ := h
    have hlength : c.whole.start ≤ hay.length := Nat.le_trans hle hcs.offset_le
    rw [slice_eq ⟨hstart, hle, hcs⟩]
    refine .hit _ ?_ (ih hcs)
    rw [Text.length_slice, Nat.max_eq_right hstart, Nat.min_eq_left hlength,
      Nat.add_sub_cancel' hstart]

end Apart

/-- Matches one after the other do not overlap. -/
theorem Successive.apart (hm : m.IsOrdered) (h : Successive m hay offset last cs)
    (hoffset : offset ≤ hay.length) : Apart hay.length offset cs := by
  induction h with
  | nil => exact hoffset
  | cons hstart hc hcs ih =>
    obtain ⟨-, hle, hstop⟩ := hm.capturesAt_bounds hc
    exact ⟨hstart.1.1, hle, ih hstop⟩

/-- There are none exactly if no match starts. -/
theorem Successive.eq_nil_iff (h : Successive m hay offset none cs) :
    cs = [] ↔ ∀ i, offset ≤ i → m.capturesAt hay i = none := by
  cases h with
  | nil hempty =>
    refine iff_of_true rfl fun i hi ↦ Option.eq_none_iff_forall_ne_some.mpr fun c hc ↦ ?_
    exact Set.notMem_empty i (hempty ▸ ⟨hi, c, hc, fun h ↦ Option.some_ne_none i h.2.symm⟩)
  | cons hstart hc _ =>
    refine iff_of_false (List.cons_ne_nil _ _) fun hnone ↦ ?_
    exact Option.some_ne_none _ (hc.symm.trans (hnone _ hstart.1.1))

/-! ## The matches that are replaced -/

/-- If only one is asked for, the loop stops at the first one. -/
theorem matchesFrom_false (m : Matcher) (hay : Text) (offset : Nat) (last : Option Nat) :
    matchesFrom m hay false offset last = (matchesFrom m hay true offset last).take 1 := by
  fun_induction matchesFrom m hay false offset last with
  | case1 offset last hoffset hnone =>
    rw [matchesFrom, dif_pos hoffset, hnone]
    rfl
  | case2 offset last hoffset c hc start stop hwhole next hskip ih =>
    rw [ih, matchesFrom.eq_def m hay true offset, dif_pos hoffset, hc]
    simp only [hwhole, if_pos hskip]
    rfl
  | case3 offset last hoffset c hc start stop hwhole next hcounts =>
    rw [if_neg Bool.false_ne_true, matchesFrom, dif_pos hoffset, hc]
    simp only [hwhole, if_neg hcounts]
    rfl
  | case4 offset last hoffset =>
    rw [matchesFrom, dif_neg hoffset]
    rfl

theorem chosen_sublist (all backward : Bool) (cs : List Captures) :
    (chosen all backward cs).Sublist cs := by
  rw [chosen]
  split
  · exact List.Sublist.refl cs
  · split
    · exact List.drop_sublist _ cs
    · exact List.take_sublist 1 cs

theorem chosen_eq_nil_iff (all backward : Bool) : chosen all backward cs = [] ↔ cs = [] := by
  rw [chosen]
  split
  · exact Iff.rfl
  · split
    · rw [List.drop_eq_nil_iff, ← List.length_eq_zero_iff]
      omega
    · rw [List.take_eq_nil_iff]
      exact or_iff_right Nat.one_ne_zero

/-- Replacing replaces the chosen ones among all matches. -/
theorem replace_eq (h : region.start ≤ t.length) (template : Text)
    (all backward magic : Bool) :
    let hay := t.take region.stop
    let cs := chosen all backward (matchesFrom m hay true region.start none)
    replace m t region template all backward magic
      = if cs.isEmpty then none
        else some (replaceMatches template hay magic region.stop region.start cs, cs.length) := by
  intro hay cs
  have hfound : (if backward && !all then
        (matchesFrom m hay (all || backward) region.start none).drop
          ((matchesFrom m hay (all || backward) region.start none).length - 1)
      else matchesFrom m hay (all || backward) region.start none) = cs := by
    cases all with
    | true => cases backward <;> rfl
    | false =>
      cases backward with
      | true => rfl
      | false => exact matchesFrom_false m hay region.start none
  rw [replace, Nat.min_eq_left h]
  simp only [hay] at hfound
  simp only [hfound, hay]

/-- Nothing is replaced if there are no matches. -/
theorem replace_eq_none (h : region.start ≤ t.length) (template : Text)
    (all backward magic : Bool) :
    replace m t region template all backward magic = none
      ↔ matchesFrom m (t.take region.stop) true region.start none = [] := by
  rw [replace_eq h template all backward magic, ← chosen_eq_nil_iff all backward,
    ← List.isEmpty_iff]
  split
  · next hempty => exact iff_of_true rfl hempty
  · next hempty => exact iff_of_false (Option.some_ne_none _) hempty

/-- If there are some, the chosen ones are replaced. -/
theorem replace_eq_some (h : region.start ≤ t.length) (template : Text) (all backward magic : Bool)
    (hne : matchesFrom m (t.take region.stop) true region.start none ≠ []) :
    let hay := t.take region.stop
    let cs := chosen all backward (matchesFrom m hay true region.start none)
    replace m t region template all backward magic
      = some (replaceMatches template hay magic region.stop region.start cs, cs.length) := by
  intro hay cs
  have hchosen : ¬ cs.isEmpty = true := by
    rw [List.isEmpty_iff, chosen_eq_nil_iff]
    exact hne
  exact (replace_eq h template all backward magic).trans (if_neg hchosen)

/-- The template for the whole match, with magic. -/
theorem expand_whole (hay : Text) (c : Captures) :
    Template.expand ['&'] hay c true = taken hay c := by
  have hcased (t : Text) : Template.cased {} t = t := by
    cases t with
    | nil => rfl
    | cons a t => exact congrArg (a :: ·) (List.flatMap_singleton' t)
  have hexpand : Template.expand ['&'] hay c true = Template.cased {} (taken hay c) ++ [] := rfl
  rw [hexpand, List.append_nil, hcased]

/-- **What replacing does.** Suppose matches are found in order, and the region is within the text.
The matches of the text up to the end of the region, one after the other from its start on, are one
certain list. If it is empty, then nothing is replaced, and this is so exactly if no match starts in
the region. If not, the chosen ones are replaced by the expanded template and counted, and the gaps
between them are kept; so the template for the whole match leaves the region as it is. -/
theorem replace_rewrites (hm : m.IsOrdered) (hle : region.start ≤ region.stop)
    (hstop : region.stop ≤ t.length) (template : Text) (all backward magic : Bool) :
    let hay := t.take region.stop
    let result := replace m t region template all backward magic
    (∃ cs, Successive m hay region.start none cs) ∧
      ∀ cs, Successive m hay region.start none cs →
        (result = none ↔ cs = []) ∧
        (cs = [] ↔ ∀ i, region.start ≤ i → i ≤ region.stop → m.capturesAt hay i = none) ∧
        (cs ≠ [] → ∃ new, result = some (new, (chosen all backward cs).length) ∧
          Rewritten hay (Template.expand template hay · magic) region.stop region.start
            (chosen all backward cs) (t.slice region.start region.stop) new ∧
          (template = ['&'] → magic = true → new = t.slice region.start region.stop)) := by
  intro hay result
  have hloop := successive_matchesFrom hm hay region.start none
  refine ⟨⟨_, hloop⟩, fun cs hcs ↦ ?_⟩
  have hlength : hay.length = region.stop := List.length_take_of_le hstop
  have hstart : region.start ≤ t.length := Nat.le_trans hle hstop
  obtain rfl := hcs.unique hloop
  refine ⟨replace_eq_none hstart template all backward magic, ?_, fun hne ↦ ?_⟩
  · rw [hcs.eq_nil_iff]
    refine forall₂_congr fun i _ ↦ ⟨fun hnone _ ↦ hnone, fun hnone ↦ ?_⟩
    by_cases hi : i ≤ region.stop
    · exact hnone hi
    · exact Matcher.capturesAt_eq_none_of_length_lt (hlength.symm ▸ Nat.lt_of_not_le hi)
  · have hresult := replace_eq_some hstart template all backward magic hne
    have hapart := (hcs.apart hm (hlength.symm ▸ hle)).sublist (chosen_sublist all backward _)
    have hold : Text.slice hay region.start hay.length = t.slice region.start region.stop := by
      rw [hlength, Text.slice, Text.slice, Nat.max_eq_right hle, List.take_take, Nat.min_self]
    have hrewritten := hapart.rewritten template magic
    rw [hold, hlength] at hrewritten
    refine ⟨_, hresult, hrewritten, ?_⟩
    rintro rfl rfl
    exact hrewritten.eq_of_taken (expand_whole hay)

/-- Runs of one letter, empty ones included. The empty run right behind the other one does not
count, and what stands in front of the region is left out. -/
theorem replace_rewrites_runs :
    let t := "éaab".toList
    ∃ m cs, Matcher.ofPattern? {} ['a', '*'] = some m ∧ Successive m (t.take 4) 1 none cs ∧
      cs.length = 2 ∧ replace m t ⟨1, 4⟩ ['-'] true false true = some ("-b-".toList, 2) := by
  intro t
  obtain ⟨m, hm⟩ : ∃ m, Matcher.ofPattern? {} ['a', '*'] = some m :=
    Option.isSome_iff_exists.mp (by rfl)
  have hresult : ∀ m ∈ Matcher.ofPattern? {} ['a', '*'],
      replace m t ⟨1, 4⟩ ['-'] true false true = some ("-b-".toList, 2) := by
    decide +kernel
  have hle : (Bounds.mk 1 4).start ≤ (Bounds.mk 1 4).stop := by decide
  obtain ⟨⟨cs, hcs⟩, hall⟩ := replace_rewrites (t := t) (Matcher.isOrdered_of_ofPattern? hm) hle
    (Nat.le_refl 4) ['-'] true false true
  obtain ⟨hnone, -, hsome⟩ := hall cs hcs
  rw [hresult m hm] at hnone hsome
  obtain ⟨new, hnew, -⟩ := hsome fun hnil ↦ Option.some_ne_none _ (hnone.mpr hnil)
  exact ⟨m, cs, hm, hcs, (congrArg Prod.snd (Option.some.inj hnew)).symm, hresult m hm⟩

end LineEditor.Search
