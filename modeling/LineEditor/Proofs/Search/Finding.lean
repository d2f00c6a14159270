import LineEditor.Search.Find
import Mathlib.Order.Bounds.Basic
import Mathlib.Order.Interval.Set.Defs

/-!
# What a search finds

Both directions of a search go forward from match to match, and step over each by one character: so
matches may overlap, and an empty one does not hold them up. A match that is the current bounds is
not counted, and where a backward search is to stop the next match is thrown away.

Nothing is used of the engine but that it finds matches from left to right: at each offset of a text
at most one match starts, wherever the search began, and the one found starts first. Then it is the
set of all offsets where a match starts that says what is found. A search takes the least of them or
the greatest, among those on its side of the current bounds, and if there are none on that side and
it may wrap, among all.
-/

namespace LineEditor

namespace Matcher

variable {m : Matcher} {matchAt : Text → Nat → Option Bounds}

/-- Matches are found from left to right, `matchAt` telling which one starts at an offset of a
text. -/
structure IsLeftmost (m : Matcher) (matchAt : Text → Nat → Option Bounds) : Prop where
  /-- A match starts where it is said to start, and ends within the text. -/
  bounds {hay : Text} {i : Nat} {b : Bounds} (h : matchAt hay i = some b) :
    b.start = i ∧ i ≤ b.stop ∧ b.stop ≤ hay.length
  /-- What is found is the match that starts first. -/
  found {hay : Text} {offset : Nat} {c : Pattern.Captures} (hoffset : offset ≤ hay.length)
    (h : m.firstFrom hay offset = some c) :
    matchAt hay c.whole.start = some c.whole ∧
      IsLeast {i | offset ≤ i ∧ (matchAt hay i).isSome} c.whole.start
  /-- Where nothing is found no match starts. -/
  missing {hay : Text} {offset : Nat} (hoffset : offset ≤ hay.length)
    (h : m.firstFrom hay offset = none) : ∀ i, offset ≤ i → matchAt hay i = none

/-- The matcher that tries the offsets one after the other. -/
def ofMatchAt (matchAt : Text → Nat → Option Bounds) : Matcher where
  firstFrom hay offset :=
    ((List.range' offset (hay.length + 1 - offset)).findSome? (matchAt hay)).map (⟨·, []⟩)

/-- Whatever match starts at an offset, some matcher finds matches from left to right. -/
theorem isLeftmost_ofMatchAt (hbounds : ∀ {hay i b}, matchAt hay i = some b →
    b.start = i ∧ i ≤ b.stop ∧ b.stop ≤ hay.length) : (ofMatchAt matchAt).IsLeftmost matchAt := by
  refine ⟨hbounds, ?_, ?_⟩
  · intro hay offset c _ h
    obtain ⟨b, hb, rfl⟩ := Option.map_eq_some_iff.mp h
    obtain ⟨front, i, rest, hrange, hi, hfront⟩ := List.findSome?_eq_some_iff.mp hb
    obtain ⟨rfl, hstop, hlength⟩ := hbounds hi
    have hmem : b.start ∈ List.range' offset (hay.length + 1 - offset) :=
      hrange ▸ List.mem_append_right _ List.mem_cons_self
    have hsorted : (List.range' offset (hay.length + 1 - offset)).Pairwise (· < ·) :=
      List.pairwise_lt_range'
    refine ⟨hi, ⟨(List.mem_range'_1.mp hmem).1, hi ▸ rfl⟩, fun j ⟨hj, hsome⟩ ↦ ?_⟩
    obtain ⟨b', hb'⟩ := Option.isSome_iff_exists.mp hsome
    obtain ⟨rfl, hstop', hlength'⟩ := hbounds hb'
    have hmem' : b'.start ∈ List.range' offset (hay.length + 1 - offset) :=
      List.mem_range'_1.mpr ⟨hj, by omega⟩
    rw [hrange] at hmem' hsorted
    rcases List.mem_append.mp hmem' with hbefore | hbehind
    · exact absurd hb' (hfront _ hbefore ▸ nofun)
    · rcases List.mem_cons.mp hbehind with heq | hrest
      · exact Nat.le_of_eq heq.symm
      · exact Nat.le_of_lt (List.rel_of_pairwise_cons (List.pairwise_append.mp hsorted).2.1 hrest)
  · intro hay offset _ h i hi
    have hnone := List.findSome?_eq_none_iff.mp (Option.map_eq_none_iff.mp h)
    by_cases hlength : i ≤ hay.length
    · exact hnone i (List.mem_range'_1.mpr ⟨hi, by omega⟩)
    · refine Option.eq_none_iff_forall_ne_some.mpr fun b hb ↦ ?_
      obtain ⟨rfl, hstop, hlength'⟩ := hbounds hb
      omega

end Matcher

namespace Search

variable {m : Matcher} {matchAt : Text → Nat → Option Bounds} {hay t : Text} {current b : Bounds}
  {limit : Option Nat} {offset : Nat} {f : SearchFlags} {c : Pattern.Captures}

/-! ## Where matches start -/

/-- The offsets where a match starts that is not `current`. -/
def otherStarts (matchAt : Text → Nat → Option Bounds) (hay : Text) (current : Bounds) : Set Nat :=
  {i | ∃ b, matchAt hay i = some b ∧ b ≠ current}

/-- Those of them that are not before an offset, but before the limit if there is one. -/
def startsFrom (matchAt : Text → Nat → Option Bounds) (hay : Text) (current : Bounds)
    (limit : Option Nat) (offset : Nat) : Set Nat :=
  otherStarts matchAt hay current ∩ {i | offset ≤ i ∧ ∀ n ∈ limit, i < n}

/-- Without a limit everything is before it. -/
theorem forall_mem_none {i : Nat} : ∀ n ∈ (none : Option Nat), i < n := fun _ h ↦ nomatch h

/-- No match starts behind the end of the text. -/
theorem le_length_of_mem_otherStarts (hm : m.IsLeftmost matchAt) {i : Nat}
    (hi : i ∈ otherStarts matchAt hay current) : i ≤ hay.length := by
  obtain ⟨b, hb, -⟩ := hi
  obtain ⟨-, hstop, hlength⟩ := hm.bounds hb
  exact Nat.le_trans hstop hlength

/-- Behind the end of the text there is no other match. -/
theorem startsFrom_of_length_lt (hm : m.IsLeftmost matchAt) (hoffset : ¬ offset ≤ hay.length) :
    startsFrom matchAt hay current limit offset = ∅ := by
  refine Set.eq_empty_of_forall_notMem fun i ⟨hother, hi, _⟩ ↦ hoffset ?_
  exact Nat.le_trans hi (le_length_of_mem_otherStarts hm hother)

/-- Where nothing is found there is none. -/
theorem startsFrom_of_missing (hm : m.IsLeftmost matchAt) (hoffset : offset ≤ hay.length)
    (hnone : m.firstFrom hay offset = none) :
    startsFrom matchAt hay current limit offset = ∅ := by
  refine Set.eq_empty_of_forall_notMem fun i ⟨⟨b, hb, _⟩, hi, _⟩ ↦ ?_
  rw [hm.missing hoffset hnone i hi] at hb
  exact nomatch hb

/-- Nor is there one if the first match starts at the limit or behind it. -/
theorem startsFrom_of_limit (hm : m.IsLeftmost matchAt) (hoffset : offset ≤ hay.length)
    (hc : m.firstFrom hay offset = some c) {n : Nat} (hn : n ≤ c.whole.start) :
    startsFrom matchAt hay current (some n) offset = ∅ := by
  refine Set.eq_empty_of_forall_notMem fun i ⟨⟨b, hb, _⟩, hi, hlt⟩ ↦ ?_
  have hstart : c.whole.start ≤ i := (hm.found hoffset hc).2.2 ⟨hi, hb ▸ rfl⟩
  exact absurd (hlt n rfl) (by omega)

/-- If the first match is before the limit, the others are that match, unless it is `current`, and
those that start behind it. -/
theorem startsFrom_of_found (hm : m.IsLeftmost matchAt) (hoffset : offset ≤ hay.length)
    (hc : m.firstFrom hay offset = some c) (hlimit : ∀ n ∈ limit, c.whole.start < n) :
    startsFrom matchAt hay current limit offset
      = {i | i = c.whole.start ∧ c.whole ≠ current}
        ∪ startsFrom matchAt hay current limit (c.whole.start + 1) := by
  obtain ⟨hmatch, ⟨hstart, -⟩, hleast⟩ := hm.found hoffset hc
  ext i
  constructor
  · rintro ⟨⟨b, hb, hne⟩, hi, hbefore⟩
    have hle : c.whole.start ≤ i := hleast ⟨hi, hb ▸ rfl⟩
    rcases Nat.eq_or_lt_of_le hle with rfl | hlt
    · obtain rfl : c.whole = b := Option.some.inj (hmatch.symm.trans hb)
      exact .inl ⟨rfl, hne⟩
    · exact .inr ⟨⟨b, hb, hne⟩, hlt, hbefore⟩
  · rintro (⟨rfl, hne⟩ | ⟨hother, hi, hbefore⟩)
    · exact ⟨⟨c.whole, hmatch, hne⟩, hstart, hlimit⟩
    · exact ⟨hother, Nat.le_trans hstart (Nat.le_of_succ_le hi), hbefore⟩

/-! ## The two loops -/

/-- The answer is the match that starts at the next one of the offsets `S`, and there is none only
if `S` is empty. -/
def Answers (matchAt : Text → Nat → Option Bounds) (hay : Text) (IsNext : Set Nat → Nat → Prop)
    (S : Set Nat) : Option Bounds → Prop
  | some b => matchAt hay b.start = some b ∧ IsNext S b.start
  | none => S = ∅

/-- Going forward, the first one of the other matches is found. -/
theorem firstOther_answers (hm : m.IsLeftmost matchAt) (hay : Text) (current : Bounds)
    (offset : Nat) : Answers matchAt hay IsLeast (startsFrom matchAt hay current none offset)
      (firstOther m hay current offset) := by
  fun_induction firstOther m hay current offset with
  | case1 offset hoffset hnone => exact startsFrom_of_missing hm hoffset hnone
  | case2 offset hoffset c hc hne =>
    obtain ⟨hmatch, ⟨hstart, -⟩, hleast⟩ := hm.found hoffset hc
    refine ⟨hmatch, ⟨⟨c.whole, hmatch, hne⟩, hstart, forall_mem_none⟩, ?_⟩
    rintro i ⟨⟨b, hb, -⟩, hi, -⟩
    exact hleast ⟨hi, hb ▸ rfl⟩
  | case3 offset hoffset c hc heq ih =>
    have hstart : offset ≤ c.whole.start := (hm.found hoffset hc).2.1.1
    have hskip : {i | i = c.whole.start ∧ c.whole ≠ current} = (∅ : Set Nat) :=
      Set.eq_empty_of_forall_notMem fun i hi ↦ heq hi.2
    rw [startsFrom_of_found hm hoffset hc forall_mem_none, hskip, Set.empty_union,
      Nat.max_eq_right hstart]
    rwa [Nat.max_eq_right hstart] at ih
  | case4 offset hoffset => exact startsFrom_of_length_lt hm hoffset

/-- Going backward, the last one of the other matches before the limit is found. If there is none,
the one met before is kept. -/
theorem lastOther_cases (hm : m.IsLeftmost matchAt) (hay : Text) (current : Bounds)
    (limit : Option Nat) (offset : Nat) (best : Option Bounds) :
    startsFrom matchAt hay current limit offset = ∅ ∧
        lastOther m hay current limit offset best = best ∨
      ∃ b, lastOther m hay current limit offset best = some b ∧ matchAt hay b.start = some b ∧
        IsGreatest (startsFrom matchAt hay current limit offset) b.start := by
  fun_induction lastOther m hay current limit offset best with
  | case1 offset best hoffset hnone => exact .inl ⟨startsFrom_of_missing hm hoffset hnone, rfl⟩
  | case2 offset best hoffset c hc hlimit =>
    obtain ⟨n, rfl, hn⟩ := (Option.any_eq_true _ _).mp hlimit
    exact .inl ⟨startsFrom_of_limit hm hoffset hc (of_decide_eq_true hn), rfl⟩
  | case3 offset best hoffset c hc hlimit best' ih =>
    obtain ⟨hmatch, ⟨hstart, -⟩, -⟩ := hm.found hoffset hc
    have hbefore : ∀ n ∈ limit, c.whole.start < n := by
      rintro n rfl
      simpa using hlimit
    rw [Nat.max_eq_right hstart] at ih ⊢
    rw [startsFrom_of_found hm hoffset hc hbefore]
    rcases ih with ⟨hnone, hbest⟩ | ⟨b, hlast, hb, hgreatest⟩
    · rw [hnone, hbest, Set.union_empty]
      by_cases hne : c.whole = current
      · exact .inl ⟨Set.eq_empty_of_forall_notMem fun i hi ↦ hi.2 hne, if_neg (not_not.mpr hne)⟩
      · exact .inr ⟨c.whole, if_pos hne, hmatch, ⟨rfl, hne⟩, fun i hi ↦ Nat.le_of_eq hi.1⟩
    · -- a match behind the first one is later than it
      refine .inr ⟨b, hlast, hb, .inr hgreatest.1, ?_⟩
      rintro i (⟨rfl, -⟩ | hi)
      · exact Nat.le_of_succ_le hgreatest.1.2.1
      · exact hgreatest.2 hi
  | case4 offset best hoffset => exact .inl ⟨startsFrom_of_length_lt hm hoffset, rfl⟩

theorem lastOther_answers (hm : m.IsLeftmost matchAt) (hay : Text) (current : Bounds)
    (limit : Option Nat) (offset : Nat) :
    Answers matchAt hay IsGreatest (startsFrom matchAt hay current limit offset)
      (lastOther m hay current limit offset none) := by
  rcases lastOther_cases hm hay current limit offset none with ⟨hnone, hlast⟩ | ⟨b, hlast, hb⟩
  · rw [hlast]
    exact hnone
  · rw [hlast]
    exact hb

end Search

/-! ## Searches -/

namespace SearchFlags

/-- The text that a search sees. -/
def haystack (f : SearchFlags) (t : Text) (current : Bounds) : Text :=
  if f.restricted then t.take current.stop else t

/-- The side of the current bounds that a search looks on, or their inside if it is restricted to
them. -/
def side (f : SearchFlags) (current : Bounds) : Set Nat :=
  if f.restricted then Set.Icc current.start current.stop
  else if f.backward then Set.Iio current.start
  else Set.Ici current.stop

/-- The offset is the next one of some in the direction of the search. -/
def IsNext (f : SearchFlags) : Set Nat → Nat → Prop :=
  if f.backward then IsGreatest else IsLeast

/-- The search goes on with the whole text where there is nothing on its side. -/
def wraps (f : SearchFlags) : Bool := f.wrapScan && !f.restricted

variable {f : SearchFlags} {S : Set Nat} {i j : Nat}

theorem isNext_of_backward (hb : f.backward = true) : f.IsNext = IsGreatest := if_pos hb

theorem isNext_of_forward (hb : f.backward = false) : f.IsNext = IsLeast :=
  if_neg (Bool.eq_false_iff.mp hb)

/-- There is one next offset at most. -/
theorem IsNext.unique (hi : f.IsNext S i) (hj : f.IsNext S j) : i = j := by
  cases hb : f.backward with
  | true =>
    rw [isNext_of_backward hb] at hi hj
    exact hi.unique hj
  | false =>
    rw [isNext_of_forward hb] at hi hj
    exact hi.unique hj

theorem IsNext.mem (hi : f.IsNext S i) : i ∈ S := by
  cases hb : f.backward with
  | true =>
    rw [isNext_of_backward hb] at hi
    exact hi.1
  | false =>
    rw [isNext_of_forward hb] at hi
    exact hi.1

end SearchFlags

namespace Search

variable {m : Matcher} {matchAt : Text → Nat → Option Bounds} {hay t : Text} {current b : Bounds}
  {f : SearchFlags}

/-- Without a limit, the matches from an offset on. -/
theorem startsFrom_none (matchAt : Text → Nat → Option Bounds) (hay : Text) (current : Bounds)
    (offset : Nat) : startsFrom matchAt hay current none offset
      = otherStarts matchAt hay current ∩ Set.Ici offset := by
  ext i
  exact and_congr_right fun _ ↦ and_iff_left forall_mem_none

/-- From the start of the text, the matches up to a limit. -/
theorem startsFrom_some_zero (matchAt : Text → Nat → Option Bounds) (hay : Text)
    (current : Bounds) (n : Nat) : startsFrom matchAt hay current (some n) 0
      = otherStarts matchAt hay current ∩ Set.Iio n := by
  ext i
  refine and_congr_right fun _ ↦ ⟨fun h ↦ h.2 n rfl, fun h ↦ ⟨Nat.zero_le i, fun k hk ↦ ?_⟩⟩
  exact Option.some.inj hk ▸ h

/-- In a text cut at the end of the current bounds, the matches inside them. -/
theorem startsFrom_inside (hm : m.IsLeftmost matchAt) (hstop : current.stop ≤ t.length) :
    startsFrom matchAt (t.take current.stop) current none current.start
      = otherStarts matchAt (t.take current.stop) current
        ∩ Set.Icc current.start current.stop := by
  have hlength : (t.take current.stop).length = current.stop := List.length_take_of_le hstop
  rw [startsFrom_none]
  ext i
  refine and_congr_right fun hi ↦ ⟨fun h ↦ ⟨h, ?_⟩, fun h ↦ h.1⟩
  exact hlength ▸ le_length_of_mem_otherStarts hm hi

/-- On its side, a search finds the next one of the other matches. -/
theorem answers_side (hm : m.IsLeftmost matchAt) (hle : current.start ≤ current.stop)
    (hstop : current.stop ≤ t.length) (hsticky : f.sticky = false) :
    Answers matchAt (f.haystack t current) f.IsNext
      (otherStarts matchAt (f.haystack t current) current ∩ f.side current)
      (if f.backward then backward m t current f else forward m t current f) := by
  have hstart : min current.start t.length = current.start :=
    Nat.min_eq_left (Nat.le_trans hle hstop)
  have hend : min current.stop t.length = current.stop := Nat.min_eq_left hstop
  have hfalse {p : Prop} : ¬ (false = true ∧ p) := fun h ↦ nomatch h.1
  cases hr : f.restricted <;> cases hb : f.backward <;>
    simp only [SearchFlags.haystack, SearchFlags.side, backward, forward, hr, hb, hsticky, hstart,
      hend, if_true, Bool.false_eq_true, if_false]
  · rw [SearchFlags.isNext_of_forward hb, ← startsFrom_none]
    exact firstOther_answers hm t current current.stop
  · rw [SearchFlags.isNext_of_backward hb, ← startsFrom_some_zero]
    exact lastOther_answers hm t current (some current.start) 0
  · rw [SearchFlags.isNext_of_forward hb, ← startsFrom_inside hm hstop]
    exact firstOther_answers hm _ current current.start
  · rw [SearchFlags.isNext_of_backward hb, ← startsFrom_inside hm hstop]
    exact lastOther_answers hm _ current none current.start

/-- In the whole text, it finds the next one of all other matches. -/
theorem answers_all (hm : m.IsLeftmost matchAt) (t : Text) (current : Bounds) (f : SearchFlags) :
    Answers matchAt t f.IsNext (otherStarts matchAt t current)
      (if f.backward then lastOther m t current none 0 none else firstOther m t current 0) := by
  have hall : otherStarts matchAt t current = startsFrom matchAt t current none 0 := by
    rw [startsFrom_none]
    exact (Set.inter_eq_left.mpr fun i _ ↦ Nat.zero_le i).symm
  rw [hall]
  cases hb : f.backward with
  | true =>
    rw [SearchFlags.isNext_of_backward hb]
    exact lastOther_answers hm t current none 0
  | false =>
    rw [SearchFlags.isNext_of_forward hb]
    exact firstOther_answers hm t current 0

/-- What is answered is the match at the next offset. -/
theorem Answers.eq_some_iff {S : Set Nat} {r : Option Bounds}
    (h : Answers matchAt hay f.IsNext S r) :
    r = some b ↔ matchAt hay b.start = some b ∧ f.IsNext S b.start := by
  constructor
  · rintro rfl
    exact h
  · rintro ⟨hb, hnext⟩
    cases r with
    | none => exact absurd hnext.mem (h ▸ Set.notMem_empty _)
    | some b' =>
      obtain ⟨hb', hnext'⟩ := h
      rw [← hb, ← hb', hnext'.unique hnext]

theorem Answers.eq_none_iff {S : Set Nat} {r : Option Bounds}
    (h : Answers matchAt hay f.IsNext S r) : r = none ↔ S = ∅ := by
  constructor
  · rintro rfl
    exact h
  · rintro rfl
    cases r with
    | none => rfl
    | some b => exact absurd h.2.mem (Set.notMem_empty _)

/-- A search that may wrap does so if it finds nothing on its side. -/
theorem find_eq (hsticky : f.sticky = false) (m : Matcher) (t : Text) (current : Bounds) :
    find m t current f =
      let found := if f.backward then backward m t current f else forward m t current f
      if found = none ∧ f.wraps then
        if f.backward then lastOther m t current none 0 none else firstOther m t current 0
      else found := by
  unfold find SearchFlags.wraps
  extract_lets found
  cases found <;> cases f.wrapScan <;> cases f.restricted <;> simp [hsticky]

/-- It answers with the next match on its side or, if it wraps, with the next of all. -/
theorem answers_find (hm : m.IsLeftmost matchAt) (hle : current.start ≤ current.stop)
    (hstop : current.stop ≤ t.length) (hsticky : f.sticky = false) :
    let hay := f.haystack t current
    let others := otherStarts matchAt hay current
    let near := others ∩ f.side current
    Answers matchAt hay f.IsNext (if near = ∅ ∧ f.wraps then others else near)
      (find m t current f) := by
  intro hay others near
  have hside := answers_side hm hle hstop hsticky
  rw [find_eq hsticky]
  simp only [hside.eq_none_iff]
  by_cases hwraps : near = ∅ ∧ f.wraps
  · have hhay : hay = t := by
      have hr : f.restricted = false := by
        have h := hwraps.2
        simp only [SearchFlags.wraps, Bool.and_eq_true, Bool.not_eq_true'] at h
        exact h.2
      exact if_neg (Bool.eq_false_iff.mp hr)
    rw [if_pos hwraps, if_pos hwraps]
    simp only [others, hhay]
    exact answers_all hm t current f
  · rw [if_neg hwraps, if_neg hwraps]
    exact hside

/-- **What a search finds.** Suppose matches are found from left to right, and the current bounds
are within the text. A search that is not sticky finds the next match in its direction, other than
the current bounds, among those that start on its side: at or behind the end of the current bounds,
before their start, or inside them if it is restricted to them, and then the text ends with them. If
none starts there and it may wrap, it finds the first or the last of all matches. It finds nothing
only if there are none. What it finds is not the current bounds, and lies inside them if it is
restricted. -/
theorem find_eq_next (hm : m.IsLeftmost matchAt) (hle : current.start ≤ current.stop)
    (hstop : current.stop ≤ t.length) (hsticky : f.sticky = false) :
    let hay := f.haystack t current
    let others := otherStarts matchAt hay current
    let near := others ∩ f.side current
    (∀ b, find m t current f = some b ↔ matchAt hay b.start = some b ∧
      (f.IsNext near b.start ∨ near = ∅ ∧ f.wraps ∧ f.IsNext others b.start)) ∧
      (find m t current f = none ↔ near = ∅ ∧ (f.wraps → others = ∅)) ∧
      ∀ b, find m t current f = some b → b ≠ current ∧
        (f.restricted → current.start ≤ b.start ∧ b.stop ≤ current.stop) := by
  intro hay others near
  have hanswers := answers_find hm hle hstop hsticky
  have hnear : near = ∅ → ∀ i, ¬ f.IsNext near i := fun hempty i hi ↦
    Set.notMem_empty i (hempty ▸ hi.mem)
  refine ⟨fun b ↦ ?_, ?_, fun b hb ↦ ?_⟩
  · rw [hanswers.eq_some_iff]
    refine and_congr_right fun _ ↦ ?_
    by_cases hwraps : near = ∅ ∧ f.wraps
    · rw [if_pos hwraps]
      exact ⟨fun h ↦ .inr ⟨hwraps.1, hwraps.2, h⟩,
        fun h ↦ h.elim (fun h ↦ absurd h (hnear hwraps.1 _)) fun h ↦ h.2.2⟩
    · rw [if_neg hwraps]
      exact ⟨.inl, fun h ↦ h.elim id fun h ↦ absurd ⟨h.1, h.2.1⟩ hwraps⟩
  · rw [hanswers.eq_none_iff]
    by_cases hwraps : near = ∅ ∧ f.wraps
    · rw [if_pos hwraps]
      exact ⟨fun h ↦ ⟨hwraps.1, fun _ ↦ h⟩, fun h ↦ h.2 hwraps.2⟩
    · rw [if_neg hwraps]
      exact ⟨fun h ↦ ⟨h, fun hw ↦ absurd ⟨h, hw⟩ hwraps⟩, fun h ↦ h.1⟩
  · obtain ⟨hmatch, hnext⟩ := hanswers.eq_some_iff.mp hb
    obtain ⟨-, -, hlength⟩ := hm.bounds hmatch
    have hmem := hnext.mem
    have hother : b.start ∈ others := by
      split at hmem
      · exact hmem
      · exact hmem.1
    obtain ⟨b', hb', hne⟩ := hother
    refine ⟨Option.some.inj (hb'.symm.trans hmatch) ▸ hne, fun hr ↦ ?_⟩
    -- a restricted search does not wrap
    have hwraps : ¬ (near = ∅ ∧ f.wraps) := by
      simp [SearchFlags.wraps, hr]
    rw [if_neg hwraps] at hmem
    have hside : b.start ∈ Set.Icc current.start current.stop := by
      have h := hmem.2
      rwa [SearchFlags.side, if_pos hr] at h
    have hhay : hay.length = current.stop := by
      simp only [hay, SearchFlags.haystack, if_pos hr, List.length_take_of_le hstop]
    exact ⟨hside.1, hhay ▸ hlength⟩

/-- Runs of one letter, empty ones included. From the empty run at the start, a search backward
wraps to the empty run at the end, which is the last one. -/
theorem find_eq_next_wrapping :
    let matchAt (hay : Text) (i : Nat) : Option Bounds :=
      if i ≤ hay.length then some ⟨i, i + ((hay.drop i).takeWhile (· = 'a')).length⟩ else none
    find (.ofMatchAt matchAt) "éaab".toList ⟨0, 0⟩ { backward := true } = some ⟨4, 4⟩ := by
  intro matchAt
  have hbounds {hay : Text} {i : Nat} {b : Bounds} (h : matchAt hay i = some b) :
      b.start = i ∧ i ≤ b.stop ∧ b.stop ≤ hay.length := by
    simp only [matchAt, Option.ite_none_right_eq_some, Option.some.injEq] at h
    obtain ⟨hi, rfl⟩ := h
    have hrun := (List.takeWhile_prefix (· = 'a') (l := hay.drop i)).length_le
    rw [List.length_drop] at hrun
    exact ⟨rfl, Nat.le_add_right _ _, by simp only; omega⟩
  have hm := Matcher.isLeftmost_ofMatchAt hbounds
  have hle : (Bounds.mk 0 0).start ≤ (Bounds.mk 0 0).stop := Nat.le_refl 0
  obtain ⟨hfinds, -⟩ := find_eq_next (t := "éaab".toList) (f := { backward := true }) hm hle
    (Nat.zero_le _) rfl
  refine (hfinds ⟨4, 4⟩).mpr ⟨rfl, .inr ⟨?_, rfl, ⟨_, rfl, by decide⟩, fun i hi ↦ ?_⟩⟩
  · exact Set.eq_empty_of_forall_notMem fun i hi ↦ Nat.not_lt_zero i hi.2
  · exact le_length_of_mem_otherStarts hm hi

end Search

end LineEditor
