import LineEditor.Proofs.Pattern.Framing
import LineEditor.Proofs.Search.Finding
import LineEditor.Search.Replace

/-!
# Matches one after the other

A matcher goes through a text in order if what it finds from an offset on is the match that starts
first there, whichever offset up to it the search began at. Then at each offset of a text one match
starts at most, and the matcher finds these. The matchers of patterns are of this kind.

Taken one after the other, matches do not overlap: each is the first one that starts at the end of
the one before or behind it. An empty match right at that end does not count, as it would say
nothing that the match before has not said. This is put down here as a relation between a text and
the list of its matches, without a word about how they are looked for; the loop that looks for them
makes such a list, and there is only one.
-/

namespace LineEditor

open Pattern (Captures)

namespace Matcher

variable {m : Matcher} {hay : Text} {offset i : Nat} {c : Captures}

/-- Matches are found in order. -/
structure IsOrdered (m : Matcher) : Prop where
  /-- What is found from an offset on is within the text and does not start before the offset. -/
  bounds {hay : Text} {offset : Nat} {c : Captures} (hoffset : offset ≤ hay.length)
    (h : m.firstFrom hay offset = some c) :
    offset ≤ c.whole.start ∧ c.whole.start ≤ c.whole.stop ∧ c.whole.stop ≤ hay.length
  /-- It is found from every offset between. -/
  found {hay : Text} {offset i : Nat} {c : Captures} (h : m.firstFrom hay offset = some c)
    (hoffset : offset ≤ i) (hi : i ≤ c.whole.start) : m.firstFrom hay i = some c
  /-- Where nothing is found, nothing is found further on. -/
  missing {hay : Text} {offset i : Nat} (h : m.firstFrom hay offset = none) (hoffset : offset ≤ i)
    (hi : i ≤ hay.length) : m.firstFrom hay i = none

/-- The match that starts at an offset, if one does. -/
def capturesAt (m : Matcher) (hay : Text) (i : Nat) : Option Captures :=
  if i ≤ hay.length then (m.firstFrom hay i).filter (·.whole.start = i) else none

/-- What it takes. -/
def boundsAt (m : Matcher) (hay : Text) (i : Nat) : Option Bounds :=
  (m.capturesAt hay i).map (·.whole)

theorem capturesAt_eq_some_iff :
    m.capturesAt hay i = some c
      ↔ i ≤ hay.length ∧ m.firstFrom hay i = some c ∧ c.whole.start = i := by
  rw [capturesAt, Option.ite_none_right_eq_some, Option.filter_eq_some_iff, decide_eq_true_eq]

theorem capturesAt_eq_none_of_length_lt (h : hay.length < i) : m.capturesAt hay i = none :=
  if_neg (Nat.not_le_of_lt h)

namespace IsOrdered

variable (hm : m.IsOrdered)

include hm

theorem capturesAt_bounds (h : m.capturesAt hay i = some c) :
    c.whole.start = i ∧ i ≤ c.whole.stop ∧ c.whole.stop ≤ hay.length := by
  obtain ⟨hi, hfound, rfl⟩ := capturesAt_eq_some_iff.mp h
  exact ⟨rfl, (hm.bounds hi hfound).2⟩

/-- What is found from an offset on is the match at its start. -/
theorem capturesAt_start (hoffset : offset ≤ hay.length) (h : m.firstFrom hay offset = some c) :
    m.capturesAt hay c.whole.start = some c := by
  obtain ⟨hstart, hle, hstop⟩ := hm.bounds hoffset h
  exact capturesAt_eq_some_iff.mpr
    ⟨Nat.le_trans hle hstop, hm.found h hstart (Nat.le_refl _), rfl⟩

/-- No match starts between. -/
theorem start_le (h : m.firstFrom hay offset = some c) {c' : Captures} (hoffset : offset ≤ i)
    (hi : m.capturesAt hay i = some c') : c.whole.start ≤ i := by
  by_contra hlt
  obtain ⟨-, hfound, hstart⟩ := capturesAt_eq_some_iff.mp hi
  have hlt := Nat.lt_of_not_le hlt
  rw [hm.found h hoffset (Nat.le_of_lt hlt)] at hfound
  obtain rfl := Option.some.inj hfound
  exact Nat.lt_irrefl _ (hstart ▸ hlt)

/-- Where nothing is found no match starts. -/
theorem capturesAt_of_missing (h : m.firstFrom hay offset = none) (hoffset : offset ≤ i) :
    m.capturesAt hay i = none := by
  rw [capturesAt]
  split
  · next hi => rw [hm.missing h hoffset hi, Option.filter_none]
  · rfl

/-- From left to right, as searches go. -/
theorem isLeftmost : m.IsLeftmost m.boundsAt := by
  refine ⟨fun h ↦ ?_, fun hoffset h ↦ ?_, fun hoffset h i hi ↦ ?_⟩
  · obtain ⟨c, hc, rfl⟩ := Option.map_eq_some_iff.mp h
    exact hm.capturesAt_bounds hc
  · refine ⟨congrArg _ (hm.capturesAt_start hoffset h), ⟨(hm.bounds hoffset h).1, ?_⟩, ?_⟩
    · rw [boundsAt, hm.capturesAt_start hoffset h]
      rfl
    · rintro i ⟨hi, hsome⟩
      obtain ⟨b, hb⟩ := Option.isSome_iff_exists.mp hsome
      obtain ⟨c', hc', -⟩ := Option.map_eq_some_iff.mp hb
      exact hm.start_le h hi hc'
  · rw [boundsAt, hm.capturesAt_of_missing h hi]
    rfl

end IsOrdered

/-- A matcher that goes from offset to offset until a match starts finds matches in order. -/
theorem isOrdered_of_or (matchAt : Text → Nat → Option Captures)
    (hbounds : ∀ {hay i c}, i ≤ hay.length → matchAt hay i = some c →
      c.whole.start = i ∧ i ≤ c.whole.stop ∧ c.whole.stop ≤ hay.length)
    (hnext : ∀ {hay i}, i ≤ hay.length →
      m.firstFrom hay i = (matchAt hay i).or (m.firstFrom hay (i + 1)))
    (hend : ∀ {hay i}, hay.length < i → m.firstFrom hay i = none) : m.IsOrdered := by
  have hfound {hay : Text} {i : Nat} {c : Captures} (h : m.firstFrom hay i = some c) :
      i ≤ hay.length ∧
        (matchAt hay i = some c ∨ matchAt hay i = none ∧ m.firstFrom hay (i + 1) = some c) := by
    have hi : i ≤ hay.length := by
      by_contra hlt
      exact Option.some_ne_none c (h.symm.trans (hend (Nat.lt_of_not_le hlt)))
    exact ⟨hi, Option.or_eq_some_iff.mp ((hnext hi).symm.trans h)⟩
  have hwithin {hay : Text} {c : Captures} (n : Nat) : ∀ {i : Nat}, hay.length + 1 - i = n →
      m.firstFrom hay i = some c →
      i ≤ c.whole.start ∧ c.whole.start ≤ c.whole.stop ∧ c.whole.stop ≤ hay.length := by
    induction n with
    | zero =>
      intro i hn h
      have hi := (hfound h).1
      omega
    | succ n ih =>
      intro i hn h
      obtain ⟨hi, hmatch | ⟨-, hlater⟩⟩ := hfound h
      · obtain ⟨rfl, hstop, hlength⟩ := hbounds hi hmatch
        exact ⟨Nat.le_refl _, hstop, hlength⟩
      · obtain ⟨hstart, hrest⟩ := ih (by omega) hlater
        exact ⟨Nat.le_of_succ_le hstart, hrest⟩
  refine ⟨fun _ h ↦ hwithin _ rfl h, fun h hoffset hi ↦ ?_, fun h hoffset hi ↦ ?_⟩
  · induction hoffset with
    | refl => exact h
    | @step i hoffset ih =>
      obtain ⟨hi', hmatch | ⟨-, hlater⟩⟩ := hfound (ih (Nat.le_of_succ_le hi))
      · exact absurd (hbounds hi' hmatch).1 (Nat.ne_of_gt hi)
      · exact hlater
  · induction hoffset with
    | refl => exact h
    | @step i hoffset ih =>
      have hi' := Nat.le_of_succ_le hi
      exact (Option.or_eq_none_iff.mp ((hnext hi').symm.trans (ih hi'))).2

/-- **Patterns are matched in order.** -/
theorem isOrdered_of_ofPattern? {flags : Pattern.Flags} {source : Text}
    (h : ofPattern? flags source = some m) : m.IsOrdered := by
  obtain ⟨parsed, hparsed, rfl⟩ := Option.map_eq_some_iff.mp h
  have hframed := Pattern.Program.isFramed_ofExpr (Pattern.isNumbered_of_parse? hparsed)
    parsed.groups
  generalize Pattern.Program.ofExpr parsed.expr parsed.groups = p at hframed
  refine isOrdered_of_or (fun hay i ↦ (p.anchored hay i).bind p.capturesOf) (fun hi hmatch ↦ ?_)
    (fun hi ↦ p.search_eq_or hi fun slots hslots ↦ ?_) fun hi ↦ ?_
  · obtain ⟨slots, hslots, hc⟩ := Option.bind_eq_some_iff.mp hmatch
    obtain ⟨c', hc', hstart, hstop, hlength⟩ := hframed.exists_of_anchored hi hslots
    obtain rfl := Option.some.inj (hc'.symm.trans hc)
    exact ⟨hstart, hstop, hlength⟩
  · obtain ⟨c, hc, -⟩ := hframed.exists_of_anchored hi hslots
    exact Option.isSome_iff_exists.mpr ⟨c, hc⟩
  · simp only [Pattern.Program.search, if_pos hi]
    rfl

end Matcher

namespace Search

variable {m : Matcher} {hay : Text} {offset offset' : Nat} {last last' : Option Nat}
  {c : Captures} {cs cs' : List Captures}

/-- The offsets from some offset on where a match starts that counts, `last` being where the match
before ended. -/
def countedStarts (m : Matcher) (hay : Text) (offset : Nat) (last : Option Nat) : Set Nat :=
  {i | offset ≤ i ∧ ∃ c, m.capturesAt hay i = some c ∧ ¬ (c.whole.stop = i ∧ last = some i)}

/-- These are all the matches from an offset on, one after the other. -/
inductive Successive (m : Matcher) (hay : Text) :
    (offset : Nat) → (last : Option Nat) → List Captures → Prop
  /-- There is none that counts. -/
  | nil {offset : Nat} {last : Option Nat} (h : countedStarts m hay offset last = ∅) :
    Successive m hay offset last []
  /-- The first one that counts, and those from its end on. -/
  | cons {offset : Nat} {last : Option Nat} {c : Captures} {cs : List Captures}
    (hstart : IsLeast (countedStarts m hay offset last) c.whole.start)
    (hc : m.capturesAt hay c.whole.start = some c)
    (hcs : Successive m hay c.whole.stop (some c.whole.stop) cs) :
    Successive m hay offset last (c :: cs)

namespace Successive

/-- There is only one such list. -/
theorem unique (h : Successive m hay offset last cs) (h' : Successive m hay offset last cs') :
    cs = cs' := by
  induction h generalizing cs' with
  | nil hempty =>
    cases h' with
    | nil => rfl
    | cons hstart => exact absurd (hempty ▸ hstart.1) (Set.notMem_empty _)
  | cons hstart hc hcs ih =>
    cases h' with
    | nil hempty => exact absurd (hempty ▸ hstart.1) (Set.notMem_empty _)
    | cons hstart' hc' hcs' =>
      rw [hstart.unique hstart', hc'] at hc
      obtain rfl := Option.some.inj hc
      rw [ih hcs']

/-- The list depends on the matches that count only. -/
theorem congr (h : Successive m hay offset last cs)
    (hsame : countedStarts m hay offset last = countedStarts m hay offset' last') :
    Successive m hay offset' last' cs := by
  cases h with
  | nil hempty => exact .nil (hsame ▸ hempty)
  | cons hstart hc hcs => exact .cons (hsame ▸ hstart) hc hcs

end Successive

/-! ## The loop -/

/-- Behind the end of the text there is nothing. -/
theorem countedStarts_of_length_lt (h : hay.length < offset) :
    countedStarts m hay offset last = ∅ := by
  refine Set.eq_empty_of_forall_notMem fun i ⟨hi, c, hc, _⟩ ↦ ?_
  rw [Matcher.capturesAt_eq_none_of_length_lt (Nat.lt_of_lt_of_le h hi)] at hc
  exact Option.some_ne_none c hc.symm

variable (hm : m.IsOrdered)

include hm

theorem countedStarts_of_missing (h : m.firstFrom hay offset = none) :
    countedStarts m hay offset last = ∅ := by
  refine Set.eq_empty_of_forall_notMem fun i ⟨hi, c, hc, _⟩ ↦ ?_
  rw [hm.capturesAt_of_missing h hi] at hc
  exact Option.some_ne_none c hc.symm

/-- Where the first match is found, unless it does not count. -/
theorem isLeast_countedStarts (hoffset : offset ≤ hay.length)
    (h : m.firstFrom hay offset = some c)
    (hcounts : ¬ (c.whole.start = c.whole.stop ∧ last = some c.whole.start)) :
    IsLeast (countedStarts m hay offset last) c.whole.start := by
  refine ⟨⟨(hm.bounds hoffset h).1, c, hm.capturesAt_start hoffset h, ?_⟩, ?_⟩
  · exact fun hempty ↦ hcounts ⟨hempty.1.symm, hempty.2⟩
  · rintro i ⟨hi, c', hc', -⟩
    exact hm.start_le h hi hc'

/-- If it does not, those behind it are left. -/
theorem countedStarts_of_skipped (hoffset : offset ≤ hay.length)
    (h : m.firstFrom hay offset = some c) (hempty : c.whole.stop = c.whole.start)
    (hlast : last = some c.whole.start) :
    countedStarts m hay offset last = countedStarts m hay (c.whole.start + 1) last := by
  have hstart := (hm.bounds hoffset h).1
  refine Set.ext fun i ↦ ⟨fun ⟨hi, c', hc', hcounts⟩ ↦ ?_, fun ⟨hi, hc'⟩ ↦ ?_⟩
  · refine ⟨Nat.lt_of_le_of_ne (hm.start_le h hi hc') ?_, c', hc', hcounts⟩
    rintro rfl
    rw [hm.capturesAt_start hoffset h] at hc'
    obtain rfl := Option.some.inj hc'
    exact hcounts ⟨hempty, hlast⟩
  · exact ⟨Nat.le_trans hstart (Nat.le_of_succ_le hi), hc'⟩

/-- Behind an empty match, the search may as well go on one character further. -/
theorem countedStarts_of_empty (hc : m.capturesAt hay c.whole.start = some c)
    (hempty : c.whole.stop = c.whole.start) :
    countedStarts m hay c.whole.stop (some c.whole.stop)
      = countedStarts m hay (c.whole.start + 1) (some c.whole.stop) := by
  obtain ⟨hi, hfound, -⟩ := Matcher.capturesAt_eq_some_iff.mp hc
  rw [hempty]
  exact countedStarts_of_skipped hm hi hfound hempty rfl

/-- **The matches of a text.** The loop finds all matches from an offset on, one after the other. -/
theorem successive_matchesFrom (hay : Text) (offset : Nat) (last : Option Nat) :
    Successive m hay offset last (matchesFrom m hay true offset last) := by
  fun_induction matchesFrom m hay true offset last with
  | case1 offset last hoffset hnone => exact .nil (countedStarts_of_missing hm hnone)
  | case2 offset last hoffset c hc start stop hwhole next hskip ih =>
    obtain ⟨whole, groups⟩ := c
    cases hwhole
    obtain ⟨rfl, hlast⟩ := hskip
    have hstart : offset ≤ start := (hm.bounds hoffset hc).1
    have hnext : next = start + 1 := by
      simp only [next, dif_neg (Nat.lt_irrefl start)]
      omega
    rw [hnext] at ih ⊢
    exact ih.congr (countedStarts_of_skipped hm hoffset hc rfl hlast).symm
  | case3 offset last hoffset c hc start stop hwhole next hcounts ih =>
    obtain ⟨whole, groups⟩ := c
    cases hwhole
    obtain ⟨hstart, hle, -⟩ : offset ≤ start ∧ start ≤ stop ∧ _ := hm.bounds hoffset hc
    have hmatch := hm.capturesAt_start hoffset hc
    rw [if_pos rfl]
    refine .cons (isLeast_countedStarts hm hoffset hc hcounts) hmatch ?_
    rcases Nat.eq_or_lt_of_le hle with rfl | hlt
    · have hnext : next = start + 1 := by
        simp only [next, dif_neg (Nat.lt_irrefl start)]
        omega
      rw [hnext] at ih ⊢
      exact ih.congr (countedStarts_of_empty hm hmatch rfl).symm
    · have hnext : next = stop := by
        simp only [next, dif_pos hlt]
        omega
      rwa [hnext] at ih ⊢
  | case4 offset last hoffset => exact .nil (countedStarts_of_length_lt (Nat.lt_of_not_le hoffset))

end Search

end LineEditor
