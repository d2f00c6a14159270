import LineEditor.Document.Range
import LineEditor.Proofs.Search.Order

/-!
# Searching again from the only match

Where a text has one match only and a range covers it, one expects a search to find nothing. The one
match is that of going through the text from match to match, though, and a search does not go on in
this way: where it meets the current bounds, it goes on one character behind their start. A match
that starts inside of the bounds is none of the matches of the text, but it is found, and so is an
empty one at their end. Where the search can reach such a match depends on its flags, and if there
is none, then nothing is found indeed.
-/

namespace LineEditor

open Pattern (Captures)

/-- Where a search from the only match of a text can find another one: if it wraps, behind the
start of the match up to its end; if not, at its end only, or nowhere if it goes backward; and if it
is restricted, inside, and there at the start only if it is sticky and goes forward. -/
def SearchFlags.reach (f : SearchFlags) (current : Bounds) : Set Nat :=
  if f.restricted then
    if f.sticky && !f.backward then {current.start} else Set.Icc current.start current.stop
  else if f.wrapScan && !f.sticky then Set.Ioc current.start current.stop
  else if f.backward then ∅ else {current.stop}

namespace SearchFlags

variable {f : SearchFlags} {current : Bounds} {S : Set Nat}

theorem length_haystack_le (f : SearchFlags) (t : Text) (current : Bounds) :
    (f.haystack t current).length ≤ t.length := by
  rw [haystack]
  split
  · exact List.length_take_le' _ t
  · exact Nat.le_refl _

/-- Offsets behind the start of the match and not behind its end are all within reach if the search
wraps. -/
theorem inter_reach_eq (hr : f.restricted = false) (hw : f.wrapScan = true)
    (hsticky : f.sticky = false) (hS : S ⊆ Set.Ioc current.start current.stop) :
    S ∩ f.reach current = S := by
  refine Set.inter_eq_left.mpr ?_
  rwa [reach, hr, hw, hsticky]

/-- If it does not, those on its side are within reach. -/
theorem inter_side_eq (hr : f.restricted = false) (hw : f.wrapScan = false)
    (hS : S ⊆ Set.Ioc current.start current.stop) :
    S ∩ f.side current = S ∩ f.reach current := by
  ext i
  refine and_congr_right fun hi ↦ ?_
  obtain ⟨hstart, hend⟩ := hS hi
  cases hb : f.backward with
  | true =>
    simp only [side, reach, hr, hb, hw, Bool.false_and, Bool.false_eq_true, if_true, if_false]
    exact iff_of_false (Nat.lt_asymm hstart) (Set.notMem_empty i)
  | false =>
    simp only [side, reach, hr, hb, hw, Bool.false_and, Bool.false_eq_true, if_false]
    exact ⟨fun h ↦ Nat.le_antisymm hend h, fun h ↦ Nat.le_of_eq h.symm⟩

end SearchFlags

namespace Search

variable {m : Matcher} {t : Text} {c c' : Captures} {i : Nat} {f : SearchFlags} {b : Bounds}

/-- Where another match than the current bounds starts. -/
theorem mem_otherStarts_iff {hay : Text} :
    i ∈ otherStarts m.boundsAt hay b ↔ ∃ c, m.capturesAt hay i = some c ∧ c.whole ≠ b := by
  simp only [otherStarts, Matcher.boundsAt, Set.mem_ofPred_eq, Option.map_eq_some_iff]
  constructor
  · rintro ⟨_, ⟨c, hc, rfl⟩, hne⟩
    exact ⟨c, hc, hne⟩
  · rintro ⟨c, hc, hne⟩
    exact ⟨_, ⟨c, hc, rfl⟩, hne⟩

/-- If there is one match only, another one starts behind its start and not behind its end. -/
theorem Successive.otherStarts_subset (h : Successive m t 0 none [c]) :
    otherStarts m.boundsAt t c.whole ⊆ Set.Ioc c.whole.start c.whole.stop := by
  intro i hi
  obtain ⟨c', hc', hne⟩ := mem_otherStarts_iff.mp hi
  cases h with
  | cons hstart hc hcs =>
    have hle : c.whole.start ≤ i :=
      hstart.2 ⟨Nat.zero_le i, c', hc', fun h ↦ Option.some_ne_none i h.2.symm⟩
    refine ⟨Nat.lt_of_le_of_ne hle ?_, ?_⟩
    · rintro rfl
      exact hne (congrArg Captures.whole (Option.some.inj (hc'.symm.trans hc)))
    · cases hcs with
      | nil hempty =>
        refine Nat.le_of_not_lt fun hlt ↦ Set.notMem_empty i (hempty ▸ ?_)
        exact ⟨Nat.le_of_lt hlt, c', hc', fun h ↦ Nat.ne_of_lt hlt (Option.some.inj h.2)⟩

/-- The match is within the text. -/
theorem Successive.bounds (hm : m.IsOrdered) (h : Successive m t 0 none [c]) :
    c.whole.start ≤ c.whole.stop ∧ c.whole.stop ≤ t.length := by
  cases h with
  | cons hstart hc hcs => exact (hm.capturesAt_bounds hc).2

/-! ## The search -/

/-- What is answered is one of some matches, if it is the next of some of these and there are none
only if there are none at all. -/
theorem Answers.within {matchAt : Text → Nat → Option Bounds} {hay : Text} {S T : Set Nat}
    {r : Option Bounds} (h : Answers matchAt hay f.IsNext S r) (hsub : S ⊆ T)
    (hempty : S = ∅ → T = ∅) :
    (r = none ↔ T = ∅) ∧ ∀ b, r = some b → matchAt hay b.start = some b ∧ b.start ∈ T := by
  refine ⟨h.eq_none_iff.trans ⟨hempty, fun hT ↦ Set.subset_empty_iff.mp (hT ▸ hsub)⟩, fun b hb ↦ ?_⟩
  obtain ⟨hmatch, hnext⟩ := h.eq_some_iff.mp hb
  exact ⟨hmatch, hsub hnext.mem⟩

/-- A search from the only match finds one of the others within its reach, if there are any. -/
theorem find_within_of_not_sticky (hm : m.IsOrdered) (h : Successive m t 0 none [c])
    (hsticky : f.sticky = false) :
    let hay := f.haystack t c.whole
    let others := otherStarts m.boundsAt hay c.whole ∩ f.reach c.whole
    (find m t c.whole f = none ↔ others = ∅) ∧
      ∀ b, find m t c.whole f = some b → m.boundsAt hay b.start = some b ∧ b.start ∈ others := by
  intro hay others
  obtain ⟨hle, hstop⟩ := h.bounds hm
  have hanswers := answers_find hm.isLeftmost hle hstop hsticky
  cases hr : f.restricted with
  | true =>
    have hreach : f.side c.whole = f.reach c.whole := by
      simp [SearchFlags.side, SearchFlags.reach, hr, hsticky]
    have hwraps : f.wraps = false := by simp [SearchFlags.wraps, hr]
    simp only [hreach, hwraps, Bool.false_eq_true, and_false, if_false] at hanswers
    exact hanswers.within subset_rfl id
  | false =>
    have hhay : hay = t := if_neg (Bool.eq_false_iff.mp hr)
    have hothers : otherStarts m.boundsAt hay c.whole ⊆ Set.Ioc c.whole.start c.whole.stop :=
      hhay ▸ h.otherStarts_subset
    cases hw : f.wrapScan with
    | true =>
      have hall : others = otherStarts m.boundsAt hay c.whole :=
        SearchFlags.inter_reach_eq hr hw hsticky hothers
      have hwraps : f.wraps = true := by simp [SearchFlags.wraps, hr, hw]
      rw [hall]
      refine hanswers.within ?_ ?_
      · split
        · exact subset_rfl
        · exact Set.inter_subset_left
      · split
        · exact id
        · next hne => exact fun hempty ↦ absurd ⟨hempty, hwraps⟩ hne
    | false =>
      have hnear : otherStarts m.boundsAt hay c.whole ∩ f.side c.whole = others :=
        SearchFlags.inter_side_eq hr hw hothers
      have hwraps : f.wraps = false := by simp [SearchFlags.wraps, hw]
      simp only [hwraps, Bool.false_eq_true, and_false, if_false] at hanswers
      exact hanswers.within hnear.subset fun hempty ↦ hnear.symm.trans hempty

/-- A sticky search forward looks at one offset. -/
theorem find_of_sticky (hsticky : f.sticky = true) (hforward : f.backward = false)
    (hle : b.start ≤ b.stop) (hstop : b.stop ≤ t.length) :
    let start := if f.restricted then b.start else b.stop
    find m t b f = (m.boundsAt (f.haystack t b) start).filter (· ≠ b) := by
  intro start
  have hinside : start ≤ (f.haystack t b).length := by
    simp only [start, SearchFlags.haystack]
    split
    · rwa [List.length_take_of_le hstop]
    · exact hstop
  have hlength : start ≤ t.length := Nat.le_trans hinside (f.length_haystack_le t b)
  have hfind : find m t b f = forward m t b f := by simp [find, hsticky, hforward]
  rw [hfind, forward, if_pos hsticky, Nat.min_eq_left hlength, ← SearchFlags.haystack,
    Matcher.boundsAt, Matcher.capturesAt, if_pos hinside]
  cases m.firstFrom (f.haystack t b) start with
  | none => rfl
  | some c =>
    rw [Option.bind_some, Option.filter_some]
    by_cases hstart : c.whole.start = start
    · rw [if_pos (decide_eq_true hstart), Option.map_some, Option.filter_some]
      simp only [hstart, true_and, decide_eq_true_eq]
    · rw [if_neg fun h ↦ hstart h.1, if_neg fun h ↦ hstart (of_decide_eq_true h)]
      rfl

/-- A search backward takes no notice of whether it is sticky, but for not wrapping. -/
theorem find_of_backward (hsticky : f.sticky = true) (hbackward : f.backward = true) (m : Matcher)
    (t : Text) (b : Bounds) :
    find m t b f = find m t b { f with sticky := false, wrapScan := false } := by
  simp [find, hsticky, hbackward, backward]

/-- A search from the only match finds one of the others within its reach, if there are any. -/
theorem find_within (hm : m.IsOrdered) (h : Successive m t 0 none [c]) (f : SearchFlags) :
    let hay := f.haystack t c.whole
    let others := otherStarts m.boundsAt hay c.whole ∩ f.reach c.whole
    (find m t c.whole f = none ↔ others = ∅) ∧
      ∀ b, find m t c.whole f = some b → m.boundsAt hay b.start = some b ∧ b.start ∈ others := by
  intro hay others
  cases hsticky : f.sticky with
  | false => exact find_within_of_not_sticky hm h hsticky
  | true =>
    cases hbackward : f.backward with
    | true =>
      have hreach : f.reach c.whole
          = SearchFlags.reach { f with sticky := false, wrapScan := false } c.whole := by
        simp [SearchFlags.reach, hsticky, hbackward]
      rw [find_of_backward hsticky hbackward]
      simp only [others, hreach]
      exact find_within_of_not_sticky hm h rfl
    | false =>
      obtain ⟨hle, hstop⟩ := h.bounds hm
      have hreach : f.reach c.whole = {if f.restricted then c.whole.start else c.whole.stop} := by
        cases hr : f.restricted <;> simp [SearchFlags.reach, hr, hsticky, hbackward]
      rw [find_of_sticky hsticky hbackward hle hstop]
      simp only [others, hreach]
      generalize (if f.restricted then c.whole.start else c.whole.stop) = s
      refine ⟨?_, fun b hb ↦ ?_⟩
      · rw [Option.filter_eq_none_iff, Set.inter_singleton_eq_empty, otherStarts,
          Set.mem_ofPred_eq, not_exists]
        refine forall_congr' fun b ↦ ?_
        rw [decide_eq_true_eq, not_and]
      · obtain ⟨hb, hne⟩ := Option.filter_eq_some_iff.mp hb
        obtain rfl := (hm.isLeftmost.bounds hb).1
        exact ⟨hb, ⟨b, hb, of_decide_eq_true hne⟩, rfl⟩

end Search

namespace Document

variable {d : Document} {m : Matcher} {pattern : Text} {f : SearchFlags} {id : RangeId}
  {c : Captures}

/-- What a pattern matches is found in order. -/
theorem isOrdered_of_matcher (hm : matcher f pattern = .ok m) : m.IsOrdered := by
  rw [matcher] at hm
  split at hm
  · next hpattern => exact Except.ok.inj hm ▸ Matcher.isOrdered_of_ofPattern? hpattern
  · cases hm

/-- A search moves the range to what is found, if anything is. -/
theorem exists_find (hm : matcher f pattern = .ok m) (d : Document) (id : RangeId) :
    let found := Search.find m d.text (d.bounds id) f
    ∃ d', d.find id pattern f = .ok (found.isSome, d') ∧
      d'.bounds id = (found.getD (d.ranges.get id).bounds).clamp d.length := by
  intro found
  refine ⟨_, by simp only [find, hm, bind, Except.bind]; rfl, ?_⟩
  rw [bounds, Ranges.get_put]
  rfl

/-- **Searching again from the only match.** Suppose that a pattern has one match in the text, the
matches being taken one after the other, and that a range covers it. A search with that pattern
finds something exactly if another match starts where the search can reach it, which is inside of
the only match or at its end. If so, the range covers that other match, and if not it stays where it
is. -/
theorem find_single (hm : matcher f pattern = .ok m)
    (hsingle : Search.Successive m d.text 0 none [c]) (hat : d.bounds id = c.whole) :
    let hay := f.haystack d.text c.whole
    ∃ found d', d.find id pattern f = .ok (found, d') ∧
      (found = true ↔ ∃ i ∈ f.reach c.whole, ∃ c', m.capturesAt hay i = some c' ∧
        c'.whole ≠ c.whole) ∧
      (found = false → d'.bounds id = d.bounds id) ∧
      (found = true → d'.bounds id ≠ d.bounds id ∧ (d'.bounds id).start ∈ f.reach c.whole ∧
        m.boundsAt hay (d'.bounds id).start = some (d'.bounds id)) := by
  intro hay
  have hordered := isOrdered_of_matcher hm
  obtain ⟨hnone, hsome⟩ := Search.find_within hordered hsingle f
  obtain ⟨d', hfind, hbounds⟩ := d.exists_find hm id
  rw [hat] at hfind hbounds
  refine ⟨_, d', hfind, ?_, fun hfalse ↦ ?_, fun htrue ↦ ?_⟩
  · rw [Option.isSome_iff_ne_none, ne_eq, hnone, ← ne_eq, ← Set.nonempty_iff_ne_empty]
    refine exists_congr fun i ↦ ?_
    rw [Set.mem_inter_iff, Search.mem_otherStarts_iff, and_comm]
  · rw [Option.isSome_eq_false_iff, Option.isNone_iff_eq_none] at hfalse
    rw [hbounds, hfalse]
    rfl
  · obtain ⟨b, hb⟩ := Option.isSome_iff_exists.mp htrue
    obtain ⟨hmatch, ⟨b', hb', hne⟩, hreach⟩ := hsome b hb
    obtain rfl := Option.some.inj (hmatch.symm.trans hb')
    obtain ⟨-, hle, hlength⟩ := hordered.isLeftmost.bounds hmatch
    have hmoved : d'.bounds id = b := by
      rw [hbounds, hb]
      exact Bounds.clamp_of_le hle (Nat.le_trans hlength (f.length_haystack_le d.text c.whole))
    rw [hmoved, hat]
    exact ⟨hne, hreach, hmatch⟩

/-- The only letter of its kind is not found again. -/
theorem find_single_letter :
    let d := (ofSurface (.ofField "xay".toList) {}).moveTo 0 ⟨1, 2⟩
    ∃ d', d.find 0 ['a'] {} = .ok (false, d') ∧ d'.bounds 0 = ⟨1, 2⟩ := by
  intro d
  have hm : matcher {} ['a'] = .ok ((SearchFlags.matcher? {} ['a']).getD ⟨fun _ _ ↦ none⟩) := rfl
  generalize hmatcher : (SearchFlags.matcher? {} ['a']).getD ⟨fun _ _ ↦ none⟩ = m at hm
  have hmatches : Search.matchesFrom m d.text true 0 none = [⟨⟨1, 2⟩, []⟩] := by
    rw [← hmatcher]
    decide +kernel
  have hnone : m.capturesAt d.text 2 = none := by
    rw [← hmatcher]
    decide +kernel
  have hsingle := Search.successive_matchesFrom (isOrdered_of_matcher hm) d.text 0 none
  rw [hmatches] at hsingle
  have hat : d.bounds 0 = (Captures.mk ⟨1, 2⟩ []).whole := rfl
  obtain ⟨found, d', hfind, hiff, hstays, -⟩ := find_single hm hsingle hat
  have hfalse : found = false := by
    rw [← Bool.not_eq_true, hiff]
    rintro ⟨i, ⟨hlow, hhigh⟩, c', hc', -⟩
    obtain rfl : i = 2 := Nat.le_antisymm hhigh hlow
    exact Option.some_ne_none c' (hc'.symm.trans hnone)
  exact ⟨d', hfalse ▸ hfind, hstays hfalse⟩

/-- In a run of letters, a search for a run moves from the whole of it, which is the only match, to
its last letter. -/
theorem not_find_single :
    let d := (ofSurface (.ofField "aa".toList) {}).moveTo 0 ⟨0, 2⟩
    ∃ m c, matcher {} ['a', '+'] = .ok m ∧ Search.Successive m d.text 0 none [c] ∧
      d.bounds 0 = c.whole ∧
      ∃ d', d.find 0 ['a', '+'] {} = .ok (true, d') ∧ d'.bounds 0 = ⟨1, 2⟩ := by
  intro d
  have hm : matcher {} ['a', '+']
      = .ok ((SearchFlags.matcher? {} ['a', '+']).getD ⟨fun _ _ ↦ none⟩) := rfl
  have hmatches : Search.matchesFrom ((SearchFlags.matcher? {} ['a', '+']).getD ⟨fun _ _ ↦ none⟩)
      d.text true 0 none = [⟨⟨0, 2⟩, []⟩] := by
    decide +kernel
  have hfound : Search.find ((SearchFlags.matcher? {} ['a', '+']).getD ⟨fun _ _ ↦ none⟩) d.text
      (d.bounds 0) {} = some ⟨1, 2⟩ := by
    decide +kernel
  refine ⟨_, ⟨⟨0, 2⟩, []⟩, hm, ?_, rfl, ?_⟩
  · exact hmatches ▸ Search.successive_matchesFrom (isOrdered_of_matcher hm) d.text 0 none
  · obtain ⟨d', hfind, hbounds⟩ := d.exists_find hm 0
    rw [hfound] at hfind hbounds
    exact ⟨d', hfind, hbounds⟩

end Document

end LineEditor
