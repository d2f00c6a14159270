import Mathlib.Data.List.Find
import LineEditor.Proofs.Session.Addressed
import LineEditor.Proofs.Session.Substituting

/-!
# The line that an address searches for

An address for a pattern looks at one line after the other until the pattern matches in one. It
begins with the line next to the current one and goes on to the end of the text, or to its start;
if it may wrap around, it then comes back from the other end, and the current line is the last one
that it looks at. The list of line numbers is put together from two runs for each direction. Seen
as one walk around the text it is simple: every step leads further from the current line, so that no
line comes twice, and the first line that matches is the nearest one.

The current line may be 0, the place in front of all lines. The walk passes it like a line, but it
is not looked at.
-/

namespace LineEditor

namespace Address

variable {current total : Nat} {backward wrap : Bool} {n : Nat}

/-- How many steps line `n` is away from line `current`, on a walk that passes line 0 between the
last line and the first one. To get back to `current` itself takes a whole round. -/
def steps (current total : Nat) (backward : Bool) (n : Nat) : Nat :=
  if backward then
    if n < current then current - n else current + (total + 1) - n
  else if current < n then n - current else n + (total + 1) - current

/-- A search from line `current` looks at line `n` unless something matches before: if the line
lies ahead, or if the search goes on at the other end. -/
def IsSearched (current total : Nat) (backward wrap : Bool) (n : Nat) : Prop :=
  1 ≤ n ∧ n ≤ total ∧ (wrap = true ∨ if backward then n < current else current < n)

instance (current total : Nat) (backward wrap : Bool) (n : Nat) :
    Decidable (IsSearched current total backward wrap n) := inferInstanceAs (Decidable (_ ∧ _))

/-! ## The order of lines -/

/-- Behind the last line that is counted, a search starts from that line. -/
theorem searchOrder_min (current total : Nat) (backward wrap : Bool) :
    searchOrder (min current total) total backward wrap
      = searchOrder current total backward wrap := by
  simp only [searchOrder, Nat.min_assoc, Nat.min_self]

theorem searchOrder_forward (h : current ≤ total) (wrap : Bool) :
    searchOrder current total false wrap
      = List.range' (current + 1) (total - current)
        ++ if wrap then List.range' 1 current else [] := by
  rw [searchOrder, Nat.min_eq_left h]
  rfl

theorem searchOrder_backward (h : current ≤ total) (wrap : Bool) :
    searchOrder current total true wrap
      = (List.range' 1 (current - 1)).reverse
        ++ if wrap then (List.range' (max current 1) (total + 1 - max current 1)).reverse
          else [] := by
  rw [searchOrder, Nat.min_eq_left h]
  rfl

/-- The lines of the order are those that are searched. -/
theorem mem_searchOrder (h : current ≤ total) (backward wrap : Bool) (n : Nat) :
    n ∈ searchOrder current total backward wrap
      ↔ IsSearched current total backward wrap n := by
  cases backward <;> cases wrap <;>
    simp only [searchOrder_forward h, searchOrder_backward h, IsSearched, List.mem_append,
      List.mem_reverse, List.mem_range'_1, List.not_mem_nil, if_true, if_false, Bool.false_eq_true,
      or_false, false_or, true_or, and_true] <;>
    omega

private theorem pairwise_range' {R : Nat → Nat → Prop} {lo k : Nat}
    (h : ∀ a b, lo ≤ a → a < b → b < lo + k → R a b) : (List.range' lo k).Pairwise R := by
  refine List.Pairwise.imp_of_mem (fun {a b} ha hb hlt ↦ ?_) List.pairwise_lt_range'
  rw [List.mem_range'_1] at ha hb
  exact h a b ha.1 hlt hb.2

/-- Each line of the order is further away than those in front of it. -/
theorem pairwise_searchOrder (h : current ≤ total) (backward wrap : Bool) :
    (searchOrder current total backward wrap).Pairwise
      fun a b ↦ steps current total backward a < steps current total backward b := by
  cases backward with
  | false =>
    have hsteps (n : Nat) : steps current total false n
      = if current < n then n - current else n + (total + 1) - current := rfl
    simp only [searchOrder_forward h, hsteps]
    refine List.pairwise_append.mpr ⟨pairwise_range' ?_, ?_, ?_⟩
    · grind
    · cases wrap with
      | false => exact List.Pairwise.nil
      | true => exact pairwise_range' (by grind)
    · grind
  | true =>
    have hsteps (n : Nat) : steps current total true n
      = if n < current then current - n else current + (total + 1) - n := rfl
    simp only [searchOrder_backward h, hsteps]
    refine List.pairwise_append.mpr ⟨List.pairwise_reverse.mpr (pairwise_range' ?_), ?_, ?_⟩
    · grind
    · cases wrap with
      | false => exact List.Pairwise.nil
      | true => exact List.pairwise_reverse.mpr (pairwise_range' (by grind))
    · grind

/-- No line comes twice. -/
theorem nodup_searchOrder (h : current ≤ total) (backward wrap : Bool) :
    (searchOrder current total backward wrap).Nodup := by
  refine (pairwise_searchOrder h backward wrap).imp fun {a b} hlt heq ↦ ?_
  rw [heq] at hlt
  exact Nat.lt_irrefl _ hlt

/-! ## The nearest line -/

/-- In a list in which everything is further away than what is in front of it, the first thing
found is the nearest one. -/
private theorem find?_eq_some_iff_of_pairwise {f : Nat → Nat} {xs : List Nat}
    (h : xs.Pairwise fun a b ↦ f a < f b) (p : Nat → Bool) (n : Nat) :
    xs.find? p = some n ↔ n ∈ xs ∧ p n = true ∧ ∀ k ∈ xs, p k = true → f n ≤ f k := by
  induction xs with
  | nil => simp
  | cons x xs ih =>
    obtain ⟨hx, hxs⟩ := List.pairwise_cons.mp h
    cases hp : p x with
    | true =>
      rw [List.find?_cons_of_pos hp, Option.some.injEq]
      constructor
      · rintro rfl
        refine ⟨List.mem_cons_self, hp, List.forall_mem_cons.mpr ⟨fun _ ↦ Nat.le_refl _, ?_⟩⟩
        exact fun k hk _ ↦ Nat.le_of_lt (hx k hk)
      · rintro ⟨hn, -, hleast⟩
        rcases List.mem_cons.mp hn with rfl | hn
        · rfl
        · exact absurd (hleast x List.mem_cons_self hp) (Nat.not_le.mpr (hx n hn))
    | false =>
      have hne : ¬ p x = true := by rw [hp]; exact Bool.false_ne_true
      rw [List.find?_cons_of_neg hne, ih hxs]
      constructor
      · rintro ⟨hn, hpn, hleast⟩
        exact ⟨List.mem_cons_of_mem x hn, hpn,
          List.forall_mem_cons.mpr ⟨fun hpx ↦ absurd hpx hne, hleast⟩⟩
      · rintro ⟨hn, hpn, hleast⟩
        refine ⟨(List.mem_cons.mp hn).resolve_left ?_, hpn, (List.forall_mem_cons.mp hleast).2⟩
        rintro rfl
        exact hne hpn

variable {m : Matcher} {t : Text}

/-- A line that is counted is looked at by itself. -/
theorem any_getElem?_lines (m : Matcher) (hpos : 1 ≤ n) (hn : n ≤ t.lineCount) :
    (t.lines[n - 1]?).any m.occursIn = m.occursIn (t.line n) := by
  have hlt : n - 1 < t.lines.length := by
    have hle := t.lineCount_le_length_lines
    omega
  rw [List.getElem?_eq_getElem hlt, Option.any_some, ← Text.line_succ hlt, Nat.sub_add_cancel hpos]

/-- Line `n` is searched, something matches in it, and no such line is nearer. -/
def IsNearest (m : Matcher) (t : Text) (current : Nat) (backward wrap : Bool) (n : Nat) : Prop :=
  IsSearched current t.lineCount backward wrap n ∧ m.occursIn (t.line n) = true ∧
    ∀ k, IsSearched current t.lineCount backward wrap k → m.occursIn (t.line k) = true →
      steps current t.lineCount backward n ≤ steps current t.lineCount backward k

/-- A search looks at the lines of its order, from the first one on. -/
theorem searchLine?_eq_find? (m : Matcher) (t : Text) (current : Nat) (backward wrap : Bool) :
    searchLine? m t current backward wrap
      = (searchOrder current t.lineCount backward wrap).find? fun n ↦ m.occursIn (t.line n) := by
  refine List.find?_congr fun n hn ↦ ?_
  rw [← searchOrder_min, mem_searchOrder (Nat.min_le_right _ _)] at hn
  exact any_getElem?_lines m hn.1 hn.2.1

theorem searchLine?_eq_some_iff (h : current ≤ t.lineCount) (m : Matcher) (backward wrap : Bool)
    (n : Nat) :
    searchLine? m t current backward wrap = some n ↔ IsNearest m t current backward wrap n := by
  rw [searchLine?_eq_find?, find?_eq_some_iff_of_pairwise (pairwise_searchOrder h backward wrap)]
  simp only [mem_searchOrder h]
  rfl

theorem searchLine?_eq_none_iff (h : current ≤ t.lineCount) (m : Matcher) (backward wrap : Bool) :
    searchLine? m t current backward wrap = none
      ↔ ∀ n, IsSearched current t.lineCount backward wrap n → m.occursIn (t.line n) = false := by
  rw [searchLine?_eq_find?, List.find?_eq_none]
  simp only [mem_searchOrder h, Bool.not_eq_true]

end Address

namespace Run

open Address

variable {s : Scene} {written letters pattern : Text} {f : SearchFlags} {m : Matcher}

/-- The session with a pattern noted as the last one searched for. -/
def searchedFor (s : Scene) (pattern : Text) : Scene :=
  { s with session := { s.session with lastSearch := some pattern } }

/-- Once its pattern has been read, an address for it answers the line that is found. -/
theorem run_baseLine_search (current : Nat) (lines : Nat × Nat) (backward : Bool)
    (hpattern : (patternOrLast written).run s = (.ok pattern, s))
    (hflags : s.document.searchFlags letters = .ok f)
    (hm : Document.matcher f pattern = .ok m) :
    (baseLine current lines (.search written letters backward)).run s
      = match searchLine? m s.document.text current (f.backward ^^ backward) f.wrapScan with
        | some n => (.ok n, searchedFor s pattern)
        | none => (.error (.patternNotFound pattern), s) := by
  have hdocument : document.run s = (.ok s.document, s) := rfl
  have hflags' : (orFail (s.document.searchFlags letters)).run s = (.ok f, s) := by
    rw [hflags]
    rfl
  have hmatcher : (orFail (Document.matcher f pattern)).run s = (.ok m, s) := by
    rw [hm]
    rfl
  rw [baseLine, run_bind, hdocument]
  simp only
  rw [run_bind, hpattern]
  simp only
  rw [run_bind, hflags']
  simp only
  rw [run_bind, hmatcher]
  simp only
  cases searchLine? m s.document.text current (f.backward ^^ backward) f.wrapScan with
  | none => rfl
  | some n => rfl

/-- **Searching for a line.** An address for a pattern answers the nearest line in its direction in
which the pattern matches, where only a search that may wrap around looks behind it, at the current
line last. It fails exactly if no line that it looks at matches: if it may wrap around, exactly if
no line of the text does. No line is looked at twice, whatever it is that the lines are searched
for. -/
theorem nearest_baseLine (current : Nat) (lines : Nat × Nat) (back : Bool)
    (hpattern : (patternOrLast written).run s = (.ok pattern, s))
    (hflags : s.document.searchFlags letters = .ok f)
    (hm : Document.matcher f pattern = .ok m)
    (hcurrent : current ≤ s.document.text.lineCount) :
    let t := s.document.text
    let backward := f.backward ^^ back
    let order := searchOrder current t.lineCount backward f.wrapScan
    let searched := IsSearched current t.lineCount backward f.wrapScan
    let r := (baseLine current lines (.search written letters back)).run s
    (∀ n, r.1 = .ok n ↔ IsNearest m t current backward f.wrapScan n) ∧
      (r.1 = .error (.patternNotFound pattern)
        ↔ ∀ n, searched n → m.occursIn (t.line n) = false) ∧
      (f.wrapScan = true → (r.1 = .error (.patternNotFound pattern)
        ↔ ∀ n, 1 ≤ n → n ≤ t.lineCount → m.occursIn (t.line n) = false)) ∧
      ((∃ n, r = (.ok n, searchedFor s pattern)) ∨ r = (.error (.patternNotFound pattern), s)) ∧
      (order.Nodup ∧ ∀ n, n ∈ order ↔ searched n) ∧
      ∀ m : Matcher,
        searchLine? m t current backward f.wrapScan
            = order.find? (fun n ↦ m.occursIn (t.line n)) ∧
          (∀ n, searchLine? m t current backward f.wrapScan = some n
            ↔ IsNearest m t current backward f.wrapScan n) ∧
          (searchLine? m t current backward f.wrapScan = none
            ↔ ∀ n, searched n → m.occursIn (t.line n) = false) := by
  intro t backward order searched r
  have hrun : r = match searchLine? m t current backward f.wrapScan with
      | some n => (.ok n, searchedFor s pattern)
      | none => (.error (.patternNotFound pattern), s) :=
    run_baseLine_search current lines back hpattern hflags hm
  have hfound (n : Nat) : r.1 = .ok n ↔ searchLine? m t current backward f.wrapScan = some n := by
    rw [hrun]
    cases searchLine? m t current backward f.wrapScan with
    | some k => simp only [Except.ok.injEq, Option.some.injEq]
    | none => exact iff_of_false nofun nofun
  have hfails : r.1 = .error (.patternNotFound pattern)
      ↔ ∀ n, searched n → m.occursIn (t.line n) = false := by
    rw [← searchLine?_eq_none_iff hcurrent, hrun]
    cases searchLine? m t current backward f.wrapScan with
    | some k => exact iff_of_false nofun nofun
    | none => exact iff_of_true rfl rfl
  refine ⟨fun n ↦ (hfound n).trans (searchLine?_eq_some_iff hcurrent m backward f.wrapScan n),
    hfails, fun hwrap ↦ ?_, ?_,
    ⟨nodup_searchOrder hcurrent backward f.wrapScan,
      mem_searchOrder hcurrent backward f.wrapScan⟩,
    fun m ↦ ⟨searchLine?_eq_find? m t current backward f.wrapScan,
      searchLine?_eq_some_iff hcurrent m backward f.wrapScan,
      searchLine?_eq_none_iff hcurrent m backward f.wrapScan⟩⟩
  · rw [hfails]
    have hsearched (n : Nat) : searched n ↔ 1 ≤ n ∧ n ≤ t.lineCount := by
      simp only [searched, IsSearched, hwrap, true_or, and_true]
    simp only [hsearched, and_imp]
  · rw [hrun]
    cases searchLine? m t current backward f.wrapScan with
    | some k => exact .inl ⟨k, rfl⟩
    | none => exact .inr rfl

/-- From the last line on, a search finds the first line behind the end of the text. -/
theorem nearest_baseLine_wrapping :
    let s := Cli.initial {} {} [] "a\nb\nb".toList
    ((baseLine 3 (3, 3) (.search ['a'] [] false)).run s).1 = .ok 1 := by
  intro s
  have hisSome : ((SearchFlags.ofOptions {}).matcher? ['a']).isSome := by decide
  have hm := Document.matcher_of_isSome hisSome
  have hpattern : (patternOrLast ['a']).run s = (.ok ['a'], s) := rfl
  have hflags : s.document.searchFlags [] = .ok (SearchFlags.ofOptions {}) := rfl
  obtain ⟨hfound, -⟩ := nearest_baseLine 3 (3, 3) false hpattern hflags hm (by decide)
  have hsteps : ∀ k < 4, 1 ≤ k → steps 3 3 false 1 ≤ steps 3 3 false k := by decide
  refine (hfound 1).mpr ⟨by decide, by decide, fun k hk _ ↦ ?_⟩
  exact hsteps k (Nat.lt_succ_of_le hk.2.1) hk.1

end Run

end LineEditor
