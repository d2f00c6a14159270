import LineEditor.Proofs.Session.Addressed

/-!
# Spans of lines that are counted

A command body is handed a span of lines and computes with it as if its lines were counted: there is
a first one, a last one not before it, and not more than there are lines. Nearly everything that a
span comes from is cut to these lines. What is not cut is the range itself. It may stand behind the
separator that the text ends with, on a piece that is empty and not counted, and then the commands
that work on the range by default and those addressed with `%%` are handed the number of that piece.
This is the only way to get there, and whether it is taken can be read off the range and the
addresses.
-/

namespace LineEditor

open Text (separator)

/-! ## Offsets in lines that are counted -/

/-- An offset is in a line that is counted, unless it is behind a separator at the end. -/
theorem Text.lineAt_le_lineCount_iff (t : Text) (offset : Nat) :
    t.lineAt offset ≤ t.lineCount ↔ ¬ (t.length ≤ offset ∧ t.getLast? = some separator) := by
  obtain ⟨xs, l, h⟩ := exists_lines_eq t
  have htotal : t.count separator = xs.length := by
    have hlength := t.length_lines
    rw [h, List.length_append, List.length_singleton] at hlength
    omega
  rw [getLast?_eq_separator_iff h, lineCount_of_lines_eq h, lineAt]
  by_cases hlast : xs ≠ [] ∧ l = []
  · have hpos := List.length_pos_iff.mpr hlast.1
    rw [and_iff_left hlast, if_pos hlast.2]
    by_cases hoffset : t.length ≤ offset
    · rw [List.take_of_length_le hoffset, htotal]
      exact iff_of_false (by omega) (not_not_intro hoffset)
    · -- the separator at the end is behind the offset
      have ht : t = unlines xs ++ [separator] := by
        rw [eq_of_lines_eq h (List.cons_ne_nil l []), hlast.2, ← closed_eq hlast.1]
        exact List.append_nil _
      have hlength : t.length = (unlines xs).length + 1 := by rw [ht, List.length_append]; rfl
      have hle : (t.take offset).count separator ≤ (unlines xs).count separator := by
        rw [ht, List.take_append_of_le_length (by omega)]
        exact (List.take_sublist offset _).count_le separator
      have hcount : t.count separator = (unlines xs).count separator + 1 := by
        rw [ht, List.count_append]
        rfl
      exact iff_of_true (by omega) hoffset
  · refine iff_of_true ?_ fun h ↦ hlast h.2
    have hle : (t.take offset).count separator ≤ t.count separator :=
      (List.take_sublist offset t).count_le separator
    by_cases hl : l = []
    · obtain rfl : xs = [] := Decidable.byContradiction fun hne ↦ hlast ⟨hne, hl⟩
      rw [List.length_nil] at htotal ⊢
      omega
    · rw [if_neg hl]
      omega

/-! ## Ranges on lines that are counted -/

namespace Document

/-- The range stands behind the separator that the text ends with. The piece there is empty, and it
is not counted. -/
def IsBehindEnd (d : Document) (id : RangeId) : Prop :=
  (d.bounds id).start = d.text.length ∧ d.text.getLast? = some separator

instance (d : Document) (id : RangeId) : Decidable (d.IsBehindEnd id) :=
  inferInstanceAs (Decidable (_ ∧ _))

/-- A range is on lines that are counted, unless it stands behind the last of them. -/
theorem lines_fst_le_iff (d : Document) (id : RangeId) :
    (d.lines id).1 ≤ d.text.lineCount ↔ ¬ d.IsBehindEnd id := by
  have hstart : (d.bounds id).start ≤ d.text.length :=
    Nat.le_trans (Bounds.clamp_start_le _ _) (Bounds.clamp_stop_le _ d.length)
  rw [lines, Bounds.lineNumbers, Text.lineAt_le_lineCount_iff, IsBehindEnd,
    Nat.le_antisymm_iff, and_iff_right hstart]

theorem lines_snd_le_iff (d : Document) (id : RangeId) :
    (d.lines id).2 ≤ d.text.lineCount ↔ ¬ d.IsBehindEnd id := by
  refine ⟨fun h ↦ (d.lines_fst_le_iff id).mp (Nat.le_trans (d.lines_fst_le_snd id) h),
    fun h ↦ Nat.max_le.mpr ⟨?_, (d.lines_fst_le_iff id).mpr h⟩⟩
  have hle : (d.bounds id).start ≤ (d.bounds id).stop := Bounds.clamp_start_le _ _
  have hstop : (d.bounds id).stop ≤ d.text.length := Bounds.clamp_stop_le _ d.length
  rw [Text.lineAt_le_lineCount_iff]
  rintro ⟨hend, hlast⟩
  have hat := List.getLast?_eq_getElem? ▸ hlast
  split at hend
  · omega
  · next hcut =>
    -- the bounds end with the text, so that they are empty
    have hall : (d.bounds id).stop = d.text.length := Nat.le_antisymm hstop hend
    rw [hall] at hcut hle
    exact h ⟨Nat.le_antisymm hle (Nat.le_of_not_lt fun hlt ↦ hcut ⟨hlt, hat⟩), hlast⟩

end Document

/-! ## Spans -/

/-- There is a first line, the last one is not before it, and both are counted. -/
structure Span.IsCounted (span : Span) (total : Nat) : Prop where
  /-- The first line is a line. -/
  one_le : 1 ≤ span.first
  /-- It comes first. -/
  le : span.first ≤ span.last
  /-- The last line is counted. -/
  last_le : span.last ≤ total

/-- Counting lines cuts the last one, but not the one that it starts from. -/
theorem Span.isCounted_counted_iff {span : Span} (hle : span.first ≤ span.last)
    {count : Option Nat} (hcount : count ≠ some 0) {total : Nat} (htotal : 1 ≤ total) :
    (span.counted count total).IsCounted total ↔ span.last ≤ total := by
  cases count with
  | none =>
    refine ⟨fun h ↦ Nat.le_trans (Nat.le_max_left _ _) h.last_le, fun h ↦ ⟨?_, ?_, ?_⟩⟩ <;>
      (simp only [counted]; omega)
  | some n =>
    have hn : n ≠ 0 := fun h ↦ hcount (congrArg some h)
    constructor
    · intro h
      have hfirst := h.le
      simp only [counted] at hfirst
      omega
    · refine fun h ↦ ⟨?_, ?_, ?_⟩ <;> (simp only [counted]; omega)

/-- Counted or not, the lines of a command are lines of the text, if there are any. -/
theorem Span.Fits.counted {span : Span} {t : Text} (h : span.Fits t) {count : Option Nat}
    (hcount : count ≠ some 0) :
    let lines := span.counted count t.lineCount
    1 ≤ lines.first ∧ lines.first ≤ lines.last + 1 ∧ lines.first ≤ t.lines.length ∧
      lines.last ≤ t.lines.length := by
  have hle := h.le
  have hlast := h.last_le
  have hone := t.one_le_lineCount
  have hcounted := t.lineCount_le_length_lines
  have hlines := t.length_lines_le_lineCount_succ
  cases count with
  | none =>
    simp only [Span.counted]
    omega
  | some n =>
    have hn : n ≠ 0 := fun h ↦ hcount (congrArg some h)
    simp only [Span.counted]
    omega

namespace Run

variable {s s' : Scene} {tokens : List AddressToken} {span : Span}

/-- A count that is read is not zero. -/
theorem yields_registerAndCount (parameter : Text) (s : Scene) :
    Yields (fun p : Option Char × Option Nat ↦ p.2 ≠ some 0) (registerAndCount parameter) s := by
  unfold registerAndCount
  extract_lets t register rest
  refine yields_ite (yields_pure nofun) ?_
  cases hcount : Text.count? rest with
  | none => exact fun _ _ h ↦ by cases h
  | some n =>
    cases n with
    | zero => exact fun _ _ h ↦ by cases h
    | succ n => exact yields_pure nofun

/-- The only address is `%%`, with or without an offset. -/
def IsRangeAddress (tokens : List AddressToken) : Prop :=
  ∃ offset, tokens = [.address ⟨.currentRange, offset⟩]

/-- The first line of the range is meant even if it is not counted; the last one is cut. -/
theorem run_resolve_currentRange (offset : Int) (s : Scene) :
    let lines := s.document.lines s.range
    let last := Address.lineAt lines.2 offset s.document.text.lineCount
    (resolve [.address ⟨.currentRange, offset⟩]).run s
      = (.ok (some (.between lines.1 last)), s) := by
  intro lines last
  have hspan : Address.spanOf [last, lines.1] = some (.between lines.1 last) := rfl
  rw [← hspan]
  exact run_resolve rfl

/-- The lines that addresses mean are counted, unless they are those of a range that stands behind
them. -/
theorem le_of_resolve (h : (resolve tokens).run s = (.ok (some span), s')) :
    span.first ≤ span.last ∧
      (span.last ≤ s.document.text.lineCount ↔
        ¬ (s.document.IsBehindEnd s.range ∧ IsRangeAddress tokens)) := by
  have hfits := yields_resolve tokens s _ s' h span rfl
  refine ⟨hfits.le, fun hle ⟨hbehind, offset, htokens⟩ ↦ ?_, fun hmeant ↦ ?_⟩
  · -- the first line of the range is one of them, and it is not counted
    subst htokens
    rw [run_resolve_currentRange] at h
    cases h
    exact (s.document.lines_fst_le_iff s.range).mp (Nat.le_trans (Nat.le_max_left _ _) hle) hbehind
  · obtain ⟨found, hfound, hspan⟩ := resolve_eq_ok h
    have hlines : decide (tokens.length = 1) → ∀ offset,
        .address ⟨.currentRange, offset⟩ ∈ tokens →
          (s.document.lines s.range).1 ≤ s.document.text.lineCount := by
      intro halone offset hmem
      refine (s.document.lines_fst_le_iff s.range).mpr fun hbehind ↦ hmeant ⟨hbehind, offset, ?_⟩
      obtain ⟨token, rfl⟩ := List.length_eq_one_iff.mp (of_decide_eq_true halone)
      rw [List.mem_singleton.mp hmem]
    exact (le_of_spanOf (yields_foundLines hlines _ (fun _ h ↦ absurd h List.not_mem_nil)
      (Nat.le_refl _) _ _ hfound) hspan).2

/-- The command works on the lines of the range: because it says so, or by default. -/
def WorksOnRange (name : CommandName) (tokens : List AddressToken) : Prop :=
  IsRangeAddress tokens ∨
    (∀ a, .address a ∉ tokens) ∧ (name.defaultLines = .current ∨ name.defaultLines = .keep)

theorem defaultSpan_le_iff (name : CommandName) (d : Document) (id : RangeId) :
    (name.defaultSpan (d.lines id) d.text.lineCount).last ≤ d.text.lineCount ↔
      ¬ (d.IsBehindEnd id ∧ (name.defaultLines = .current ∨ name.defaultLines = .keep)) := by
  unfold CommandName.defaultSpan
  cases name.defaultLines with
  | current | keep => simp [d.lines_snd_le_iff]
  | whole | last => simp [Span.single]

/-- A command is handed lines that are counted, unless it works on a range that stands behind
them. -/
theorem le_of_approach {c : Command} {name : CommandName}
    (h : (approach c).run s = (.ok (some (name, span)), s')) :
    span.first ≤ span.last ∧
      (span.last ≤ s.document.text.lineCount ↔
        ¬ (s.document.IsBehindEnd s.range ∧ WorksOnRange name c.addresses)) := by
  refine ⟨(fits_of_approach h).le, ?_⟩
  obtain ⟨-, ⟨s₁, hresolve⟩ | ⟨hresolve, rfl⟩⟩ := approach_eq_some h
  · have hsome : ¬ ∀ a, .address a ∉ c.addresses := fun hnone ↦ by
      obtain ⟨found, hfound, hspan⟩ := resolve_eq_ok hresolve
      rw [run_foundLines_of_not_mem hnone] at hfound
      cases hfound
      cases hspan
    rw [(le_of_resolve hresolve).2, WorksOnRange, or_iff_left fun h ↦ hsome h.1]
  · have hnone := (resolve_eq_none hresolve).1
    have hrange : ¬ IsRangeAddress c.addresses := fun ⟨offset, haddresses⟩ ↦
      hnone _ (haddresses ▸ List.mem_cons_self)
    rw [defaultSpan_le_iff, WorksOnRange, or_iff_right hrange, and_iff_right hnone]

end Run

end LineEditor
