import LineEditor.Text.Blank
import Mathlib.Data.List.DropRight

/-!
# Words and the blanks around them

The words of a text are the runs of characters between its blanks. In front of the first word and
behind the last one, a text may have blanks of its own: it is a core, which begins and ends with a
word, in a frame of blanks. A text that has no word has no core either.
-/

namespace LineEditor.Text

variable {a b k s t : Text} {c : Char}

/-- The blanks that a text begins with. -/
def leading (t : Text) : Text := t.takeWhile isBlank

/-- The blanks that a text ends with. -/
def trailing (t : Text) : Text := t.rtakeWhile isBlank

/-- The words of a text, in order. -/
def words (t : Text) : List Text := (t.splitOnP isBlank).filter (· ≠ [])

/-- There are only blanks in the text, if anything. -/
def AllBlank (t : Text) : Prop := ∀ c ∈ t, isBlank c = true

instance (t : Text) : Decidable t.AllBlank := inferInstanceAs (Decidable (∀ c ∈ t, _))

/-- The text begins and ends with characters that are no blanks. -/
structure IsCore (k : Text) : Prop where
  /-- It begins with such a character. -/
  head : ∃ c t, k = c :: t ∧ isBlank c = false
  /-- It ends with such a character. -/
  last : ∃ t c, k = t ++ [c] ∧ isBlank c = false

/-! ## Frames -/

theorem allBlank_leading (t : Text) : t.leading.AllBlank := fun _ h ↦ List.mem_takeWhile_imp h

theorem allBlank_trailing (t : Text) : t.trailing.AllBlank := fun _ h ↦ List.mem_rtakeWhile_imp h

theorem leading_append_trimStart (t : Text) : t.leading ++ t.trimStart = t :=
  List.takeWhile_append_dropWhile

theorem trimEnd_append_trailing (t : Text) : t.trimEnd ++ t.trailing = t :=
  List.rdropWhile_append_rtakeWhile

theorem trimStart_eq_nil_iff : t.trimStart = [] ↔ t.AllBlank := List.dropWhile_eq_nil_iff

theorem trimEnd_eq_nil_iff : t.trimEnd = [] ↔ t.AllBlank := List.rdropWhile_eq_nil_iff

namespace IsCore

theorem ne_nil (hk : k.IsCore) : k ≠ [] := by
  obtain ⟨c, t, rfl, -⟩ := hk.head
  exact List.cons_ne_nil c t

theorem trimStart_append (hk : k.IsCore) (ha : a.AllBlank) (b : Text) :
    trimStart (a ++ k ++ b) = k ++ b := by
  obtain ⟨c, t, rfl, hc⟩ := hk.head
  rw [trimStart, List.append_assoc, List.dropWhile_append_of_pos ha, List.cons_append,
    List.dropWhile_cons_of_neg (by simp [hc])]

theorem trimEnd_append (hk : k.IsCore) (a : Text) (hb : b.AllBlank) :
    trimEnd (a ++ k ++ b) = a ++ k := by
  obtain ⟨t, c, rfl, hc⟩ := hk.last
  have hblank : ∀ c ∈ b.reverse, isBlank c = true := fun c hc ↦ hb c (List.mem_reverse.mp hc)
  rw [trimEnd, List.reverse_append, List.dropWhile_append_of_pos hblank, ← List.append_assoc,
    List.reverse_concat, List.dropWhile_cons_of_neg (by simp [hc]), ← List.reverse_concat,
    List.reverse_reverse]

theorem trailing_append (hk : k.IsCore) (a : Text) (hb : b.AllBlank) :
    trailing (a ++ k ++ b) = b := by
  have hsplit := trimEnd_append_trailing (a ++ k ++ b)
  rw [hk.trimEnd_append a hb] at hsplit
  exact List.append_cancel_left hsplit

/-- Two cores with something between them are a core. -/
theorem append {k' : Text} (hk : k.IsCore) (hk' : k'.IsCore) (t : Text) :
    (k ++ t ++ k').IsCore := by
  obtain ⟨c, u, rfl, hc⟩ := hk.head
  obtain ⟨v, d, rfl, hd⟩ := hk'.last
  exact ⟨⟨c, _, rfl, hc⟩, ⟨_, d, (List.append_assoc _ v [d]).symm, hd⟩⟩

end IsCore

/-- Unless it has only blanks, a text is framed by its blanks. -/
theorem isCore_trim (h : ¬ t.AllBlank) :
    t.trim.IsCore ∧ t.leading ++ t.trim ++ t.trailing = t := by
  obtain ⟨c, u, hstart⟩ := List.exists_cons_of_ne_nil fun hnil ↦ h (trimStart_eq_nil_iff.mp hnil)
  have hc : isBlank c = false := trimStart_head_not_blank hstart
  have hne : t.trim ≠ [] := by
    intro hnil
    have hblank := trimEnd_eq_nil_iff.mp hnil c (hstart ▸ List.mem_cons_self)
    rw [hc] at hblank
    exact Bool.noConfusion hblank
  have hsplit : t.trim ++ t.trimStart.trailing = t.trimStart := trimEnd_append_trailing t.trimStart
  have hcore : t.trim.IsCore := by
    refine ⟨?_, t.trim.dropLast, t.trim.getLast hne, (List.dropLast_concat_getLast hne).symm, ?_⟩
    · obtain ⟨d, v, hdv⟩ := List.exists_cons_of_ne_nil hne
      rw [hdv, hstart] at hsplit
      obtain ⟨rfl, -⟩ := List.cons.inj hsplit
      exact ⟨d, v, hdv, hc⟩
    · exact Bool.eq_false_iff.mpr (List.rdropWhile_last_not isBlank t.trimStart hne)
  have hframe : t.leading ++ t.trim ++ t.trimStart.trailing = t := by
    rw [List.append_assoc, hsplit, leading_append_trimStart]
  have htrailing := hcore.trailing_append t.leading (allBlank_trailing t.trimStart)
  rw [hframe] at htrailing
  rw [htrailing]
  exact ⟨hcore, hframe⟩

/-- Without the blanks in front, its core and the blanks behind that are left. -/
theorem trimStart_eq (h : ¬ t.AllBlank) : t.trimStart = t.trim ++ t.trailing := by
  obtain ⟨hcore, hframe⟩ := isCore_trim h
  have hstart := hcore.trimStart_append (allBlank_leading t) t.trailing
  rwa [hframe] at hstart

/-! ## Words -/

@[simp] theorem words_nil : words [] = [] := by simp [words]

/-- The words on either side of a blank are words by themselves. -/
theorem words_append_cons (hc : isBlank c = true) (s t : Text) :
    words (s ++ c :: t) = words s ++ words t := by
  rw [words, List.splitOnP_append_cons s t hc, List.filter_append]
  rfl

theorem words_of_allBlank (h : t.AllBlank) : words t = [] := by
  induction t with
  | nil => exact words_nil
  | cons c t ih =>
    obtain ⟨hc, ht⟩ := List.forall_mem_cons.mp h
    rw [← List.nil_append (c :: t), words_append_cons hc, words_nil, ih ht]
    rfl

/-- Blanks in front of a text add no word. -/
theorem words_append_of_allBlank (ha : a.AllBlank) (t : Text) : words (a ++ t) = words t := by
  induction a with
  | nil => rfl
  | cons c a ih =>
    obtain ⟨hc, ha⟩ := List.forall_mem_cons.mp ha
    rw [List.cons_append, ← List.nil_append (c :: _), words_append_cons hc, words_nil,
      List.nil_append, ih ha]

/-- Nor do blanks behind it. -/
theorem words_append_allBlank (hb : b.AllBlank) (t : Text) : words (t ++ b) = words t := by
  cases b with
  | nil => rw [List.append_nil]
  | cons c b =>
    obtain ⟨hc, hb⟩ := List.forall_mem_cons.mp hb
    rw [words_append_cons hc, words_of_allBlank hb, List.append_nil]

theorem words_trim (t : Text) : words t.trim = words t := by
  have hend : t.trim ++ t.trimStart.trailing = t.trimStart := trimEnd_append_trailing t.trimStart
  rw [← words_append_allBlank (allBlank_trailing t.trimStart) t.trim, hend,
    ← words_append_of_allBlank (allBlank_leading t) t.trimStart, leading_append_trimStart]

/-- Texts with a space between them have the words of each. -/
theorem words_join_space (ts : List Text) : words (join [' '] ts) = ts.flatMap words := by
  induction ts with
  | nil => exact words_nil
  | cons t ts ih =>
    rw [List.flatMap_cons]
    by_cases hts : ts = []
    · rw [hts]
      exact (List.append_nil _).symm
    · have hspace : isBlank ' ' = true := by decide
      rw [join_cons _ _ hts, List.append_assoc, ← ih]
      exact words_append_cons hspace t _

end LineEditor.Text
