import LineEditor.Proofs.Surface.Calls

/-!
# Text beside text

Text is misplaced only if no text leaf touches the place where it is to go. A character that is not
a separator is in a text leaf, for a line break is one separator. So text that is put right behind
such a character, or right in front of one, is never misplaced.
-/

namespace LineEditor

open Text (separator)

/-- A character that is no separator stands right in front of a place, or right behind it. -/
def Text.MeetsText (before after : Text) : Prop :=
  (∃ c, before.getLast? = some c ∧ c ≠ separator) ∨ ∃ c, after.head? = some c ∧ c ≠ separator

namespace Forest

/-- On either side of a character that is no separator, a text leaf is touched. -/
theorem touchesText_of_getElem? {f : Forest} {k n : Nat} {c : Char}
    (h : f.content[k]? = some c) (hc : c ≠ separator) (hle : k ≤ n) (hge : n ≤ k + 1) :
    f.touchesText n = true := by
  induction f generalizing k n with
  | nil => exact absurd h (by simp [content])
  | leaf l next ih =>
    rw [content] at h
    have hlength : l.content.length = l.length := rfl
    have hnext : l.content.length ≤ k → l.length ≤ n ∧ next.touchesText (n - l.length) := by
      intro hbehind
      rw [List.getElem?_append_right hbehind] at h
      exact ⟨Nat.le_trans hbehind hle, ih h (by omega) (by omega)⟩
    cases l with
    | text chars =>
      simp only [touchesText, Bool.or_eq_true, Bool.and_eq_true, decide_eq_true_eq]
      rcases Nat.lt_or_ge k chars.length with hlt | hbehind
      · exact .inl (Nat.le_trans hge hlt)
      · exact .inr (hnext hbehind)
    | lineBreak =>
      simp only [touchesText, Bool.or_eq_true, Bool.and_eq_true, decide_eq_true_eq]
      refine .inr (hnext (Nat.one_le_iff_ne_zero.mpr ?_))
      rintro rfl
      -- the one character of a line break is a separator
      exact hc (Option.some.inj h).symm
  | element tag inner next ihInner ihNext =>
    rw [content] at h
    simp only [touchesText, Bool.or_eq_true, Bool.and_eq_true, decide_eq_true_eq]
    have hlength := inner.length_eq_length_content
    rcases Nat.lt_or_ge k inner.content.length with hlt | hbehind
    · rw [List.getElem?_append_left hlt] at h
      exact .inl ⟨by omega, ihInner h hle hge⟩
    · rw [List.getElem?_append_right hbehind] at h
      exact .inr ⟨by omega, ihNext h (by omega) (by omega)⟩

end Forest

namespace Surface

variable {s : Surface} {c : Call}

/-- Text that meets text is not misplaced. -/
theorem not_misplaces_of_meetsText
    (h : Text.MeetsText (s.text.take (c.first s)) (s.text.drop (c.last s))) : ¬ s.Misplaces c := by
  obtain ⟨body, viewport⟩ := s
  cases body with
  | field | plain => exact not_false
  | content nodes selection =>
    refine not_misplaces_of_touchesText c ?_
    intro s
    have hcontent : (nodes.cleared (c.first s) (c.last s)).content
        = nodes.content.take (c.first s) ++ nodes.content.drop (c.last s) :=
      nodes.content_cleared (first_le_last c s)
    have hlast : c.last s ≤ nodes.length := nodes.length_eq_length_content ▸ last_le_length c s
    have hstart : (nodes.content.take (c.first s)).length = c.first s :=
      List.length_take_of_le (Nat.le_trans (first_le_last c s)
        (nodes.length_eq_length_content ▸ hlast))
    rcases h with ⟨ch, hend, hch⟩ | ⟨ch, hhead, hch⟩
    · have hne : nodes.content.take (c.first s) ≠ [] := by
        intro hnil
        have hnone : (nodes.content.take (c.first s)).getLast? = some ch := hend
        rw [hnil] at hnone
        exact nomatch hnone
      have hpos := List.length_pos_iff.mpr hne
      refine Forest.touchesText_of_getElem? (k := c.first s - 1) ?_ hch (Nat.sub_le _ _) (by omega)
      rw [hcontent, List.getElem?_append_left (by omega)]
      have hget := List.getLast?_eq_getElem? (l := nodes.content.take (c.first s))
      rw [hstart] at hget
      rw [← hget]
      exact hend
    · refine Forest.touchesText_of_getElem? (k := c.first s) ?_ hch (Nat.le_refl _) (Nat.le_succ _)
      rw [hcontent, List.getElem?_append_right (Nat.le_of_eq hstart), hstart, Nat.sub_self,
        ← List.head?_eq_getElem?]
      exact hhead

end Surface

end LineEditor
