import LineEditor.Proofs.Document.Replay
import LineEditor.Proofs.Edit.Placing

/-!
# Typing

The host types one character after the other, and all a document gets to see of it are the text
after each of them and the caret. Where a character was typed next to one that is the same, the
texts alone would put it behind the last one of these; the caret puts it where it was typed. So each
character is found to continue where the one before it ended, and the history takes all of them for
one insertion, which is taken back as one.

This is so unless the history already ends with typing that the first character continues, and
unless a group is open, which keeps the typing out of the history until it is closed.
-/

namespace LineEditor

/-! ## Recording typing -/

namespace History

variable {h : History} {w : Text} {p : Nat} {c : Char}

/-- Typing at `p` continues what was recorded last. -/
def Continues (h : History) (p : Nat) : Prop :=
  h.isSealed = false ∧ ∃ last ∈ h.current?,
    last.kind = .typing ∧ last.edit.removed = [] ∧ last.edit.newEnd = p

instance (h : History) (p : Nat) : Decidable (h.Continues p) := by
  unfold Continues
  infer_instance

/-- A character that continues nothing is a record of its own. -/
theorem record_typing (hc : ¬ h.Continues p) (c : Char) :
    h.record .typing ⟨p, [], [c]⟩ = h.add ⟨.typing, ⟨p, [], [c]⟩⟩ := by
  unfold record
  rw [if_neg (by decide)]
  cases hd : h.done with
  | nil => rfl
  | cons last older =>
    have hjoin : (!h.isSealed && continuesTyping last .typing ⟨p, [], [c]⟩) = false := by
      rw [Bool.eq_false_iff]
      intro hjoin
      simp only [continuesTyping, Bool.and_eq_true, Bool.not_eq_true', decide_eq_true_eq,
        List.isEmpty_iff] at hjoin
      obtain ⟨hopen, ⟨⟨⟨⟨-, hkind⟩, hremoved⟩, -⟩, -⟩, hend⟩ := hjoin
      exact hc ⟨hopen, last, by rw [current?, hd]; rfl, hkind, hremoved, hend⟩
    simp only [hjoin, Bool.false_eq_true, if_false]

/-- A character that continues an insertion is joined to it. -/
theorem record_typing_add (h : History) (p : Nat) (w : Text) (c : Char) :
    (h.add ⟨.typing, ⟨p, [], w⟩⟩).record .typing ⟨p + w.length, [], [c]⟩
      = h.add ⟨.typing, ⟨p, [], w ++ [c]⟩⟩ := by
  have hjoin : (!(h.add ⟨.typing, ⟨p, [], w⟩⟩).isSealed &&
      continuesTyping ⟨.typing, ⟨p, [], w⟩⟩ .typing ⟨p + w.length, [], [c]⟩) = true := by
    simp [add, continuesTyping, Edit.newEnd]
  rw [record, if_neg (by decide), done_add]
  simp only [hjoin, if_true]
  simp only [add, joinTyping, List.take_cons h.capacity_pos]

end History

namespace Document

variable {d d' : Document} {w rest : Text} {p : Nat} {c : Char}

/-! ## Typing a text -/

/-- The host types a character. -/
def typeChar (d : Document) (p : Nat) (c : Char) : Document :=
  (d.editNative .typing (·.replace p p [c])).2

/-- The host types a text, one character after the other. -/
def typeText (d : Document) : (p : Nat) → Text → Document
  | _, [] => d
  | p, c :: rest => (d.typeChar p c).typeText (p + 1) rest

/-- A text has been typed: it stands at its place, and if no group is open it is what was recorded
last. -/
structure Types (d : Document) (p : Nat) (w : Text) (d' : Document) : Prop where
  /-- The text has it at its place. -/
  text : d'.text = d.text.take p ++ w ++ d.text.drop p
  /-- The history has one more record, of it. -/
  history : d'.history
    = if d.group.isSome then d.history else d.history.add ⟨.typing, ⟨p, [], w⟩⟩
  /-- Groups stay as they are. -/
  group : d'.group = d.group
  /-- The surface is still a flat one. -/
  flat : d'.surface.IsFlat

/-- What the host does by typing a character is found out from the text and the caret. -/
theorem makes_typeChar (hd : d.surface.IsFlat) (hp : p ≤ d.text.length) (c : Char) :
    d.Makes .typing (some ⟨p, [], [c]⟩) (d.typeChar p c) ∧ (d.typeChar p c).surface.IsFlat := by
  have hmin : min p d.surface.length = p := Nat.min_eq_left hp
  have htext : (d.surface.replace p p [c]).text = d.text.take p ++ [c] ++ d.text.drop p := by
    rw [hd.text_replace, hmin, Nat.max_self]
    rfl
  have hcaret : (d.surface.replace p p [c]).selection.map (·.stop) = some (p + 1) := by
    rw [hd.selection_replace, hmin]
    rfl
  -- behind the character, the caret tells it from equal ones next to it
  have hedit : (d.editNative .typing (·.replace p p [c])).1 = some ⟨p, [], [c]⟩ := by
    rw [editNative, hcaret]
    change Edit.betweenAt d.text (d.surface.replace p p [c]).text (p + 1) = _
    rw [htext]
    exact Edit.betweenAt_insertion hp (List.cons_ne_nil c [])
  have hmakes := d.makes_editNative .typing (·.replace p p [c])
  rw [hedit] at hmakes
  refine ⟨hmakes, ?_⟩
  rw [typeChar, surface_editNative]
  exact hd.replace _ _ _

/-- The first character of a text. -/
theorem types_typeChar (hd : d.surface.IsFlat) (hp : p ≤ d.text.length)
    (hc : ¬ d.history.Continues p) (c : Char) : d.Types p [c] (d.typeChar p c) := by
  obtain ⟨hmakes, hflat⟩ := makes_typeChar hd hp c
  refine ⟨?_, ?_, hmakes.group, hflat⟩
  · exact (hmakes.leads _ rfl).apply_eq.symm
  · rw [hmakes.history, History.recordOption, Option.elim_some, History.record_typing hc]

/-- One more character behind those typed so far. -/
theorem Types.typeChar (h : d.Types p w d') (hp : p ≤ d.text.length) (c : Char) :
    d.Types p (w ++ [c]) (d'.typeChar (p + w.length) c) := by
  have hfront : (d.text.take p ++ w).length = p + w.length := by
    rw [List.length_append, List.length_take_of_le hp]
  have hplace : p + w.length ≤ d'.text.length := by
    rw [h.text, List.length_append, hfront]
    exact Nat.le_add_right _ _
  obtain ⟨hmakes, hflat⟩ := makes_typeChar h.flat hplace c
  refine ⟨?_, ?_, hmakes.group.trans h.group, hflat⟩
  · rw [← (hmakes.leads _ rfl).apply_eq, h.text]
    change ((d.text.take p ++ w ++ d.text.drop p).take (p + w.length)) ++ [c]
      ++ (d.text.take p ++ w ++ d.text.drop p).drop (p + w.length + 0) = _
    rw [Nat.add_zero, List.take_left' hfront, List.drop_left' hfront, List.append_assoc _ w [c]]
  · rw [hmakes.history, h.group, h.history, History.recordOption, Option.elim_some]
    split
    · rfl
    · exact d.history.record_typing_add p w c

/-- All characters behind those typed so far. -/
theorem Types.typeText (h : d.Types p w d') (hp : p ≤ d.text.length) (rest : Text) :
    d.Types p (w ++ rest) (d'.typeText (p + w.length) rest) := by
  -- along the characters still to come; what has been typed so far grows at its end
  induction rest generalizing w d' with
  | nil =>
    rw [List.append_nil]
    exact h
  | cons c rest ih =>
    have hnext := ih (h.typeChar hp c)
    rw [List.length_append, List.append_assoc] at hnext
    exact hnext

/-- A text that is typed as a whole. -/
theorem types_typeText (hd : d.surface.IsFlat) (hp : p ≤ d.text.length) (hw : w ≠ [])
    (hc : ¬ d.history.Continues p) : d.Types p w (d.typeText p w) := by
  obtain ⟨c, rest, rfl⟩ := List.exists_cons_of_ne_nil hw
  exact (types_typeChar hd hp hc c).typeText hp rest

/-- **Typing is one step of the history.** A text is typed on a flat surface, one character after
the other, where this continues nothing that was typed before. It then stands at its place. If no
group is open, the history has one more record, of the insertion of all of it at this place, and
taking back one record restores the text. In an open group the history waits for its end. -/
theorem isOneStep_typeText (hd : d.surface.IsFlat) (hp : p ≤ d.text.length) (hw : w ≠ [])
    (hc : ¬ d.history.Continues p) :
    let d' := d.typeText p w
    d'.text = d.text.take p ++ w ++ d.text.drop p ∧
      (d.group = none → d'.history = d.history.add ⟨.typing, ⟨p, [], w⟩⟩ ∧
        ∃ d₁, d'.undoStep = some d₁ ∧ d₁.text = d.text) ∧
      (d.group ≠ none → d'.history = d.history) := by
  intro d'
  have htyped : d.Types p w d' := types_typeText hd hp hw hc
  refine ⟨htyped.text, ?_, ?_⟩
  · intro hgroup
    have hhistory : d'.history = d.history.add ⟨.typing, ⟨p, [], w⟩⟩ := by
      rw [htyped.history, hgroup]
      rfl
    refine ⟨hhistory, ?_⟩
    -- the record on top takes back all that was typed
    obtain ⟨h', hback⟩ := d.history.exists_back?_add ⟨.typing, ⟨p, [], w⟩⟩
    rw [← hhistory] at hback
    obtain ⟨d₁, hundo, htext, -⟩ := walks_undoStep.next d' htyped.flat _ _ hback
    refine ⟨d₁, hundo, htext.trans ?_⟩
    have hinsertion := Edit.leads_insertion hp w
    rw [← htyped.text] at hinsertion
    exact hinsertion.inverse_apply_eq
  · intro hgroup
    rw [htyped.history, if_pos (Option.isSome_iff_ne_none.mpr hgroup)]

/-- Two characters are typed between equal ones, not where the typing before them ended. -/
theorem isOneStep_typeText_between :
    let d := (ofSurface (.ofField "aa".toList) {}).typeChar 0 'a'
    let d' := d.typeText 2 "ab".toList
    ¬ d.history.Continues 2 ∧ d'.text = "aaaba".toList ∧
      d'.history = d.history.add ⟨.typing, ⟨2, [], "ab".toList⟩⟩ ∧
      ∃ d₁, d'.undoStep = some d₁ ∧ d₁.text = "aaa".toList := by
  intro d d'
  have hflat : d.surface.IsFlat := trivial
  have hc : ¬ d.history.Continues 2 := by decide +kernel
  obtain ⟨htext, hfree, -⟩ := isOneStep_typeText hflat
    (w := "ab".toList) (by decide) (by decide) hc
  obtain ⟨hhistory, hundo⟩ := hfree rfl
  exact ⟨hc, htext, hhistory, hundo⟩

/-- In an open group there is nothing to take back after typing. -/
theorem not_isOneStep_typeText_in_group :
    let d := (ofSurface (.ofField []) {}).openGroup
    let d' := d.typeText 0 ['a']
    d.surface.IsFlat ∧ ¬ d.history.Continues 0 ∧ d'.text = ['a'] ∧
      d'.history.length = 0 ∧ ¬ ∃ d₁, d'.undoStep = some d₁ := by
  intro d d'
  have hundo : d'.undoStep.isNone := by decide +kernel
  refine ⟨trivial, by decide +kernel, by decide +kernel, by decide +kernel, ?_⟩
  rintro ⟨d₁, h₁⟩
  rw [h₁] at hundo
  exact nomatch hundo

end Document

end LineEditor
