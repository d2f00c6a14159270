import LineEditor.Proofs.Surface.Flat
import LineEditor.Proofs.Surface.Insertion
import LineEditor.Proofs.Surface.Points

/-!
# Calls to a surface

A surface is edited by calls to replace a stretch, with any offsets. A call *obeys* its contract
when the text, its length, all its slices and the selection are those of the spliced text, and all
kinds of surfaces are meant to obey it, so that a document need not know which kind it works on.

Flat surfaces do. Structured content does as long as the new text does not slip over text behind it
(`Forest.skipped`); slipping does no harm only where the two commute, as when both repeat one
character. This is exact: `obeys_iff` characterizes the calls that obey, and for surfaces on which
no call misplaces its text, the text alone determines everything that follows.
-/

namespace LineEditor

namespace Text

/-- Offsets past the end make no difference to a slice. -/
theorem slice_eq_clamped (t : Text) (start stop : Nat) :
    t.slice start stop = (t.take (max (min start t.length) (min stop t.length))).drop
      (min start t.length) := by
  have htake : t.take (max start stop)
      = t.take (max (min start t.length) (min stop t.length)) := by
    rw [List.take_eq_take_min]
    congr 1
    omega
  rw [slice, htake]
  by_cases h : start ≤ t.length
  · rw [Nat.min_eq_left h]
  · have hlen : (t.take (max (min start t.length) (min stop t.length))).length ≤ t.length :=
      List.length_take_le' _ _
    rw [List.drop_of_length_le (by omega), List.drop_of_length_le (by omega)]

end Text

namespace Surface

/-- A call to replace the text between two offsets. -/
structure Call where
  /-- Where the text to replace starts; anything behind the end stands for the end. -/
  start : Nat
  /-- Where it stops; anything before the start stands for the start. -/
  stop : Nat
  /-- The text to put in its place. -/
  piece : Text

variable {s s' : Surface} {c : Call}

/-- Where the text to replace really starts. -/
def Call.first (c : Call) (s : Surface) : Nat := min c.start s.length

/-- Where the text to replace really stops. -/
def Call.last (c : Call) (s : Surface) : Nat := max (c.first s) (min c.stop s.length)

/-- The text that a call is to make. -/
def Call.target (c : Call) (s : Surface) : Text :=
  s.text.take (c.first s) ++ c.piece ++ s.text.drop (c.last s)

/-- The surface after a call. -/
def call (s : Surface) (c : Call) : Surface := s.replace c.start c.stop c.piece

/-- The surface after calls. -/
def calls (s : Surface) (cs : List Call) : Surface := cs.foldl call s

/-- The contract of a call. -/
structure Obeys (s : Surface) (c : Call) : Prop where
  /-- The text is spliced. -/
  text : (s.call c).text = c.target s
  /-- The length is that of the text. -/
  length : (s.call c).length = (c.target s).length
  /-- A slice is the text between its offsets, cut to the text. -/
  slice : ∀ start stop, (s.call c).slice start stop
    = ((c.target s).take (max (min start (c.target s).length) (min stop (c.target s).length))).drop
        (min start (c.target s).length)
  /-- The selection is the caret behind the new text. -/
  selection : (s.call c).selection = some (.collapsed (c.first s + c.piece.length))

/-- The new text of a call is put behind text that it ought to stand in front of. -/
def Misplaces (s : Surface) (c : Call) : Prop :=
  match s.body with
  | .content nodes _ =>
    nodes.skipped (c.first s) (c.last s) ++ c.piece
      ≠ c.piece ++ nodes.skipped (c.first s) (c.last s)
  | .field .. | .plain .. => False

/-- Something holds of every call of a sequence, at the surface it is made to. -/
def Throughout (P : Surface → Call → Prop) : Surface → List Call → Prop
  | _, [] => True
  | s, c :: cs => P s c ∧ Throughout P (s.call c) cs

/-! ## One call -/

/-- Where the text is spliced, length and slices follow. -/
theorem obeys_of_text (htext : (s.call c).text = c.target s)
    (hselection : (s.call c).selection = some (.collapsed (c.first s + c.piece.length))) :
    s.Obeys c := by
  refine ⟨htext, congrArg List.length htext, fun start stop ↦ ?_, hselection⟩
  rw [slice, htext, Text.slice_eq_clamped]

theorem obeys_of_isFlat (h : s.IsFlat) (c : Call) : s.Obeys c :=
  obeys_of_text (h.text_replace _ _ _) (h.selection_replace _ _ _)

theorem first_le_last (c : Call) (s : Surface) : c.first s ≤ c.last s := Nat.le_max_left _ _

theorem last_le_length (c : Call) (s : Surface) : c.last s ≤ s.length := by
  rw [Call.last, Call.first]
  omega

/-- In structured content the caret at an offset is read back as that offset. -/
private theorem selection_caret (nodes : Forest) (viewport : Viewport) {n : Nat}
    (h : n ≤ nodes.length) :
    (Surface.mk (.content nodes (some (nodes.locate n, nodes.locate n))) viewport).selection
      = some (.collapsed n) := by
  change some (Bounds.mk (min (nodes.offsetOf (nodes.locate n)) (nodes.offsetOf (nodes.locate n)))
    (max (nodes.offsetOf (nodes.locate n)) (nodes.offsetOf (nodes.locate n)))) = _
  rw [nodes.offsetOf_locate h, Nat.min_self, Nat.max_self]
  rfl

/-- A call makes the text that it is to make unless it misplaces its text. -/
theorem text_call_iff : (s.call c).text = c.target s ↔ ¬ s.Misplaces c := by
  obtain ⟨body, viewport⟩ := s
  cases body with
  | field t selection =>
    have h := obeys_of_isFlat (s := ⟨.field t selection, viewport⟩) trivial c
    exact iff_of_true h.text not_false
  | plain t selection =>
    have h := obeys_of_isFlat (s := ⟨.plain t selection, viewport⟩) trivial c
    exact iff_of_true h.text not_false
  | content nodes selection =>
    let s : Surface := ⟨.content nodes selection, viewport⟩
    have hle := first_le_last c s
    have hstop : c.last s ≤ nodes.length := nodes.length_eq_length_content ▸ last_le_length c s
    have htext : (s.call c).text = nodes.content.take (c.first s)
        ++ (nodes.skipped (c.first s) (c.last s) ++ c.piece
          ++ nodes.unskipped (c.first s) (c.last s)) := nodes.content_replace hle hstop c.piece
    have htarget : c.target s = nodes.content.take (c.first s)
        ++ (c.piece ++ nodes.skipped (c.first s) (c.last s)
          ++ nodes.unskipped (c.first s) (c.last s)) := by
      rw [List.append_assoc c.piece, nodes.skipped_append_unskipped, ← List.append_assoc]
      rfl
    -- both texts are the same around the piece and what it skips
    change (s.call c).text = c.target s ↔ ¬ s.Misplaces c
    rw [htext, htarget, List.append_cancel_left_eq, List.append_cancel_right_eq]
    exact Decidable.not_not.symm

/-- Where a call does not make what it is to make, its text is still behind the text in front of the
stretch, only that some of the text behind the stretch has come in between. -/
theorem exists_text_call (s : Surface) (c : Call) :
    ∃ x y, x ++ y = s.text.drop (c.last s) ∧
      (s.call c).text = s.text.take (c.first s) ++ (x ++ c.piece ++ y) := by
  by_cases h : s.Misplaces c
  · obtain ⟨body, viewport⟩ := s
    cases body with
    | content nodes selection =>
      let s : Surface := ⟨.content nodes selection, viewport⟩
      have hstop : c.last s ≤ nodes.length := nodes.length_eq_length_content ▸ last_le_length c s
      exact ⟨_, _, nodes.skipped_append_unskipped _ _,
        nodes.content_replace (first_le_last c s) hstop c.piece⟩
    | field | plain => exact absurd h not_false
  · refine ⟨[], _, rfl, ?_⟩
    rw [text_call_iff.mpr h, Call.target, List.append_assoc]
    rfl

/-- In any case it has the characters that it is to have. -/
theorem perm_text_call (s : Surface) (c : Call) : (s.call c).text.Perm (c.target s) := by
  obtain ⟨x, y, hbehind, htext⟩ := s.exists_text_call c
  have hbefore : (x ++ c.piece).Perm (c.piece ++ x) := List.perm_append_comm
  rw [htext, Call.target, ← hbehind, List.append_assoc (s.text.take _), ← List.append_assoc c.piece]
  exact (hbefore.append_right y).append_left (s.text.take (c.first s))

/-- Wherever the text ends up, the selection is the caret behind the place it was meant for. -/
theorem selection_call (s : Surface) (c : Call) :
    (s.call c).selection = some (.collapsed (c.first s + c.piece.length)) := by
  obtain ⟨body, viewport⟩ := s
  cases body with
  | field t selection =>
    exact (obeys_of_isFlat (s := ⟨.field t selection, viewport⟩) trivial c).selection
  | plain t selection =>
    exact (obeys_of_isFlat (s := ⟨.plain t selection, viewport⟩) trivial c).selection
  | content nodes selection =>
    let s : Surface := ⟨.content nodes selection, viewport⟩
    have hle := first_le_last c s
    have hstop : c.last s ≤ nodes.length := nodes.length_eq_length_content ▸ last_le_length c s
    have hcaret : c.first s + c.piece.length
        ≤ (nodes.replace (c.first s) (c.last s) c.piece).length := by
      rw [Forest.length_eq_length_content, nodes.length_content_replace hle hstop]
      omega
    exact selection_caret _ viewport hcaret

/-- A call obeys its contract unless it misplaces its text. -/
theorem obeys_iff : s.Obeys c ↔ ¬ s.Misplaces c := by
  rw [← text_call_iff]
  exact ⟨fun h ↦ h.text, fun h ↦ obeys_of_text h (s.selection_call c)⟩

theorem IsFlat.not_misplaces (h : s.IsFlat) (c : Call) : ¬ s.Misplaces c :=
  obeys_iff.mp (obeys_of_isFlat h c)

/-- Where no text is put in, none is misplaced. -/
theorem not_misplaces_of_piece_eq_nil (h : c.piece = []) : ¬ s.Misplaces c := by
  obtain ⟨body, viewport⟩ := s
  cases body with
  | content nodes selection =>
    intro hskips
    refine hskips ?_
    rw [h, List.append_nil, List.nil_append]
  | field | plain => exact not_false

/-- Where a text leaf touches the start of the stretch once that is gone, nothing is misplaced. -/
theorem not_misplaces_of_touchesText {nodes : Forest} {selection : Option (Point × Point)}
    {viewport : Viewport} (c : Call)
    (h : let s : Surface := ⟨.content nodes selection, viewport⟩
      (nodes.cleared (c.first s) (c.last s)).touchesText (c.first s)) :
    ¬ Misplaces ⟨.content nodes selection, viewport⟩ c := by
  intro hskips
  simp only [Misplaces, Forest.skipped, Forest.slip, h, if_true, List.take_zero, List.nil_append,
    List.append_nil] at hskips
  exact hskips rfl

/-! ## Sequences of calls -/

theorem throughout_congr {P Q : Surface → Call → Prop} (h : ∀ s c, P s c ↔ Q s c) (s : Surface)
    (cs : List Call) : s.Throughout P cs ↔ s.Throughout Q cs := by
  induction cs generalizing s with
  | nil => exact Iff.rfl
  | cons c cs ih => exact and_congr (h s c) (ih (s.call c))

/-- A call that obeys makes the same of the same text. -/
theorem Obeys.eq_of_text_eq (h : s.Obeys c) (h' : s'.Obeys c) (htext : s.text = s'.text) :
    (s.call c).text = (s'.call c).text ∧ (s.call c).selection = (s'.call c).selection := by
  have hlen : s.length = s'.length := congrArg List.length htext
  have hfirst : c.first s = c.first s' := by rw [Call.first, Call.first, hlen]
  have hlast : c.last s = c.last s' := by rw [Call.last, Call.last, hfirst, hlen]
  constructor
  · rw [h.text, h'.text, Call.target, Call.target, hfirst, hlast, htext]
  · rw [h.selection, h'.selection, hfirst]

/-- Two surfaces with the same text stay alike as long as all calls obey. -/
theorem calls_eq_of_text_eq {cs : List Call} (h : s.Throughout Obeys cs)
    (h' : s'.Throughout Obeys cs) (htext : s.text = s'.text) :
    (s.calls cs).text = (s'.calls cs).text ∧
      (cs ≠ [] → (s.calls cs).selection = (s'.calls cs).selection) := by
  induction cs generalizing s s' with
  | nil => exact ⟨htext, fun hnil ↦ absurd rfl hnil⟩
  | cons c cs ih =>
    obtain ⟨hc, hcs⟩ := h
    obtain ⟨hc', hcs'⟩ := h'
    obtain ⟨htext₁, hselection₁⟩ := hc.eq_of_text_eq hc' htext
    obtain ⟨htext₂, hselection₂⟩ := ih hcs hcs' htext₁
    refine ⟨htext₂, fun _ ↦ ?_⟩
    -- the selections may differ at first, but not after a call
    by_cases hnil : cs = []
    · rw [hnil]
      exact hselection₁
    · exact hselection₂ hnil

theorem throughout_obeys_of_isFlat (hs : s.IsFlat) (cs : List Call) : s.Throughout Obeys cs := by
  induction cs generalizing s with
  | nil => trivial
  | cons c cs ih => exact ⟨obeys_of_isFlat hs c, ih (hs.replace _ _ _)⟩

/-- **When surfaces obey.** All calls of a sequence obey their contract exactly if none of them
misplaces its text, which never happens on flat surfaces. Two surfaces that hold the same text and
on which no call misplaces its text have the same text after the calls, and the same selection
after the first of them. -/
theorem throughout_obeys_iff (s : Surface) (cs : List Call) :
    (Throughout Obeys s cs ↔ Throughout (fun s c ↦ ¬ s.Misplaces c) s cs) ∧
      (s.IsFlat → Throughout Obeys s cs) ∧
      ∀ s', Throughout (fun s c ↦ ¬ s.Misplaces c) s cs →
        Throughout (fun s c ↦ ¬ s.Misplaces c) s' cs → s.text = s'.text →
          (s.calls cs).text = (s'.calls cs).text ∧
            (cs ≠ [] → (s.calls cs).selection = (s'.calls cs).selection) := by
  have hiff : ∀ s, Throughout Obeys s cs ↔ Throughout (fun s c ↦ ¬ s.Misplaces c) s cs :=
    fun s ↦ throughout_congr (fun _ _ ↦ obeys_iff) s cs
  refine ⟨hiff s, fun hs ↦ throughout_obeys_of_isFlat hs cs, fun s' h h' htext ↦ ?_⟩
  exact calls_eq_of_text_eq ((hiff s).mpr h) ((hiff s').mpr h') htext

/-- Between two line breaks inside an element there is no leaf to insert into. -/
theorem not_throughout_obeys_between_breaks :
    ¬ Throughout Obeys
      (ofContent (.element ['b'] (.leaf .lineBreak (.leaf .lineBreak .nil)) .nil))
      [⟨1, 1, ['X']⟩] := by
  rintro ⟨h, -⟩
  exact absurd h.text (by decide)

end Surface

end LineEditor
