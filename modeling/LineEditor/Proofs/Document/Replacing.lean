import LineEditor.Proofs.Document.LineEdits

/-!
# Replacing matches through a range

Replacing matches in a range works out a new text for it and writes that like any other text. So
the whole of the new text is prepared for its place, the gaps between the matches as well: every
carriage return in it is turned into a separator, whether a template has put it there or it has been
in the document all along. The text is the one worked out exactly if there is none, and if the
surface does not misplace what is edited.
-/

namespace LineEditor.Document

variable {d : Document} {m : Matcher} {pattern template new : Text} {f : SearchFlags} {all : Bool}
  {id : RangeId} {b : Bounds}

/-- Written without an indentation, a text has its line breaks turned into separators. -/
theorem write_nil (d : Document) (id : RangeId) (piece : Text) (kind : EditKind) :
    let b := d.bounds id
    (d.write id piece kind []).2
      = (d.replace b.start b.stop piece.normalizeBreaks kind).2.moveTo id
          ⟨b.start, b.start + piece.normalizeBreaks.length⟩ := rfl

/-- The bounds set are those read, if they fit the text. -/
theorem bounds_moveTo (hle : b.start ≤ b.stop) (hstop : b.stop ≤ d.text.length) (id : RangeId) :
    (d.moveTo id b).bounds id = b := by
  rw [bounds, moveTo, Ranges.get_put]
  exact Bounds.clamp_of_le hle hstop

/-- A text written in place of that of a range is there as it was given exactly if no carriage
return is in it and the surface does not misplace what is edited. Then the range covers it. -/
theorem write_splices_iff (d : Document) (id : RangeId) (piece : Text) (kind : EditKind) :
    let b := d.bounds id
    let d' := (d.write id piece kind []).2
    (d'.text = d.text.take b.start ++ piece ++ d.text.drop b.stop ∧
        d'.bounds id = ⟨b.start, b.start + piece.length⟩) ↔
      '\r' ∉ piece ∧
        ∀ e, (d.replace b.start b.stop piece kind).1 = some e → ¬ d.surface.Misplaces e.call := by
  intro b d'
  have hle : b.start ≤ b.stop := (d.ranges.get id).bounds.clamp_start_le d.length
  have hstop : b.stop ≤ d.text.length := (d.ranges.get id).bounds.clamp_stop_le d.length
  have hwritten : d' = (d.replace b.start b.stop piece.normalizeBreaks kind).2.moveTo id
      ⟨b.start, b.start + piece.normalizeBreaks.length⟩ := d.write_nil id piece kind
  constructor
  · rintro ⟨htext, -⟩
    -- no carriage return is written, and the characters are those of the text that is to be made
    have hperm := perm_text_replace hle hstop piece.normalizeBreaks kind
    have hsame : (d.replace b.start b.stop piece.normalizeBreaks kind).2.text = d'.text := by
      rw [hwritten]
      rfl
    rw [hsame, htext, List.perm_append_right_iff, List.perm_append_left_iff] at hperm
    have hreturn : '\r' ∉ piece := fun h ↦ piece.not_mem_normalizeBreaks (hperm.mem_iff.mp h)
    rw [Text.normalizeBreaks_of_not_mem hreturn] at hsame
    exact ⟨hreturn, (text_replace_iff hle hstop piece kind).mp (hsame.trans htext)⟩
  · rintro ⟨hreturn, hplaced⟩
    rw [Text.normalizeBreaks_of_not_mem hreturn] at hwritten
    have htext : d'.text = d.text.take b.start ++ piece ++ d.text.drop b.stop := by
      rw [hwritten]
      exact (text_replace_iff hle hstop piece kind).mpr hplaced
    refine ⟨htext, ?_⟩
    rw [hwritten] at htext ⊢
    refine bounds_moveTo (Nat.le_add_right _ _) ?_ id
    rw [text_moveTo] at htext
    rw [htext, List.length_append, List.length_append,
      List.length_take_of_le (Nat.le_trans hle hstop)]
    exact Nat.le_add_right _ _

/-- **Replacing matches in a range.** Where nothing matches, nothing happens. Otherwise the range
has the text worked out for it, between those in front and behind, and covers it, exactly if no
carriage return is in that text and the surface does not misplace what is edited. -/
theorem replaceMatches_splices_iff (hm : matcher f pattern = .ok m) (d : Document) (id : RangeId)
    (template : Text) (all : Bool) :
    let b := d.bounds id
    let found := Search.replace m d.text b template all f.backward f.magic
    (found = none → d.replaceMatches id pattern template f all = .ok (0, d)) ∧
      ∀ new n, found = some (new, n) → ∃ d',
        d.replaceMatches id pattern template f all = .ok (n, d') ∧
        ((d'.text = d.text.take b.start ++ new ++ d.text.drop b.stop ∧
            d'.bounds id = ⟨b.start, b.start + new.length⟩) ↔
          '\r' ∉ new ∧ ∀ e, (d.replace b.start b.stop new .replacement).1 = some e →
            ¬ d.surface.Misplaces e.call) := by
  intro b found
  refine ⟨fun hnone ↦ ?_, fun new n hsome ↦ ⟨(d.write id new .replacement []).2, ?_, ?_⟩⟩
  · simp only [found, b] at hnone
    simp only [replaceMatches, hm, hnone, bind, Except.bind]
    rfl
  · simp only [found, b] at hsome
    simp only [replaceMatches, hm, hsome, bind, Except.bind]
    rfl
  · exact d.write_splices_iff id new .replacement

/-- The match alone is replaced. A carriage return in front of the range is not touched. -/
theorem replaceMatches_splices_behind_return :
    let d := (ofSurface (.ofField "a\rb".toList) {}).moveTo 0 ⟨2, 3⟩
    ∃ d', d.replaceMatches 0 ['b'] ['c'] {} true = .ok (1, d') ∧
      d'.text = "a\rc".toList ∧ d'.bounds 0 = ⟨2, 3⟩ := by
  intro d
  have hm : matcher {} ['b'] = .ok ((SearchFlags.matcher? {} ['b']).getD ⟨fun _ _ ↦ none⟩) := rfl
  obtain ⟨-, hsome⟩ := replaceMatches_splices_iff hm d 0 ['c'] true
  obtain ⟨d', hrun, hiff⟩ := hsome ['c'] 1 (by decide +kernel)
  have hflat : d.surface.IsFlat := trivial
  obtain ⟨htext, hbounds⟩ := hiff.mpr ⟨by decide, fun _ _ ↦ hflat.not_misplaces _⟩
  exact ⟨d', hrun, htext, hbounds⟩

/-- A carriage return in the range that nothing matches is turned into a separator. -/
theorem not_replaceMatches_splices :
    let d := (ofSurface (.ofField "a\rb".toList) {}).moveTo 0 ⟨0, 3⟩
    let m := Matcher.ofPattern? {} ['b']
    m.map (fun m ↦ Search.replace m d.text (d.bounds 0) ['c'] true false true)
        = some (some ("a\rc".toList, 1)) ∧
      ((d.replaceMatches 0 ['b'] ['c'] {} true).toOption.map fun r ↦ r.2.text)
        = some "a\nc".toList := by
  decide +kernel

end LineEditor.Document
