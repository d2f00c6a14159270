import LineEditor.Proofs.Document.Shifting
import LineEditor.Proofs.Session.Joining

/-!
# Shifting lines

Two commands shift lines, to the right and to the left, by as many columns as the options say and
as many times as the command is repeated. What one of them does, the other one takes back: behind
the spaces that are put in front of it, a line is the same whatever it begins with, and empty lines
are passed over. To shift to the left without that is another matter, where tabs are dropped as a
whole or begin at another column.
-/

namespace LineEditor

open Text (unlines separator indentation indentWidth outdent isIndent)
open Document (shifted shiftColumns tabStops)

/-- The command that shifts lines to the right, or the one that shifts them to the left. -/
def CommandName.shifting (right : Bool) : CommandName := if right then .shiftRight else .shiftLeft

/-- A command to shift lines `a` to `b`, repeated `times` times. -/
def Command.shifting (right : Bool) (a b times : Nat) : Command :=
  ⟨[.address ⟨.line a, 0⟩, .comma, .address ⟨.line b, 0⟩], some (.shifting right), false, times, []⟩

/-- What shifting does to the surface depends on it and on the options alone. -/
theorem Document.stays_shiftLines {d d' : Document} (h : d.Stays d') (id id' : RangeId)
    (first last times : Nat) (right : Bool) :
    (d.shiftLines id first last times right).Stays
      (d'.shiftLines id' first last times right) := by
  constructor
  · simp only [shiftLines, surface_moveToLines, h.options, h.text]
    exact surface_replace_congr h.surface _ _ _ _
  · rw [options_shiftLines, options_shiftLines, h.options]

namespace Run

variable {c : Command} {span : Span} {s s₁ s' : Scene} {parameter : Text} {count : Option Nat}
  {register : Option Char} {a b : Nat}

theorem dispatch_shifting (runLine : Text → Run Unit) (right : Bool) (c : Command) (span : Span) :
    dispatch runLine (.shifting right) c span = shift span c.parameter c.repeats right := by
  cases right <;> rfl

theorem walksHistory_shifting (right : Bool) :
    (CommandName.shifting right).walksHistory = false := by
  cases right <;> rfl

theorem run_shift (span : Span) (times : Nat) (right : Bool)
    (hparameter : (registerAndCount parameter).run s = (.ok (register, count), s)) :
    let lines := span.counted count s.document.text.lineCount
    (shift span parameter times right).run s
      = (.ok (), s.withDocument
          (s.document.shiftLines s.range lines.first lines.last times right)) := by
  intro lines
  rw [shift, run_bind, hparameter]
  rfl

/-- A command that shifts lines succeeds, and does to the surface what it does to the lines. -/
theorem exists_run_shifting (runLine : Text → Run Unit) (right : Bool)
    (happroach : (approach c).run s = (.ok (some (.shifting right, span)), s₁))
    (hparameter : (registerAndCount c.parameter).run s = (.ok (register, count), s)) :
    let lines := span.counted count s.document.text.lineCount
    ∃ s', (executeWith runLine c).run s = (.ok (), s') ∧
      (s.document.shiftLines s.range lines.first lines.last c.repeats right).Stays s'.document := by
  intro lines
  obtain ⟨hstays, -⟩ := stays_approach happroach
  have hdispatch := run_shift span c.repeats right
    (run_registerAndCount s₁.opened hparameter)
  rw [hstays.text, ← dispatch_shifting runLine] at hdispatch
  obtain ⟨s', hrun, -, hafter, -⟩ :=
    exists_run_executeWith (walksHistory_shifting right) happroach hdispatch
  exact ⟨s', hrun, (Document.stays_shiftLines hstays _ _ _ _ _ _).trans
    ((Scene.stays_withDocument _ _).trans hafter)⟩

/-- A command that shifts lines by their numbers. -/
theorem exists_run_execute_shifting (right : Bool) (times : Nat) (hab : a ≤ b) (ha : 1 ≤ a)
    (hb : b ≤ s.document.text.lineCount) (hmax : (b : Int) ≤ Text.maxInteger) :
    ∃ s', (execute (.shifting right a b times)).run s = (.ok (), s') ∧
      (s.document.shiftLines s.range a b times right).Stays s'.document := by
  have hcounted : Span.counted ⟨a, b⟩ none s.document.text.lineCount = ⟨a, b⟩ := by
    rw [Span.counted, Nat.max_eq_left ha, Nat.max_eq_left (Nat.le_trans ha hab)]
  obtain ⟨s₁, happroach, -⟩ := run_approach_of_resolve (c := .shifting right a b times) rfl
    (run_resolve_lines hab hb hmax)
  have hparameter : (registerAndCount []).run s = (.ok (none, none), s) := rfl
  have hrun := exists_run_shifting innerLine right happroach hparameter
  rw [hcounted] at hrun
  exact hrun

/-- **Shifting there and back.** Lines that are shifted to the right and then as often to the left
are the same, whatever they begin with, whether they are empty or only blank, whatever the options
and the surface. Neither command changes another line or how many lines there are. -/
theorem shifted_back (times : Nat) (ha : 1 ≤ a) (hab : a ≤ b)
    (hb : b ≤ s.document.text.lineCount) (hmax : (b : Int) ≤ Text.maxInteger) :
    let t := s.document.text
    let there := (execute (.shifting true a b times)).run s
    let back := (execute (.shifting false a b times)).run there.2
    there.1 = .ok () ∧ back.1 = .ok () ∧ back.2.document.text = t ∧
      there.2.document.text.lines = t.lines.take (a - 1)
        ++ shifted s.document.options true times (t.lineRange a b) ++ t.lines.drop b ∧
      there.2.document.text.lines.length = t.lines.length ∧
      there.2.document.text.lineCount = t.lineCount := by
  intro t there back
  have hlast : b ≤ t.lines.length := Nat.le_trans hb t.lineCount_le_length_lines
  have hcut := t.lines_eq_lineRange ha (Nat.le_succ_of_le hab)
  obtain ⟨s₁, hthere, hstays⟩ := exists_run_execute_shifting true times hab ha hb hmax
  have hafter : there.2 = s₁ := congrArg Prod.snd hthere
  have hlines : s₁.document.text.lines = t.lines.take (a - 1)
      ++ shifted s.document.options true times (t.lineRange a b) ++ t.lines.drop b := by
    rw [hstays.text]
    exact (Document.lines_shiftLines_iff ha hab hlast s.range times true).mpr
      (Document.placesLines_shiftLine_right ha hab hlast _ _)
  obtain ⟨hpieces, hcount⟩ := Document.lineCount_of_shifted_right hcut hlines
  have hoptions : s₁.document.options = s.document.options :=
    hstays.options.trans (Document.options_shiftLines _ _ _ _ _ _)
  -- the lines to shift back are those that were shifted
  have hlength : (shifted s.document.options true times (t.lineRange a b)).length
      = (t.lineRange a b).length := List.length_map _
  obtain ⟨hfront, hrange, hbehind⟩ := Text.lineRange_of_exchange ha hab hlast hlength hlines
  have hsame : shifted s₁.document.options false times (s₁.document.text.lineRange a b)
      = t.lineRange a b := by
    rw [hrange, hoptions, Document.shifted_left_right]
  obtain ⟨s₂, hback, hstays'⟩ :=
    exists_run_execute_shifting (s := s₁) false times hab ha (hcount ▸ hb) hmax
  have hback' : back = (.ok (), s₂) := by
    rw [← hback]
    exact congrArg ((execute (.shifting false a b times)).run ·) hafter
  have hplaced : s₁.document.PlacesLines a b (t.lineRange a b) :=
    Document.placesLines_of_shiftLine_right ha hab (hpieces ▸ hlast)
      (fun _ ↦ Text.isLine_of_mem_lineRange) hrange
  have hlines' := (Document.lines_shiftLines_iff (d := s₁.document) ha hab (hpieces ▸ hlast)
    s₁.range times false).mpr (hsame ▸ hplaced)
  rw [hafter]
  refine ⟨congrArg Prod.fst hthere, congrArg Prod.fst hback', ?_, hlines, hpieces, hcount⟩
  rw [hback', ← s₂.document.text.unlines_lines, hstays'.text, hlines', hfront, hsame, hbehind,
    ← hcut, t.unlines_lines]

/-- An empty line, a blank one and one that begins with a tab, between line breaks. -/
theorem shifted_back_between_breaks :
    let lines : Forest := .leaf .lineBreak (.leaf (.text "  \n\ta".toList) (.leaf .lineBreak .nil))
    let s : Scene :=
      { document := .ofSurface (.ofContent (.element ['b'] lines .nil)) {}, range := 0 }
    let there := (execute (.shifting true 1 3 2)).run s
    let back := (execute (.shifting false 1 3 2)).run there.2
    back.1 = .ok () ∧ back.2.document.text = "\n  \n\ta\n".toList := by
  intro lines s there back
  obtain ⟨-, hok, htext, -⟩ :=
    shifted_back (s := s) (a := 1) (b := 3) 2 (by decide) (by decide) (by decide) (by decide)
  exact ⟨hok, htext⟩

/-- **Shifting to the left.** Dropping columns of a line drops characters of its indentation, and
what stands behind that is the same. The width that is left is what is asked for exactly if there
are no more columns than are to be dropped, or these are whole tab stops, or no tab of the
indentation reaches beyond them; in any case it differs by less than one tab stop. A command that
shifts lines to the left drops as many columns of each as the options and its repeats say, and
changes nothing else, exactly if the edit does not misplace its text; which on flat surfaces it
never does. -/
theorem outdented_executeWith (line : Text) (width : Nat) {tabsize : Nat} (h : 0 < tabsize) :
    let left := line.outdent width tabsize
    let w := line.indentation.indentWidth tabsize
    let w' := left.indentation.indentWidth tabsize
    (left <:+ line ∧ left.dropWhile isIndent = line.dropWhile isIndent) ∧
    (w' = w - min w width ↔ w ≤ width ∨ tabsize ∣ width ∨
      ∀ a, a ++ ['\t'] <+: line.indentation → indentWidth (a ++ ['\t']) tabsize ≤ width) ∧
    (w' < w - min w width + tabsize ∧ w - min w width < w' + tabsize) ∧
    ∀ (runLine : Text → Run Unit) (c : Command) (s s₁ : Scene) (span : Span)
      (register : Option Char) (count : Option Nat),
      (approach c).run s = (.ok (some (.shiftLeft, span)), s₁) →
      (registerAndCount c.parameter).run s = (.ok (register, count), s) →
      span.last ≤ s.document.text.lineCount →
      let r := (executeWith runLine c).run s
      let t := s.document.text
      let lines := span.counted count t.lineCount
      let outdented := (t.lineRange lines.first lines.last).map fun l ↦
        l.outdent (shiftColumns s.document.options c.repeats) (tabStops s.document.options)
      let placed := s.document.PlacesLines lines.first lines.last outdented
      r.1 = .ok () ∧ lines.IsCounted t.lineCount ∧
        (r.2.document.text.lines
          = t.lines.take (lines.first - 1) ++ outdented ++ t.lines.drop lines.last ↔ placed) ∧
        (s.document.surface.IsFlat → placed) := by
  intro left w w'
  obtain ⟨hwidth, hnear⟩ := Text.indentWidth_outdent h width line
  obtain ⟨-, -, -, -, hrest, -⟩ := Text.exists_outdent_eq width tabsize line
  refine ⟨⟨Text.outdent_suffix width tabsize line, hrest⟩, hwidth, hnear, ?_⟩
  intro runLine c s s₁ span register count happroach hparameter hlast r t lines outdented placed
  have hfits := fits_of_approach happroach
  have hcount : count ≠ some 0 := yields_registerAndCount _ s _ s hparameter
  have hcounted : lines.IsCounted t.lineCount :=
    (Span.isCounted_counted_iff hfits.le hcount t.one_le_lineCount).mpr hlast
  obtain ⟨s', hrun, hstays⟩ := exists_run_shifting runLine false happroach hparameter
  have hafter : r.2 = s' := congrArg Prod.snd hrun
  rw [hafter, hstays.text]
  exact ⟨congrArg Prod.fst hrun, hcounted,
    Document.lines_shiftLines_iff hcounted.one_le hcounted.le
      (Nat.le_trans hcounted.last_le t.lineCount_le_length_lines) s.range c.repeats false,
    fun hflat ↦ Document.placesLines_of_isFlat hflat _ _ _⟩

/-- Spaces and a tab up to the next tab stop are dropped. -/
theorem outdented_executeWith_tab :
    let s := Cli.initial {} {} [] "   \tx\n y".toList
    let r := (execute (.shifting false 1 1 1)).run s
    r.1 = .ok () ∧ r.2.document.text.lines = ["x", " y"].map String.toList ∧
      indentWidth (indentation (outdent "   \tx".toList 4 4)) 4
        = indentWidth (indentation "   \tx".toList) 4 - 4 := by
  intro s r
  obtain ⟨-, hwidth, -, hruns⟩ := outdented_executeWith "   \tx".toList 4 (by decide : 0 < 4)
  have happroach : (approach (.shifting false 1 1 1)).run s
      = (.ok (some (.shiftLeft, ⟨1, 1⟩)), ((approach (.shifting false 1 1 1)).run s).2) :=
    Prod.ext (by rfl) rfl
  have hparameter : (registerAndCount []).run s = (.ok (none, none), s) := rfl
  obtain ⟨hok, -, hlines, hflat⟩ :=
    hruns innerLine _ s _ _ none none happroach hparameter (by decide)
  have htabs := hwidth.mpr (.inr (.inl (Nat.dvd_refl 4)))
  exact ⟨hok, (hlines.mpr (hflat trivial)).trans (by decide), htabs.trans (by decide)⟩

/-- A tab of four columns is dropped as a whole, where two columns are to be dropped. -/
theorem not_outdented_executeWith :
    let line := "\tfoo".toList
    let d := { Document.ofSurface (.ofField line) {} with options := { shiftwidth := 2 } }
    let r := (execute (.shifting false 1 1 1)).run { document := d, range := 0 }
    outdent line 2 4 = "foo".toList ∧ indentWidth (indentation line) 4 = 4 ∧
      indentWidth (indentation (outdent line 2 4)) 4 ≠ 4 - min 4 2 ∧
      r.2.document.text = "foo".toList := by
  decide

end Run

end LineEditor
