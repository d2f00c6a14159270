import LineEditor.Proofs.Session.Moving

/-!
# Lines on their way

Lines can be copied, moved, and deleted or yanked and put elsewhere. On each of these ways their
text is written as one that comes from outside: every carriage return in it becomes a separator. So
the lines arrive as they were exactly if no carriage return is in them. The lines that stay where
they are do so in any case, and lines that are moved to where they are are not written at all.

A text that is empty has one line, which nothing stays of when lines are put in.
-/

namespace LineEditor

open Text (unlines separator)

namespace Run

variable {c c' : Command} {name : CommandName} {span target : Span} {s s₁ s₂ : Scene}
  {tokens : List AddressToken} {n : Nat} {body : Text} {register : Option Char}
  {count : Option Nat} {remove : Bool}

/-- Lines that a command writes behind others arrive as they were exactly if no carriage return is
in them. -/
theorem exists_run_writing (runLine : Text → Run Unit) (hd : s.document.surface.IsReliable)
    (happroach : (approach c).run s = (.ok (some (name, span)), s₁))
    (h : Writes c span s₁.opened name (.behind n body [])) :
    ∃ s', (executeWith runLine c).run s = (.ok (), s') ∧
      s'.document.text.HasLinesIff (s.document.text.linesWith n body.lines) ('\r' ∉ body) := by
  obtain ⟨s', hrun, hlines⟩ := exists_run_of_writes runLine happroach h
  have hwritten := hlines.mpr fun e _ ↦ Surface.obeys_iff.mp (hd.obeys e.call)
  exact ⟨s', hrun, LineWrite.hasLinesIff_of_linesAfter hwritten⟩

/-- Lines are copied. -/
theorem exists_run_copying (runLine : Text → Run Unit) (hd : s.document.surface.IsReliable)
    (happroach : (approach c).run s = (.ok (some (.copy, span)), s₁))
    (htokens : Command.addressList c.parameter = .ok tokens)
    (htarget : (resolve tokens).run s₁.opened = (.ok (some target), s₂))
    (hfirst : 1 ≤ span.first) :
    let t := s.document.text
    ∃ s', (executeWith runLine c).run s = (.ok (), s') ∧
      s'.document.text.HasLinesIff (t.linesWith target.last (t.lineRange span.first span.last))
        ('\r' ∉ t.linesText span.first span.last) := by
  intro t
  have hfits := fits_of_approach happroach
  have hlength := t.length_lineRange hfirst (Nat.le_succ_of_le hfits.le) hfits.last_le
  have hne : t.lineRange span.first span.last ≠ [] := by
    have hle := hfits.le
    rw [← List.length_pos_iff]
    omega
  have hwrites : Writes c span s₁.opened .copy _ := .copy htokens htarget
  rw [Nat.max_eq_left hfirst, Nat.max_eq_left hfits.le, (stays_approach happroach).1.text]
    at hwrites
  have hcopied := exists_run_writing runLine hd happroach hwrites
  rwa [Text.lines_linesText hne] at hcopied

/-- Lines are moved. -/
theorem exists_run_moving (runLine : Text → Run Unit) (hd : s.document.surface.IsReliable)
    (happroach : (approach c).run s = (.ok (some (.move, span)), s₁))
    (htokens : Command.addressList c.parameter = .ok tokens)
    (htarget : (resolve tokens).run s₁.opened = (.ok (some target), s₂))
    (hfirst : 1 ≤ span.first)
    (hleft : target.last + 1 < span.first →
      unlines (s.document.text.lines.take (span.first - 1) ++ s.document.text.lines.drop span.last)
        ≠ []) :
    let t := s.document.text
    let n := min target.last t.lineCount
    let moved := t.stayingTo span.first span.last n ++ t.lineRange span.first span.last
      ++ t.stayingFrom span.first span.last n
    ∃ s', (executeWith runLine c).run s = (.ok (), s') ∧ moved.Perm t.lines ∧
      s'.document.text.HasLinesIff moved
        (span.first ≤ target.last + 1 ∧ target.last ≤ span.last ∨
          '\r' ∉ t.linesText span.first span.last) := by
  intro t n moved
  obtain ⟨s', hrun, hsurface, hstays, -, -⟩ :=
    exists_run_move runLine happroach htokens htarget hfirst
  have hfits := fits_of_approach happroach
  have hbehind : target.last ≤ t.lines.length := by
    have htargetFits : target.Fits s₁.opened.document.text :=
      yields_resolve tokens s₁.opened _ s₂ htarget target rfl
    rw [(stays_approach happroach).1.text] at htargetFits
    exact htargetFits.last_le
  have hcut := Text.moveCut hfirst hfits.le hfits.last_le
    (Nat.le_trans (Nat.min_le_left target.last t.lineCount) hbehind)
  refine ⟨s', hrun, hcut.perm, Text.hasLinesIff_of_movedLines hcut.block_ne_nil ?_⟩
  have htext : s₂.document.text = t := congrArg Surface.text hsurface
  have hmoved := Document.lines_moveLines_of_isReliable (d := s₂.document) (hsurface.symm ▸ hd)
    hfirst hfits.le (htext.symm ▸ hfits.last_le) (htext.symm ▸ hbehind) (htext.symm ▸ hleft) s.range
  rw [htext] at hmoved
  rw [hstays.text, hmoved]

/-- Lines are deleted or yanked. -/
theorem exists_run_taken (runLine : Text → Run Unit) (hd : s.document.surface.IsReliable)
    (happroach : (approach c).run s = (.ok (some (taking remove, span)), s₁))
    (hparameter : (registerAndCount c.parameter).run s = (.ok (register, count), s)) :
    let t := s.document.text
    let lines := span.counted count t.lineCount
    let left := t.linesLeft remove lines
    ∃ s', (executeWith runLine c).run s = (.ok (), s') ∧ s'.document.text = unlines left ∧
      (remove → (t.lineRange lines.first lines.last ++ left).Perm t.lines) ∧
      s'.session.registers.get? register = some (s.session.registers.kept register
        ++ t.linesText lines.first lines.last ++ [separator]) ∧
      s'.document.surface.IsReliable := by
  intro t lines left
  obtain ⟨s', hrun, hstore, hsurface, htext, -⟩ := exists_run_taking runLine happroach hparameter
  have hregister := Registers.get?_of_store? hstore
  rw [← List.append_assoc] at hregister
  refine ⟨s', hrun, htext, ?_, hregister, ?_⟩
  · rintro rfl
    obtain ⟨hfirst, hle, -⟩ := (fits_of_approach happroach).counted
      (yields_registerAndCount c.parameter s _ s hparameter)
    exact Text.perm_lineRange hfirst hle
  · rw [hsurface]
    cases remove with
    | true => exact Document.reliable_replace hd _ _ _ _
    | false => exact hd

/-- The text of a register is put behind a line. -/
theorem exists_run_putting (runLine : Text → Run Unit) (hd : s.document.surface.IsReliable)
    (happroach : (approach c).run s = (.ok (some (.put, span)), s₁))
    (hputs : PutsFrom c.parameter s₁.opened register)
    (hregister : s.session.registers.get? register = some (body ++ [separator])) :
    let n := if c.bang then span.first - 1 else span.last
    ∃ s', (executeWith runLine c).run s = (.ok (), s') ∧
      s'.document.text.HasLinesIff (s.document.text.linesWith n body.lines) ('\r' ∉ body) := by
  intro n
  rw [← (stays_approach happroach).2] at hregister
  have hwrites : Writes c span s₁.opened .put _ := .put hputs hregister
  rw [Text.getD_dropFinal?_append] at hwrites
  exact exists_run_writing runLine hd happroach hwrites

end Run

end LineEditor
