import LineEditor.Proofs.Registers
import LineEditor.Proofs.Session.Sparing
import LineEditor.Proofs.Session.Spans
import LineEditor.Proofs.Session.Writing

/-!
# Deleting and yanking lines

A command that deletes lines takes two looks at them. What it stores is read off the list of lines.
What it takes out is a stretch of the text between two offsets, and the separator that goes with it
is the one behind the lines, or the one in front of the last lines, or none. Both mean the same
lines: those addressed, or as many as its parameter counts from the last one on.

Yanking takes the first look only, and the document is the same afterwards but for where the range
is.
-/

namespace LineEditor

open Text (unlines separator)

/-- Deleting lines leaves those in front of them and those behind, also where there are none to
delete. -/
theorem Document.text_deleteLines_of_le {d : Document} {first last : Nat} (hfirst : 1 ≤ first)
    (hle : first ≤ last + 1) (hlines : first ≤ d.text.lines.length)
    (hlast : last ≤ d.text.lines.length) :
    (d.deleteLines first last).text
      = unlines (d.text.lines.take (first - 1) ++ d.text.lines.drop last) := by
  have hcut := d.text.lines_eq_lineRange hfirst hle
  have hlength := d.text.length_lineRange hfirst hle hlast
  have hfront : (d.text.lines.take (first - 1)).length = first - 1 := by
    rw [List.length_take]
    omega
  by_cases hnil : d.text.lineRange first last = []
  · rw [hnil, List.length_nil] at hlength
    obtain rfl : first = last + 1 := by omega
    rw [hnil, List.append_nil] at hcut
    have hback : d.text.lines.drop last ≠ [] := by
      rw [← List.length_pos_iff, List.length_drop]
      omega
    have htext := d.text_deleteLines_nil hcut hback
    rw [hfront, Nat.add_sub_cancel] at htext
    rw [htext, ← hcut, Text.unlines_lines]
  · have htext := d.text_deleteLines hcut hnil
    rw [hfront, hlength, Nat.sub_add_cancel hfirst] at htext
    rwa [show first - 1 + (last + 1 - first) = last by omega] at htext

/-- The lines that are left when lines are taken: all of them, unless those taken are removed. -/
def Text.linesLeft (t : Text) (remove : Bool) (lines : Span) : List Text :=
  if remove then t.lines.take (lines.first - 1) ++ t.lines.drop lines.last else t.lines

/-- Their text has those lines, if there is any. -/
theorem Text.lines_unlines_linesLeft {t : Text} {remove : Bool} {lines : Span}
    (h : unlines (t.linesLeft remove lines) ≠ []) :
    (unlines (t.linesLeft remove lines)).lines = t.linesLeft remove lines := by
  refine lines_unlines (fun hnil ↦ h (congrArg unlines hnil)) fun l hl ↦ ?_
  cases remove with
  | true =>
    rcases List.mem_append.mp hl with hl | hl
    · exact isLine_of_mem_lines (List.mem_of_mem_take hl)
    · exact isLine_of_mem_lines (List.mem_of_mem_drop hl)
  | false => exact isLine_of_mem_lines hl

namespace Run

variable {c : Command} {span : Span} {s s₁ s' : Scene} {parameter : Text}
  {runLine : Text → Run Unit}

/-! ## Registers and counts -/

/-- A parameter means a register that can be written and a count, or it is refused. -/
theorem registerAndCount_cases (parameter : Text) :
    (∃ r, registerAndCount parameter = pure r ∧ Registers.IsWritable r.1) ∨
      ∃ e, registerAndCount parameter = refuse e := by
  unfold registerAndCount
  extract_lets t register rest
  have hregister : Registers.IsWritable register := by
    intro c hc
    have hname : Registers.isName c ∧ ¬ c.isDigit := by
      simpa using (Option.filter_eq_some_iff.mp hc).2
    simp only [Registers.isName, Char.isAlphanum, Bool.or_eq_true, decide_eq_true_eq] at hname
    obtain ⟨(hletter | hdigit) | hquote, hno⟩ := hname
    · exact .inr hletter
    · exact absurd hdigit hno
    · exact .inl hquote
  by_cases hrest : rest = []
  · exact .inl ⟨_, if_pos hrest, hregister⟩
  · rw [if_neg hrest]
    match Text.count? rest with
    | none | some 0 => exact .inr ⟨_, rfl⟩
    | some (n + 1) => exact .inl ⟨_, rfl, hregister⟩

/-- What it means does not depend on the scene. -/
theorem run_registerAndCount_eq_ok {r : Option Char × Option Nat}
    (h : (registerAndCount parameter).run s = (.ok r, s')) :
    registerAndCount parameter = pure r ∧ Registers.IsWritable r.1 := by
  obtain ⟨r', hmeans, hwritable⟩ | ⟨e, hrefused⟩ := registerAndCount_cases parameter
  · rw [hmeans] at h
    cases h
    exact ⟨hmeans, hwritable⟩
  · rw [hrefused] at h
    cases h

/-- So they mean the same wherever they are read. -/
theorem run_registerAndCount {register : Option Char} {count : Option Nat} (s' : Scene)
    (h : (registerAndCount parameter).run s = (.ok (register, count), s)) :
    (registerAndCount parameter).run s' = (.ok (register, count), s') := by
  rw [(run_registerAndCount_eq_ok h).1]
  rfl

/-! ## Lines that are taken -/

/-- The command to delete lines, or the one to yank them. -/
def taking (remove : Bool) : CommandName := if remove then .delete else .yank

theorem dispatch_taking (runLine : Text → Run Unit) (remove : Bool) (c : Command) (span : Span) :
    dispatch runLine (taking remove) c span = deleteOrYank span c.parameter remove := by
  cases remove <;> rfl

theorem walksHistory_taking (remove : Bool) : (taking remove).walksHistory = false := by
  cases remove <;> rfl

/-- What is left of a command once it has been carried out is an aside, if that was one. -/
theorem aside_executeWith {name : CommandName} {s₂ s₃ : Scene}
    (happroach : (approach c).run s = (.ok (some (name, span)), s₁))
    (haside : s₁.opened.document.Aside s₂.document)
    (hmark : (bookmark currentMark).run s₂.closed = (.ok (), s₃)) :
    s.document.Aside s₃.document := by
  have happroached : s.document.Aside s₁.document :=
    ((keeps_approach (P := Scene.Aside) c).of_run happroach).document
  have hopened : s₁.document.openGroup.Aside s₁.opened.document := .told _
  have hclosed : s₂.document.closeGroup.Aside s₂.closed.document := .told _
  have hmarked : s₂.closed.document.Aside s₃.document :=
    ((keeps_bookmark (P := Scene.Aside) currentMark).of_run hmark).document
  exact happroached.trans ((hopened.trans haside).closeGroup.trans (hclosed.trans hmarked))

/-- With a register and a count, a command that takes lines succeeds. All it does to the surface is
to delete them if it is to. -/
theorem exists_run_taking (runLine : Text → Run Unit) {remove : Bool}
    (happroach : (approach c).run s = (.ok (some (taking remove, span)), s₁))
    {register : Option Char} {count : Option Nat}
    (hparameter : (registerAndCount c.parameter).run s = (.ok (register, count), s)) :
    let lines := span.counted count s.document.text.lineCount
    let d := if remove then s.document.deleteLines lines.first lines.last else s.document
    ∃ s', (executeWith runLine c).run s = (.ok (), s') ∧
      s.session.registers.store? register
          (s.document.text.linesText lines.first lines.last ++ [separator])
        = some s'.session.registers ∧
      s'.document.surface = d.surface ∧
      s'.document.text = unlines (s.document.text.linesLeft remove lines) ∧
      (¬ remove → s.document.Aside s'.document) := by
  intro lines d
  obtain ⟨hstays, hregisters⟩ := stays_approach happroach
  have hwritable := (run_registerAndCount_eq_ok hparameter).2
  have hparameter₁ := run_registerAndCount s₁.opened hparameter
  obtain ⟨registers, hstore⟩ := Option.isSome_iff_exists.mp <|
    (Registers.isSome_store?_iff (r := s.session.registers)
      (t := s.document.text.linesText lines.first lines.last ++ [separator])).mpr hwritable
  have hlines : span.counted count s₁.opened.document.text.lineCount = lines := by rw [hstays.text]
  have hstore₁ : s₁.opened.session.registers.store? register
      (s₁.opened.document.text.linesText lines.first lines.last ++ [separator])
        = some registers := by
    rw [hstays.text, hregisters, hstore]
  obtain ⟨s₂, hdispatch, haside, -, hstored, -⟩ :=
    run_deleteOrYank_of_store remove hparameter₁ hlines hstore₁
  rw [← dispatch_taking runLine] at hdispatch
  obtain ⟨s', hrun, hmark, hmarked, hregisters'⟩ :=
    exists_run_executeWith (walksHistory_taking remove) happroach hdispatch
  have hsurface : s'.document.surface = d.surface := by
    rw [hmarked.surface, haside.surface]
    cases remove with
    | true => exact Document.surface_deleteLines_congr hstays.surface _ _
    | false => exact hstays.surface
  refine ⟨s', hrun, hregisters'.trans hstored ▸ hstore, hsurface,
    (congrArg Surface.text hsurface).trans ?_, ?_⟩
  · cases remove with
    | true =>
      obtain ⟨hfirst, hle, hlines, hend⟩ := (fits_of_approach happroach).counted
        (yields_registerAndCount c.parameter s _ s hparameter)
      exact Document.text_deleteLines_of_le hfirst hle hlines hend
    | false => exact s.document.text.unlines_lines.symm
  · intro hyank
    obtain rfl : remove = false := Bool.eq_false_iff.mpr hyank
    exact aside_executeWith happroach haside hmark

end Run

end LineEditor
