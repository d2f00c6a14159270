import LineEditor.Proofs.Document.Writing
import LineEditor.Proofs.Session.Copying

/-!
# What commands that write lines do

A command that writes lines has to know them first: it may have to read a register, to find the line
that its parameter addresses, or to load a file, and any of this can fail. Once the lines are known
nothing fails any more. So a command succeeds exactly if it comes to lines to write, and what it
then does to the text is to write them.

There is nothing else to it. What a command does around it, to marks, to registers and to its range,
leaves the surface alone, and which surface it is makes a difference for one call only.
-/

namespace LineEditor

open Text (separator)

namespace Run

variable {c : Command} {name : CommandName} {span : Span} {s s₁ s₂ : Scene} {w : LineWrite}
  {runLine : Text → Run Unit}

/-! ## Once the lines are known -/

/-- A command that comes to lines to write ends with writing them. -/
theorem dispatch_of_writes (runLine : Text → Run Unit) (h : Writes c span s name w) :
    ∃ s', (dispatch runLine name c span).run s = (.ok (), s') ∧ EndsWriting w s s' := by
  cases h with
  | append =>
    exact ⟨_, run_insertBehind span.last span.last c.parameter c.bang s, s, .refl s, rfl⟩
  | insert =>
    exact ⟨_, run_insertBehind (span.first - 1) span.first c.parameter c.bang s, s, .refl s, rfl⟩
  | change =>
    exact ⟨_, run_change span c.parameter c.bang s, stored s _, aside_stored s _, rfl⟩
  | put hregister ht =>
    exact ⟨_, run_put_eq_ok.mpr ⟨_, _, hregister, ht, rfl⟩, s, .refl s, rfl⟩
  | @copy tokens target s₁ htokens htarget =>
    have haside : s.Aside s₁ := (keeps_resolve tokens).of_run htarget
    refine ⟨_, run_copy_eq_ok.mpr ⟨tokens, target, s₁, htokens, htarget, rfl⟩, s₁, haside, ?_⟩
    rw [haside.document.text]
    rfl
  | @read content s₁ hload =>
    exact ⟨_, run_read_eq_ok.mpr ⟨content, s₁, hload, rfl⟩, s₁, aside_load hload, rfl⟩

/-- Writing lines makes those that it is to make exactly if no text is misplaced. -/
theorem EndsWriting.lines_iff (h : EndsWriting w s s₁) (hw : w.Fits s.document.text) :
    s₁.document.text.lines = w.linesAfter s.document.text ↔
      ∀ e, w.edit? s.document.text = some e → ¬ s.document.surface.Misplaces e.call := by
  obtain ⟨s₂, haside, rfl⟩ := h
  rw [← haside.document.text] at hw ⊢
  rw [← haside.document.surface]
  exact LineWrite.lines_perform_iff hw s₂.range

/-! ## Whole commands -/

/-- A command that comes to lines to write succeeds. -/
theorem exists_run_of_writes (runLine : Text → Run Unit)
    (happroach : (approach c).run s = (.ok (some (name, span)), s₁))
    (h : Writes c span s₁.opened name w) :
    ∃ s', (executeWith runLine c).run s = (.ok (), s') ∧
      (s'.document.text.lines = w.linesAfter s.document.text ↔
        ∀ e, w.edit? s.document.text = some e → ¬ s.document.surface.Misplaces e.call) := by
  -- what comes before the lines are written leaves the surface alone
  obtain ⟨hstays, -⟩ := stays_approach happroach
  have hfits : w.Fits s₁.opened.document.text := h.fits (hstays.text ▸ fits_of_approach happroach)
  obtain ⟨s₂, hdispatch, hends⟩ := dispatch_of_writes runLine h
  have hlines := hends.lines_iff hfits
  rw [hstays.text, hstays.surface] at hlines
  -- and so does what comes after it
  obtain ⟨s', hmark, hmarked⟩ := stays_bookmark currentMark s₂.closed
  have htext' : s'.document.text = s₂.document.text := (s₂.stays_closed.trans hmarked).text
  have hwalk : name.walksHistory = false := CommandName.walksHistory_of_writesLines h.writesLines
  refine ⟨s', (run_executeWith hwalk happroach hdispatch).trans hmark, ?_⟩
  rw [htext']
  exact hlines

/-- **Writing lines.** A command that writes lines has found the ones it works on, with text, options
and registers still as they were. It succeeds exactly if it comes to lines to write: those it is
given, those of a register, of the text or of a file. The lines of the text are then the ones that
stay, with those written among them, exactly if the one edit that is made does not misplace its
text. On flat surfaces they always are. -/
theorem lines_executeWith (runLine : Text → Run Unit) (hname : name.writesLines = true)
    (happroach : (approach c).run s = (.ok (some (name, span)), s₁)) :
    let r := (executeWith runLine c).run s
    let t := s.document.text
    (s.document.Stays s₁.opened.document ∧
      s₁.opened.session.registers = s.session.registers) ∧
      (r.1 = .ok () ↔ ∃ w, Writes c span s₁.opened name w) ∧
      ∀ w, Writes c span s₁.opened name w →
        (r.2.document.text.lines = w.linesAfter t ↔
          ∀ e, w.edit? t = some e → ¬ s.document.surface.Misplaces e.call) ∧
        (s.document.surface.IsFlat → r.2.document.text.lines = w.linesAfter t) := by
  intro r t
  have hcommand : c.name = some name := (approach_eq_some happroach).1
  have hwalk : name.walksHistory = false := CommandName.walksHistory_of_writesLines hname
  refine ⟨stays_approach happroach, ?_, ?_⟩
  · constructor
    · intro hok
      obtain ⟨span', s₁', s₂, happroach', hdispatch, -⟩ :=
        executeWith_eq_ok hcommand hwalk (Prod.ext hok rfl)
      obtain ⟨hfound, rfl⟩ := Prod.mk.inj (happroach'.symm.trans happroach)
      cases hfound
      obtain ⟨w, hw, -⟩ := exists_writes hname hdispatch
      exact ⟨w, hw⟩
    · rintro ⟨w, hw⟩
      obtain ⟨s', hrun, -⟩ := exists_run_of_writes runLine happroach hw
      exact congrArg Prod.fst hrun
  · intro w hw
    obtain ⟨s', hrun, hlines⟩ := exists_run_of_writes runLine happroach hw
    have hafter : r.2 = s' := congrArg Prod.snd hrun
    rw [hafter]
    refine ⟨hlines, ?_⟩
    intro hflat
    exact hlines.mpr fun e _ ↦ hflat.not_misplaces e.call

/-- Lines behind the first one, indented like it. -/
theorem lines_executeWith_append :
    let s := Cli.initial {} { options := { autoindent := true } } [] "  a\nb".toList
    let c : Command := ⟨[.address ⟨.line 1, 0⟩], some .append, false, 1, "X\r\n\rY".toList⟩
    let r := (execute c).run s
    r.1 = .ok () ∧ r.2.document.text.lines = ["  a", "  X", "", "  Y", "b"].map String.toList := by
  intro s c r
  have happroach : (approach c).run s = (.ok (some (.append, ⟨1, 1⟩)), ((approach c).run s).2) :=
    Prod.ext (by rfl) rfl
  obtain ⟨-, hok, hlines⟩ := lines_executeWith innerLine rfl happroach
  refine ⟨hok.mpr ⟨_, .append⟩, ((hlines _ .append).2 trivial).trans ?_⟩
  decide +kernel

/-- Line 0 is changed as line 1 is, and what is written is indented like that. Between two line
breaks inside an element, lines are not put where they are to be. -/
theorem not_lines_executeWith :
    let indented := Document.ofSurface (.ofField "  a".toList) { options := { autoindent := true } }
    let breaks : Forest := .element ['b'] (.leaf .lineBreak (.leaf .lineBreak .nil)) .nil
    let nested := Document.ofSurface (.ofContent breaks) {}
    let changed (d : Document) (n : Nat) : List Text :=
      ((execute (.onLine .change n ['X'])).run { document := d, range := 0 }).2.document.text.lines
    (changed indented 0 = ["  X".toList] ∧
      (LineWrite.inPlace 1 1 ['X'] []).linesAfter indented.text = [['X']]) ∧
    (changed nested 2 = [[], [], ['X']] ∧
      (LineWrite.inPlace 2 2 ['X'] []).linesAfter nested.text = [[], ['X'], []]) := by
  decide +kernel

end Run

end LineEditor
