import LineEditor.Proofs.Document.Replay
import LineEditor.Proofs.Session.UndoLaw

/-!
# Commands as single steps

A command may edit the text in many places, and a global command runs a line of commands on many
lines; either may fail on the way. In the history all of this is one step. While the command runs,
its group is open and keeps every edit out of the history, those of the commands inside it included.
When the group is closed, what is recorded is the least edit from the text before the command to the
text after it, worked out anew: nothing if the two are equal.

This holds on every surface, for all commands that neither step through the history, nor load
another text, nor run commands that do. That undoing restores the text before the command is another
matter, since it depends on where the surface puts the text it is given. It does so exactly if
neither this call nor the one that makes the edit again misplaces its text, and always on flat
surfaces.
-/

namespace LineEditor

/-! ## Commands and those they run -/

/-- The command neither steps through the history nor loads another text. -/
def CommandName.isStep : CommandName → Bool
  | undo | redo | edit => false
  | _ => true

theorem CommandName.ne_edit_of_isStep {name : CommandName} (h : name.isStep = true) :
    name ≠ .edit := by
  rintro rfl
  exact absurd h Bool.false_ne_true

theorem CommandName.walksHistory_of_isStep {name : CommandName} (h : name.isStep = true) :
    name.walksHistory = false := by
  cases name with
  | undo | redo => exact absurd h Bool.false_ne_true
  | _ => rfl

namespace Command

/-- The lines of commands that a global command runs, as its parameter has them. -/
def body (parameter : Text) : List Text :=
  match Run.delimiter? (Text.trimStart parameter) with
  | none => []
  | some c =>
    (Run.globalBody (Address.delimited c ((Text.trimStart parameter).drop 1)).2).lines

/-- The commands that a global command runs; other commands run none. -/
def subcommands (c : Command) : List Command :=
  if c.name.any CommandName.isGlobal then
    (body c.parameter).flatMap fun line ↦ (commands line).filterMap Except.toOption
  else []

/-- Neither the command nor any that it runs steps through the history or loads another text. -/
def IsStep (c : Command) : Prop := ∀ c' ∈ c :: c.subcommands, c'.name.all CommandName.isStep = true

instance (c : Command) : Decidable c.IsStep := by unfold IsStep; infer_instance

end Command

namespace Run

variable {α β : Type}

/-- Whatever the run results in has a property. -/
def Returns (p : α → Prop) (m : Run α) : Prop := ∀ s a, (m.run s).1 = .ok a → p a

theorem returns_pure {p : α → Prop} {a : α} (h : p a) : Returns p (pure a : Run α) := by
  intro s b hb
  obtain rfl := Except.ok.inj hb
  exact h

theorem returns_throw {p : α → Prop} (e : Error) : Returns p (throw e : Run α) :=
  fun _ _ h ↦ nomatch h

theorem returns_bind {p : β → Prop} {m : Run α} {f : α → Run β} (h : ∀ a, Returns p (f a)) :
    Returns p (m >>= f) := by
  intro s b hb
  rw [run_bind] at hb
  rcases hm : m.run s with ⟨e | a, s'⟩
  · rw [hm] at hb
    exact nomatch hb
  · rw [hm] at hb
    exact h a s' b hb

theorem returns_ite {p : α → Prop} {q : Prop} [Decidable q] {m m' : Run α} (h : Returns p m)
    (h' : Returns p m') : Returns p (if q then m else m') := by
  split
  · exact h
  · exact h'

/-- A command is carried out under its own name. -/
theorem returns_approach (c : Command) :
    Returns (fun approached ↦ ∀ name span, approached = some (name, span) → c.name = some name)
      (approach c) := by
  refine returns_bind fun addressed ↦ ?_
  extract_lets place answerNone nameLines
  have hname : ∀ u, Returns (fun approached ↦
      ∀ name span, approached = some (name, span) → c.name = some name) (nameLines u) := by
    intro u
    dsimp only [nameLines, answerNone]
    cases hc : c.name with
    | none =>
      exact returns_bind fun _ ↦ returns_ite (returns_bind fun _ ↦ returns_pure nofun)
        (returns_pure nofun)
    | some own =>
      have hown : ∀ span : Span, ∀ name span', some (own, span) = some (name, span') →
          some own = some name := fun _ _ _ h ↦ congrArg (Option.map Prod.fst) h
      exact returns_bind fun s ↦ returns_ite (returns_bind fun _ ↦ returns_pure (hown _))
        (returns_pure (hown _))
  exact returns_ite (returns_bind hname) (hname ⟨⟩)

/-- The lines of commands that a global command runs are those of its parameter. -/
theorem returns_startGlobal (parameter : Text) :
    Returns (fun started ↦ started.2.lines = Command.body parameter) (startGlobal parameter) := by
  refine returns_bind fun _ ↦ returns_ite (returns_bind fun _ ↦ ?_) ?_
  all_goals
    extract_lets parameter'
    cases hc : delimiter? parameter' with
    | none => exact returns_throw _
    | some c =>
      refine returns_bind fun _ ↦ returns_bind fun _ ↦ returns_bind fun _ ↦ returns_bind fun _ ↦
        returns_pure ?_
      rw [Command.body, hc]

/-! ## The turns of a command -/

theorem exists_of_mem_following {r : Except Error α × Scene} {turns : α → Scene → List Turn}
    {x : Turn} (h : x ∈ following r turns) : ∃ a, r.1 = .ok a ∧ ∃ s, x ∈ turns a s := by
  rcases r with ⟨e | a, s⟩
  · exact absurd h List.not_mem_nil
  · exact ⟨a, rfl, s, h⟩

theorem exists_of_mem_turnsOfEach {run : α → Run Unit} {turns : α → Scene → List Turn}
    {as : List α} {s : Scene} {x : Turn} (h : x ∈ turnsOfEach run turns as s) :
    ∃ a ∈ as, ∃ s', x ∈ turns a s' := by
  induction as generalizing s with
  | nil => exact absurd h List.not_mem_nil
  | cons a as ih =>
    rcases List.mem_append.mp h with h | h
    · exact ⟨a, List.mem_cons_self, s, h⟩
    · obtain ⟨-, -, s', hs'⟩ := exists_of_mem_following h
      obtain ⟨b, hb, hx⟩ := ih hs'
      exact ⟨b, List.mem_cons_of_mem a hb, hx⟩

theorem exists_of_mem_turnsOfLines {m : Matcher} {expected : Bool} {body : Run Unit}
    {turns : Scene → List Turn} {line last : Nat} {s : Scene} {x : Turn}
    (h : x ∈ turnsOfLines m expected body turns line last s) : ∃ s', x ∈ turns s' := by
  fun_induction turnsOfLines m expected body turns line last s with
  | case1 line last s hle t hmatch ih =>
    obtain ⟨-, -, s₁, h⟩ := exists_of_mem_following h
    rcases List.mem_append.mp h with h | h
    · exact ⟨s₁, h⟩
    · obtain ⟨-, -, s₂, h⟩ := exists_of_mem_following h
      exact ih s₂ h
  | case2 line last s hle t hmatch ih => exact ih h
  | case3 => exact absurd h List.not_mem_nil

theorem exists_of_mem_turnsOfLine {execute : Command → Run Unit}
    {turns : Command → Scene → List Turn} {line : Text} {s : Scene} {x : Turn}
    (h : x ∈ turnsOfLine execute turns line s) :
    ∃ c ∈ (Command.commands line).filterMap Except.toOption, ∃ s', x ∈ turns c s' := by
  obtain ⟨r, hr, s', hx⟩ := exists_of_mem_turnsOfEach h
  cases r with
  | error e => exact absurd hx List.not_mem_nil
  | ok c => exact ⟨c, List.mem_filterMap.mpr ⟨.ok c, hr, rfl⟩, s', hx⟩

/-- A turn of a command is one inside it or its own. -/
theorem mem_or_eq_of_mem_turnsOfCommand {runLine : Text → Run Unit}
    {turns : Text → Scene → List Turn} {c : Command} {s : Scene} {x : Turn}
    (h : x ∈ turnsOfCommand runLine turns c s) :
    c.name = some x.name ∨
      ∃ name span s', c.name = some name ∧ x ∈ turnsInside runLine turns name c span s' := by
  obtain ⟨approached, happroach, s', hx⟩ := exists_of_mem_following h
  cases approached with
  | none => exact absurd hx List.not_mem_nil
  | some target =>
    obtain ⟨name, span⟩ := target
    have hname := returns_approach c s _ happroach name span rfl
    rcases List.mem_append.mp hx with hx | hx
    · exact .inr ⟨name, span, _, hname, hx⟩
    · obtain rfl := List.mem_singleton.mp hx
      exact .inl hname

/-- The turns of a global command are those of the lines that its parameter holds. -/
theorem exists_of_mem_turnsOfGlobal {runLine : Text → Run Unit}
    {turns : Text → Scene → List Turn} {span : Span} {parameter : Text} {expected : Bool}
    {s : Scene} {x : Turn} (h : x ∈ turnsOfGlobal runLine turns span parameter expected s) :
    ∃ line ∈ Command.body parameter, ∃ s', x ∈ turns line s' := by
  obtain ⟨started, hstart, s₁, hx⟩ := exists_of_mem_following h
  rw [← returns_startGlobal parameter s _ hstart]
  obtain ⟨s₂, hx⟩ := exists_of_mem_turnsOfLines hx
  exact exists_of_mem_turnsOfEach hx

theorem exists_of_mem_turnsInside {runLine : Text → Run Unit} {turns : Text → Scene → List Turn}
    {name : CommandName} {c : Command} {span : Span} {s : Scene} {x : Turn}
    (h : x ∈ turnsInside runLine turns name c span s) :
    name.isGlobal = true ∧ ∃ line ∈ Command.body c.parameter, ∃ s', x ∈ turns line s' := by
  unfold turnsInside at h
  split at h
  · exact ⟨rfl, exists_of_mem_turnsOfGlobal h⟩
  · exact ⟨rfl, exists_of_mem_turnsOfGlobal h⟩
  · exact absurd h List.not_mem_nil

/-- A turn inside a global command is that of a command of one of its lines. -/
theorem exists_of_mem_turnsOfInnerLine {line : Text} {s : Scene} {x : Turn}
    (h : x ∈ turnsOfInnerLine line s) :
    ∃ c ∈ (Command.commands line).filterMap Except.toOption, c.name = some x.name := by
  obtain ⟨c, hc, s', hx⟩ := exists_of_mem_turnsOfLine h
  rcases mem_or_eq_of_mem_turnsOfCommand hx with hname | ⟨name, span, s'', -, hx⟩
  · exact ⟨c, hc, hname⟩
  · -- a global command in such a line is refused, so nothing runs inside it
    obtain ⟨-, inner, -, s₃, hx⟩ := exists_of_mem_turnsInside hx
    exact absurd hx List.not_mem_nil

theorem exists_subcommand_of_mem_turnsInside {c : Command} {name : CommandName}
    (hname : c.name = some name) {span : Span} {s : Scene} {x : Turn}
    (h : x ∈ turnsInside innerLine turnsOfInnerLine name c span s) :
    ∃ c' ∈ c.subcommands, c'.name = some x.name := by
  obtain ⟨hglobal, line, hline, s', hx⟩ := exists_of_mem_turnsInside h
  obtain ⟨c', hc', hname'⟩ := exists_of_mem_turnsOfInnerLine hx
  refine ⟨c', ?_, hname'⟩
  rw [Command.subcommands, hname, Option.any_some, if_pos hglobal]
  exact List.mem_flatMap.mpr ⟨line, hline, hc'⟩

/-! ## One step -/

/-- While the group of a step is open, neither the history nor the group changes. -/
theorem history_dispatch {c : Command} (hc : c.IsStep) {name : CommandName}
    (hname : c.name = some name) (span : Span) {s : Scene} {g : Group}
    (hs : s.document.group = some g) :
    let s' := ((dispatch innerLine name c span).run s).2
    s'.document.history = s.document.history ∧ s'.document.group = some g ∧
      (s.document.surface.IsFlat → s'.document.surface.IsFlat) := by
  intro s'
  have hstep : name.isStep = true := by
    have h := hc c List.mem_cons_self
    rwa [hname] at h
  cases hglobal : name.isGlobal with
  | false =>
    have hwaits : s.document.Waits s'.document := waits_dispatch innerLine c span hglobal
      (CommandName.walksHistory_of_isStep hstep) (CommandName.ne_edit_of_isStep hstep) s
    exact ⟨hwaits.history (by rw [hs]; rfl), hwaits.group.trans hs, hwaits.flat⟩
  | true =>
    have hcourse := takes_dispatch_global takes_innerLine hglobal c span s
    have hsteps : ∀ x ∈ turnsInside innerLine turnsOfInnerLine name c span s,
        x.name.isStep = true := by
      intro x hx
      obtain ⟨c', hc', hname'⟩ := exists_subcommand_of_mem_turnsInside hname hx
      have h := hc c' (List.mem_cons_of_mem c hc')
      rwa [hname'] at h
    have hedit : ∀ x ∈ turnsInside innerLine turnsOfInnerLine name c span s, x.name ≠ .edit :=
      fun x hx ↦ CommandName.ne_edit_of_isStep (hsteps x hx)
    obtain ⟨i, b⟩ := g
    obtain ⟨hhistory, hgroup⟩ := hcourse.history_inside hedit
      (fun x hx hwalk ↦ by
        rw [CommandName.walksHistory_of_isStep (hsteps x hx)] at hwalk
        exact absurd hwalk Bool.false_ne_true) hs
    exact ⟨hhistory, hgroup, hcourse.isFlat hedit⟩

end Run

/-- All that led from one document to another is recorded as the least edit that does. -/
structure Document.Steps (d d' : Document) : Prop where
  /-- The edit is recorded, if there is one. -/
  history : d'.history = d.history.recordOption .command (Edit.between d.text d'.text)
  /-- A flat surface stays flat. -/
  flat : d.surface.IsFlat → d'.surface.IsFlat

namespace Document.Steps

variable {d d₁ d' : Document}

theorem of_aside (h : d.Aside d') : d.Steps d' := by
  refine ⟨?_, fun hd ↦ h.surface ▸ hd⟩
  rw [h.history, Edit.between_eq_none_iff.mpr h.text.symm]
  rfl

theorem aside_left (h : d.Aside d₁) (h' : d₁.Steps d') : d.Steps d' := by
  refine ⟨?_, fun hd ↦ h'.flat (h.surface ▸ hd)⟩
  rw [h'.history, h.history, h.text]

theorem aside_right (h : d.Steps d₁) (h' : d₁.Aside d') : d.Steps d' := by
  refine ⟨?_, fun hd ↦ h'.surface ▸ h.flat hd⟩
  rw [h'.history, h.history, h'.text]

end Document.Steps

namespace Run

/-- A step is recorded when its group is closed. -/
theorem steps_carryOut {c : Command} (hc : c.IsStep) {name : CommandName}
    (hname : c.name = some name) (span : Span) {s : Scene} (hs : s.document.group = none) :
    s.document.Steps ((carryOut innerLine name c span).run s).2.document := by
  have hopened : s.opened.document.group = some ⟨0, s.document.text⟩ := by
    change s.document.openGroup.group = _
    rw [Document.openGroup, hs]
  obtain ⟨hhistory, -, hsurface⟩ := s.document.openGroup_spec
  obtain ⟨hsame, hgroup, hflat⟩ := history_dispatch hc hname span hopened
  have hwalk : name.walksHistory = false := by
    have h := hc c List.mem_cons_self
    rw [hname] at h
    exact CommandName.walksHistory_of_isStep h
  rw [carryOut, if_neg (by rw [hwalk]; exact Bool.false_ne_true), run_grouped]
  generalize ((dispatch innerLine name c span).run s.opened).2 = s' at hsame hgroup hflat
  have hclose : s'.document.closeGroup = { s'.document with
      group := none
      history := s'.document.history.recordOption .command
        (Edit.between s.document.text s'.document.text) } := by
    rw [Document.closeGroup, hgroup]
  refine ⟨?_, fun hd ↦ ?_⟩
  · change s'.document.closeGroup.history
      = s.document.history.recordOption .command
        (Edit.between s.document.text s'.document.closeGroup.text)
    rw [hclose]
    change s'.document.history.recordOption .command _ = _
    rw [hsame]
    exact congrArg (History.recordOption · .command _) hhistory
  · change s'.document.closeGroup.surface.IsFlat
    rw [Document.surface_closeGroup]
    exact hflat (hsurface ▸ hd)

/-- A command that is a step is recorded as one, whether it succeeds or fails. -/
theorem steps_execute {c : Command} (hc : c.IsStep) {s : Scene} (hs : s.document.group = none) :
    s.document.Steps ((execute c).run s).2.document := by
  have haside : s.document.Aside ((approach c).run s).2.document :=
    keeps_approach (P := Scene.On Document.Aside) c s
  rw [execute, executeWith, run_bind]
  have hname := returns_approach c s
  rcases happroach : (approach c).run s with ⟨e | approached, s₁⟩
  · rw [happroach] at haside
    exact .of_aside haside
  · rw [happroach] at haside hname
    cases approached with
    | none => exact .of_aside haside
    | some target =>
      obtain ⟨name, span⟩ := target
      have hstep := steps_carryOut hc (hname _ rfl name span rfl) span (haside.group.trans hs)
      refine .aside_left haside (hstep.aside_right ?_)
      exact aside_run_bind (fun _ ↦ keeps_bookmark currentMark) s₁

end Run

namespace Scene

/-- **A command is one step of the history.** Carried out without an open group, a command that is a
step leaves the history alone if it leaves the text alone, whether it succeeds or fails. Otherwise
the history has one more record, of the least edit from the text before to the text after, with
nothing behind it to redo. Taking it back restores the text before and making it again the text
after exactly if neither call to the surface misplaces its text, which flat surfaces never do. -/
theorem takesOneStep_execute (s : Scene) {c : Command} (hc : c.IsStep)
    (hs : s.document.group = none) :
    let d := s.document
    let d' := ((Run.execute c).run s).2.document
    (d'.text = d.text → d'.history = d.history) ∧
      (d'.text ≠ d.text → ∃ e d₁ d₂, Edit.between d.text d'.text = some e ∧
        d'.history = d.history.add ⟨.command, e⟩ ∧
        d'.undoStep = some d₁ ∧ d₁.redoStep = some d₂ ∧
        (d₁.text = d.text ∧ d₂.text = d'.text ↔
          ¬ d'.surface.Misplaces e.inverse.call ∧ ¬ d₁.surface.Misplaces e.call) ∧
        (d.surface.IsFlat → d₁.text = d.text ∧ d₂.text = d'.text)) := by
  intro d d'
  have hsteps : d.Steps d' := Run.steps_execute hc hs
  refine ⟨fun htext ↦ ?_, fun htext ↦ ?_⟩
  · rw [hsteps.history, Edit.between_eq_none_iff.mpr htext.symm]
    rfl
  · cases he : Edit.between d.text d'.text with
    | none => exact absurd (Edit.between_eq_none_iff.mp he).symm htext
    | some e =>
      have hhistory : d'.history = d.history.add ⟨.command, e⟩ := by
        rw [hsteps.history, he, History.recordOption, Option.elim_some, History.record_command]
      obtain ⟨d₁, d₂, hundo, hredo, hiff, hflat⟩ := Document.exists_undo_redo hhistory
        (Edit.isReduced_of_between he) (Edit.leads_of_between he)
      refine ⟨e, d₁, d₂, rfl, hhistory, hundo, hredo, hiff, fun hd ↦ hiff.mpr ?_⟩
      have hd' := hsteps.flat hd
      exact ⟨hd'.not_misplaces _, (hflat hd').not_misplaces _⟩

/-- A global command that makes two substitutions, taken back and made again at once. -/
theorem takesOneStep_execute_global :
    let s : Scene := { document := .ofSurface (.ofField "a\nb\na".toList) {}, range := 0 }
    let c : Command := ⟨[], some .global, false, 1, "/a/s//c/".toList⟩
    let d' := ((Run.execute c).run s).2.document
    d'.text = "c\nb\nc".toList ∧ ∃ d₁ d₂, d'.undoStep = some d₁ ∧ d₁.redoStep = some d₂ ∧
      d₁.text = "a\nb\na".toList ∧ d₂.text = "c\nb\nc".toList := by
  intro s c d'
  have htext : d'.text = "c\nb\nc".toList := by decide +kernel
  have hchanged : d'.text ≠ s.document.text := by
    rw [htext]
    decide
  have hc : c.IsStep := by decide +kernel
  obtain ⟨e, d₁, d₂, -, -, hundo, hredo, -, hflat⟩ := (takesOneStep_execute s hc rfl).2 hchanged
  obtain ⟨h₁, h₂⟩ := hflat trivial
  exact ⟨htext, d₁, d₂, hundo, hredo, h₁, h₂.trans htext⟩

/-- Between two line breaks inside an element, a text that is taken out cannot be put back. -/
theorem not_undone_between_breaks :
    let s : Scene := {
      document := .ofSurface (.ofContent (.element ['b'] (.leaf .lineBreak
        (.leaf (.text ['a']) (.leaf .lineBreak .nil))) .nil)) {}
      range := 0 }
    let c : Command := ⟨[.address ⟨.line 2, 0⟩], some .substitute, false, 1, "/a//".toList⟩
    let d' := ((Run.execute c).run s).2.document
    s.document.group = none ∧ c.IsStep ∧ d'.text ≠ s.document.text ∧
      ∀ d₁, d'.undoStep = some d₁ → d₁.text ≠ s.document.text := by
  intro s c d'
  have hundo : d'.undoStep.map (·.text) = some "\n\na".toList := by decide +kernel
  refine ⟨rfl, by decide +kernel, by decide +kernel, fun d₁ h₁ ↦ ?_⟩
  rw [h₁, Option.map_some, Option.some.injEq] at hundo
  rw [hundo]
  decide +kernel

end Scene

end LineEditor
