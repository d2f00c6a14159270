import LineEditor.Proofs.Document.Chain
import LineEditor.Proofs.Session.Commands

/-!
# The turns of a session

A line of commands runs as a whole, but what it does to a document is best told command by command,
and a global command runs other commands in the middle of its own. A *turn* is one command carried
out: the scene in which it starts, behind its addresses and with its group open, and the scene in
which it ends. The turns of a line are listed by following it through the scenes it really goes
through; those inside a global command come before its own.

The list says all there is to know about the course of a line: between turns there are only asides,
a turn of its own is a single command, and a global one spans the turns inside it. `Course` says
this as a relation, and `course_performAll` that every line takes the course of its turns.
-/

namespace LineEditor

/-- A command carried out. -/
structure Turn where
  /-- The command. -/
  name : CommandName
  /-- The command as it was written. -/
  command : Command
  /-- The lines it works on. -/
  span : Span
  /-- The scene in which it starts; its group is open, if it has one. -/
  before : Scene
  /-- The scene in which it ends; its group is still open. -/
  after : Scene

namespace Scene

/-- The scene with a group opened. -/
def opened (s : Scene) : Scene := s.withDocument s.document.openGroup

/-- The scene with the group opened last closed. -/
def closed (s : Scene) : Scene := s.withDocument s.document.closeGroup

theorem status_opened (s : Scene) : s.opened.document.status = s.document.status := by
  change s.document.openGroup.status = _
  unfold Document.openGroup
  split <;> rfl

theorem status_closed (s : Scene) : s.closed.document.status = s.document.status := by
  change s.document.closeGroup.status = _
  unfold Document.closeGroup
  split <;> rfl

end Scene

namespace Run

variable {α β : Type}

/-! ## Listing turns -/

/-- The turns behind a run, which there are if it succeeds. -/
def following (r : Except Error α × Scene) (turns : α → Scene → List Turn) : List Turn :=
  match r with
  | (.ok a, s) => turns a s
  | (.error _, _) => []

/-- The turns of runs that are made one after the other. -/
def turnsOfEach (run : α → Run Unit) (turns : α → Scene → List Turn) :
    List α → Scene → List Turn
  | [], _ => []
  | a :: as, s => turns a s ++ following ((run a).run s) fun _ s ↦ turnsOfEach run turns as s

/-- The turns of a global command from line `line` to `last`. -/
def turnsOfLines (m : Matcher) (expected : Bool) (body : Run Unit) (turns : Scene → List Turn)
    (line last : Nat) (s : Scene) : List Turn :=
  if _h : line ≤ last then
    let t := s.document.text
    if m.occursIn (t.line line) = expected then
      following ((moveToLine line).run s) fun _ s ↦
        turns s ++ following (body.run s) fun _ s ↦
          let added : Int := s.document.text.lineCount - t.lineCount
          turnsOfLines m expected body turns (linesToCome line last added).1
            (linesToCome line last added).2 s
    else turnsOfLines m expected body turns (line + 1) last s
  else []
termination_by last + 1 - line
decreasing_by
  · exact linesToCome_lt _h _
  · omega

/-- The turns inside a global command. -/
def turnsOfGlobal (runLine : Text → Run Unit) (turns : Text → Scene → List Turn) (span : Span)
    (parameter : Text) (expected : Bool) (s : Scene) : List Turn :=
  following ((startGlobal parameter).run s) fun (m, body) s ↦
    turnsOfLines m expected (body.lines.forM runLine) (turnsOfEach runLine turns body.lines)
      (max span.first 1) span.last s

/-- The turns inside a command. -/
def turnsInside (runLine : Text → Run Unit) (turns : Text → Scene → List Turn) (name : CommandName)
    (c : Command) (span : Span) (s : Scene) : List Turn :=
  match name with
  | .global => turnsOfGlobal runLine turns span c.parameter (!c.bang) s
  | .notglobal => turnsOfGlobal runLine turns span c.parameter false s
  | _ => []

/-- The turns of a command: those inside it and its own. -/
def turnsOfCommand (runLine : Text → Run Unit) (turns : Text → Scene → List Turn) (c : Command)
    (s : Scene) : List Turn :=
  following ((approach c).run s) fun approached s ↦
    match approached with
    | none => []
    | some (name, span) =>
      let before := if name.walksHistory then s else s.opened
      turnsInside runLine turns name c span before
        ++ [⟨name, c, span, before, ((dispatch runLine name c span).run before).2⟩]

/-- The turns of a line of commands. -/
def turnsOfLine (execute : Command → Run Unit) (turns : Command → Scene → List Turn) (line : Text)
    (s : Scene) : List Turn :=
  turnsOfEach (fun c ↦ do execute (← orFail c))
    (fun c s ↦ match c with
      | .ok c => turns c s
      | .error _ => []) (Command.commands line) s

/-- The turns of a line run on behalf of a global command. -/
def turnsOfInnerLine : Text → Scene → List Turn :=
  turnsOfLine (executeWith fun _ ↦ refuse .nestedGlobal)
    (turnsOfCommand (fun _ ↦ refuse .nestedGlobal) fun _ _ ↦ [])

end Run

namespace Scene

/-- The turns of a line of commands. -/
def turnsOf (s : Scene) (line : Text) : List Turn :=
  Run.turnsOfLine Run.execute (Run.turnsOfCommand Run.innerLine Run.turnsOfInnerLine) line s

/-- The scene after lines of commands. -/
def performAll (s : Scene) (lines : List Text) : Scene :=
  lines.foldl (fun s line ↦ (s.perform line).2) s

/-- The turns of lines of commands. -/
def turns : Scene → List Text → List Turn
  | _, [] => []
  | s, line :: lines => s.turnsOf line ++ (s.perform line).2.turns lines

end Scene

/-! ## Courses -/

/-- The turn ends in the scene that the command leads to. -/
def Turn.IsRun (t : Turn) : Prop :=
  ∃ runLine, t.after = ((Run.dispatch runLine t.name t.command t.span).run t.before).2

/-- A turn that walks through the history is a step back or a step forward. -/
theorem Turn.IsRun.aside_of_walksHistory {t : Turn} (hrun : t.IsRun)
    (hwalk : t.name.walksHistory = true) :
    (t.before.document.undoStep.getD t.before.document).Aside t.after.document ∨
      (t.before.document.redoStep.getD t.before.document).Aside t.after.document := by
  obtain ⟨runLine, hafter⟩ := hrun
  rw [hafter]
  cases hname : t.name with
  | undo => exact .inl (Run.aside_walk _ _)
  | redo => exact .inr (Run.aside_walk _ _)
  | _ => rw [hname] at hwalk; exact absurd hwalk Bool.false_ne_true

/-- What happens between two scenes, told by turns. -/
inductive Course : Scene → List Turn → Scene → Prop
  /-- Nothing but asides. -/
  | aside {s s' : Scene} (h : s.document.Aside s'.document) : Course s [] s'
  /-- One course, then another one. -/
  | trans {s₁ s₂ s₃ : Scene} {l l' : List Turn} (h : Course s₁ l s₂) (h' : Course s₂ l' s₃) :
    Course s₁ (l ++ l') s₃
  /-- A command that walks through the history. -/
  | walk {t : Turn} (hwalk : t.name.walksHistory = true) (hrun : t.IsRun) :
    Course t.before [t] t.after
  /-- A command that makes one step of the history. -/
  | single {t : Turn} {s : Scene} (hbefore : t.before = s.opened)
    (hwalk : t.name.walksHistory = false) (hglobal : t.name.isGlobal = false) (hrun : t.IsRun) :
    Course s [t] t.after.closed
  /-- A global command, with the turns inside it. -/
  | global {t : Turn} {s : Scene} {l : List Turn} (hbefore : t.before = s.opened)
    (hglobal : t.name.isGlobal = true) (hrun : t.IsRun) (h : Course t.before l t.after) :
    Course s (l ++ [t]) t.after.closed

namespace Run

variable {α β : Type}

/-- The run takes the course of the turns. -/
def Takes (m : Run Unit) (turns : Scene → List Turn) : Prop :=
  ∀ s, Course s (turns s) (m.run s).2

/-- What keeps asides has no turns. -/
theorem course_of_keeps {m : Run α} (h : Keeps Document.Aside m) (s : Scene) :
    Course s [] (m.run s).2 := .aside (h s)

/-- A run has its own turns and those that follow it. -/
theorem course_bind {m : Run α} {f : α → Run β} {s : Scene} {l : List Turn}
    {turns : α → Scene → List Turn} (hm : Course s l (m.run s).2)
    (hf : ∀ a s, Course s (turns a s) ((f a).run s).2) :
    Course s (l ++ following (m.run s) turns) ((m >>= f).run s).2 := by
  rw [run_bind]
  generalize m.run s = r at hm
  rcases r with ⟨e | a, s'⟩
  · rw [following, List.append_nil]
    exact hm
  · exact hm.trans (hf a s')

/-- A run that is an aside has only the turns that follow it. -/
theorem course_aside_bind {m : Run α} {f : α → Run β} {s : Scene}
    {turns : α → Scene → List Turn} (hm : Keeps Document.Aside m)
    (hf : ∀ a s, Course s (turns a s) ((f a).run s).2) :
    Course s (following (m.run s) turns) ((m >>= f).run s).2 :=
  course_bind (course_of_keeps hm s) hf

/-- An aside behind a run has no turns. -/
theorem course_bind_aside {m : Run α} {f : α → Run β} {s : Scene} {l : List Turn}
    (hm : Course s l (m.run s).2) (hf : ∀ a, Keeps Document.Aside (f a)) :
    Course s l ((m >>= f).run s).2 := by
  have hcourse : Course s (l ++ following (m.run s) fun _ _ ↦ []) ((m >>= f).run s).2 :=
    course_bind hm fun a ↦ course_of_keeps (hf a)
  have hnil : following (m.run s) (fun _ _ ↦ []) = [] := by
    rcases m.run s with ⟨e | a, s'⟩ <;> rfl
  rwa [hnil, List.append_nil] at hcourse

theorem takes_each {run : α → Run Unit} {turns : α → Scene → List Turn}
    (h : ∀ a, Takes (run a) (turns a)) (as : List α) :
    Takes (as.forM run) (turnsOfEach run turns as) := by
  induction as with
  | nil => exact fun s ↦ .aside (.refl _)
  | cons a as ih => exact fun s ↦ course_bind (h a s) fun _ ↦ ih

/-- The loop of a global command takes the course of the turns on its lines. -/
theorem takes_globalFrom {body : Run Unit} {turns : Scene → List Turn} (h : Takes body turns)
    (m : Matcher) (expected : Bool) (line last : Nat) :
    Takes (globalFrom m expected body line last) (turnsOfLines m expected body turns line last) := by
  intro s
  -- there are fewer lines to come after each, whatever is added or removed on it
  induction hn : last + 1 - line using Nat.strongRecOn generalizing line last s with
  | ind n ih =>
    rw [globalFrom, turnsOfLines]
    split
    · next hle =>
      change Course s _ ((if m.occursIn (s.document.text.line line) = expected then _
        else _ : Run Unit).run s).2
      simp only
      split
      · refine course_aside_bind (keeps_moveToLine line) fun _ s₁ ↦
          course_bind (h s₁) fun _ s₂ ↦ ?_
        exact ih _ (hn ▸ linesToCome_lt hle _) _ _ s₂ rfl
      · exact ih _ (by omega) _ _ s rfl
    · exact .aside (.refl _)

theorem run_grouped (body : Run Unit) (s : Scene) :
    (grouped body).run s = ((body.run s.opened).1, (body.run s.opened).2.closed) := rfl

/-- A global command takes the course of the turns on its lines. -/
theorem takes_global {runLine : Text → Run Unit} {turns : Text → Scene → List Turn}
    (h : ∀ line, Takes (runLine line) (turns line)) (span : Span) (parameter : Text)
    (expected : Bool) :
    Takes (global runLine span parameter expected)
      (turnsOfGlobal runLine turns span parameter expected) := by
  intro s
  refine course_aside_bind (keeps_startGlobal parameter) fun (m, body) s₁ ↦ ?_
  -- only the end of the global command is noted behind its loop, if it succeeds or not
  let loop := globalFrom m expected (body.lines.forM runLine) (max span.first 1) span.last
  have hlines := takes_globalFrom (takes_each h body.lines) m expected (max span.first 1) span.last s₁
  have hend : Course (loop.run s₁).2 [] ((endingGlobal loop).run s₁).2 := .aside (.refl _)
  have hcourse := hlines.trans hend
  rw [List.append_nil] at hcourse
  exact hcourse

theorem turnsInside_of_not_global {name : CommandName} (h : name.isGlobal = false)
    (runLine : Text → Run Unit) (turns : Text → Scene → List Turn) (c : Command) (span : Span)
    (s : Scene) : turnsInside runLine turns name c span s = [] := by
  cases name with
  | global | notglobal => exact absurd h (by decide)
  | _ => rfl

/-- A global command takes the course of the turns inside it. -/
theorem takes_dispatch_global {runLine : Text → Run Unit} {turns : Text → Scene → List Turn}
    (h : ∀ line, Takes (runLine line) (turns line)) {name : CommandName}
    (hglobal : name.isGlobal = true) (c : Command) (span : Span) :
    Takes (dispatch runLine name c span) (turnsInside runLine turns name c span) := by
  cases name with
  | global => exact takes_global h span c.parameter (!c.bang)
  | notglobal => exact takes_global h span c.parameter false
  | _ => exact absurd hglobal Bool.false_ne_true

/-- Carrying a command out takes the course of the turns inside it and its own. -/
theorem course_carryOut {runLine : Text → Run Unit} {turns : Text → Scene → List Turn}
    (h : ∀ line, Takes (runLine line) (turns line)) (name : CommandName) (c : Command) (span : Span)
    (s : Scene) :
    let before := if name.walksHistory then s else s.opened
    Course s (turnsInside runLine turns name c span before
        ++ [⟨name, c, span, before, ((dispatch runLine name c span).run before).2⟩])
      ((carryOut runLine name c span).run s).2 := by
  intro before
  let t : Turn := ⟨name, c, span, before, ((dispatch runLine name c span).run before).2⟩
  have hrun : t.IsRun := ⟨runLine, rfl⟩
  cases hwalk : name.walksHistory with
  | true =>
    have hbefore : before = s := if_pos hwalk
    have hglobal := CommandName.isGlobal_of_walksHistory hwalk
    have hcarry : carryOut runLine name c span = dispatch runLine name c span := if_pos hwalk
    rw [turnsInside_of_not_global hglobal, List.nil_append, hcarry]
    have hcourse : Course t.before [t] t.after := .walk hwalk hrun
    dsimp only [t] at hcourse
    rwa [hbefore] at hcourse ⊢
  | false =>
    have hbefore : before = s.opened := if_neg (by rw [hwalk]; exact Bool.false_ne_true)
    have hcarry : carryOut runLine name c span = grouped (dispatch runLine name c span) :=
      if_neg (by rw [hwalk]; exact Bool.false_ne_true)
    have hend : ((carryOut runLine name c span).run s).2 = t.after.closed := by
      rw [hcarry, run_grouped]
      dsimp only [t]
      rw [hbefore]
    rw [hend]
    cases hglobal : name.isGlobal with
    | true => exact .global hbefore hglobal hrun (takes_dispatch_global h hglobal c span before)
    | false =>
      rw [turnsInside_of_not_global hglobal]
      exact .single hbefore hwalk hglobal hrun

/-- A command takes the course of the turns inside it and its own. -/
theorem takes_executeWith {runLine : Text → Run Unit} {turns : Text → Scene → List Turn}
    (h : ∀ line, Takes (runLine line) (turns line)) (c : Command) :
    Takes (executeWith runLine c) (turnsOfCommand runLine turns c) := by
  intro s
  refine course_aside_bind (keeps_approach c) fun approached s₁ ↦ ?_
  cases approached with
  | none => exact .aside (.refl _)
  | some target =>
    obtain ⟨name, span⟩ := target
    exact course_bind_aside (course_carryOut h name c span s₁) fun _ ↦ keeps_bookmark _

theorem takes_lineWith {execute : Command → Run Unit} {turns : Command → Scene → List Turn}
    (h : ∀ c, Takes (execute c) (turns c)) (line : Text) :
    Takes (lineWith execute line) (turnsOfLine execute turns line) := by
  refine takes_each (fun c s ↦ ?_) _
  cases c with
  | error e => exact .aside (.refl _)
  | ok c => exact h c s

theorem takes_innerLine (line : Text) : Takes (innerLine line) (turnsOfInnerLine line) :=
  takes_lineWith (takes_executeWith fun _ _ ↦ .aside (.refl _)) line

end Run

/-- A line takes the course of its turns. -/
theorem Scene.course_perform (s : Scene) (line : Text) :
    Course s (s.turnsOf line) (s.perform line).2 := by
  have hline := Run.takes_lineWith (Run.takes_executeWith Run.takes_innerLine) line s
  have hcourse := hline.trans (.aside (s.aside_perform line))
  rwa [List.append_nil] at hcourse

/-- Lines of commands take the course of their turns. -/
theorem Scene.course_performAll (s : Scene) (lines : List Text) :
    Course s (s.turns lines) (s.performAll lines) := by
  induction lines generalizing s with
  | nil => exact .aside (.refl _)
  | cons line lines ih => exact (s.course_perform line).trans (ih _)

end LineEditor
