import LineEditor.Proofs.Session.Observers

/-!
# The scan of a global command

A global command goes from line to line and runs commands on those that match. These commands may do
anything to the text, and the scan only sees how many lines there are afterwards: it moves its place
and its end on by the lines added, or back by the lines removed. So it may come back to lines that
it has been at, and its end may run away from it. What does get less with every round, whatever the
commands do, are the lines still to come.

`Scan` tells a scan round by round. Nothing in it bounds the rounds, so that a scan has to be shown
to have an end. With it, running lines of commands has an end too: a global command may not run
another one, and so a line never runs lines more than two levels deep.
-/

namespace LineEditor

/-- A round of a scan, in which a line is looked at. -/
structure Round where
  /-- The line. -/
  line : Nat
  /-- The last line to look at, as far as is known by now. -/
  last : Nat
  /-- The scene in which the line is looked at. -/
  scene : Scene
  /-- The commands are run on the line. -/
  hit : Bool

namespace Round

/-- The text of the line. -/
def tested (r : Round) : Text := r.scene.document.text.line r.line

/-- The number of lines still to come, this one included. -/
def toCome (r : Round) : Nat := r.last + 1 - r.line

end Round

open Run in
/-- The rounds of a scan from line `line` to `last`, and how it ends. -/
inductive Scan (m : Matcher) (expected : Bool) (body : Run Unit) :
    Nat → Nat → Scene → List Round → Except Error Unit × Scene → Prop
  /-- No line is left. -/
  | done {line last : Nat} {s : Scene} (h : last < line) :
    Scan m expected body line last s [] (.ok (), s)
  /-- The line does not match. -/
  | pass {line last : Nat} {s : Scene} {rounds : List Round} {r : Except Error Unit × Scene}
    (h : line ≤ last) (hline : m.occursIn (s.document.text.line line) ≠ expected)
    (hrest : Scan m expected body (line + 1) last s rounds r) :
    Scan m expected body line last s (⟨line, last, s, false⟩ :: rounds) r
  /-- The line matches, and the commands succeed. -/
  | hit {line last : Nat} {s s' : Scene} {rounds : List Round} {r : Except Error Unit × Scene}
    {added : Int} (h : line ≤ last) (hline : m.occursIn (s.document.text.line line) = expected)
    (hbody : (moveToLine line >>= fun _ ↦ body).run s = (.ok (), s'))
    (hadded : added = s'.document.text.lineCount - s.document.text.lineCount)
    (hrest : Scan m expected body (linesToCome line last added).1 (linesToCome line last added).2
      s' rounds r) :
    Scan m expected body line last s (⟨line, last, s, true⟩ :: rounds) r
  /-- The line matches, and the commands fail. -/
  | fail {line last : Nat} {s s' : Scene} {e : Error} (h : line ≤ last)
    (hline : m.occursIn (s.document.text.line line) = expected)
    (hbody : (moveToLine line >>= fun _ ↦ body).run s = (.error e, s')) :
    Scan m expected body line last s [⟨line, last, s, true⟩] (.error e, s')

namespace Scan

variable {m : Matcher} {expected : Bool} {body : Run Unit} {line last : Nat} {s : Scene}
  {rounds : List Round} {r : Except Error Unit × Scene}

/-- Every scan has an end. -/
theorem exists_rounds (m : Matcher) (expected : Bool) (body : Run Unit) (line last : Nat)
    (s : Scene) : ∃ rounds r, Scan m expected body line last s rounds r := by
  -- there are fewer lines to come after each round
  induction hn : last + 1 - line using Nat.strongRecOn generalizing line last s with
  | ind n ih =>
    by_cases hle : line ≤ last
    · by_cases hline : m.occursIn (s.document.text.line line) = expected
      · cases hbody : (Run.moveToLine line >>= fun _ ↦ body).run s with
        | mk result s' =>
          cases result with
          | error e => exact ⟨_, _, .fail hle hline hbody⟩
          | ok _ =>
            obtain ⟨rounds, r, hrest⟩ := ih _ (hn ▸ Run.linesToCome_lt hle _) _ _ s' rfl
            exact ⟨_, r, .hit hle hline hbody rfl hrest⟩
      · obtain ⟨rounds, r, hrest⟩ := ih _ (by omega) (line + 1) last s rfl
        exact ⟨_, r, .pass hle hline hrest⟩
    · exact ⟨[], _, .done (by omega)⟩

/-- The loop of a global command ends as its scan does. -/
theorem run_globalFrom (h : Scan m expected body line last s rounds r) :
    (Run.globalFrom m expected body line last).run s = r := by
  induction h with
  | done h =>
    rw [Run.globalFrom, dif_neg (Nat.not_le_of_lt h)]
    rfl
  | @pass line last s rounds r h hline _ ih =>
    rw [Run.globalFrom, dif_pos h]
    change (if m.occursIn (s.document.text.line line) = expected then _
      else _ : Run Unit).run s = r
    rw [if_neg hline]
    exact ih
  | @hit line last s s' rounds r added h hline hbody hadded _ ih =>
    rw [Run.globalFrom, dif_pos h]
    change (if m.occursIn (s.document.text.line line) = expected then _
      else _ : Run Unit).run s = r
    rw [if_pos hline, ← bind_assoc, Run.run_bind, hbody]
    rw [hadded] at ih
    exact ih
  | @fail line last s s' e h hline hbody =>
    rw [Run.globalFrom, dif_pos h]
    change (if m.occursIn (s.document.text.line line) = expected then _
      else _ : Run Unit).run s = _
    rw [if_pos hline, ← bind_assoc, Run.run_bind, hbody]

/-- Each round has a line to come, and no more than there are from the start. -/
theorem toCome_le (h : Scan m expected body line last s rounds r) :
    ∀ round ∈ rounds, 1 ≤ round.toCome ∧ round.toCome ≤ last + 1 - line := by
  have hfirst : ∀ {line last : Nat} {s : Scene} {hit : Bool}, line ≤ last →
      1 ≤ Round.toCome ⟨line, last, s, hit⟩ ∧
        Round.toCome ⟨line, last, s, hit⟩ ≤ last + 1 - line := by
    intro line last s hit hle
    simp only [Round.toCome]
    omega
  induction h with
  | done => exact fun _ hround ↦ absurd hround List.not_mem_nil
  | @pass line last s _ _ hle _ _ ih =>
    rw [List.forall_mem_cons]
    refine ⟨hfirst hle, fun round hround ↦ ⟨(ih round hround).1, ?_⟩⟩
    exact Nat.le_trans (ih round hround).2 (by omega)
  | @hit line last s _ _ _ added hle _ _ _ _ ih =>
    rw [List.forall_mem_cons]
    refine ⟨hfirst hle, fun round hround ↦ ⟨(ih round hround).1, ?_⟩⟩
    exact Nat.le_of_lt (Nat.lt_of_le_of_lt (ih round hround).2 (Run.linesToCome_lt hle added))
  | fail hle _ _ =>
    rw [List.forall_mem_cons]
    exact ⟨hfirst hle, fun _ hround ↦ absurd hround List.not_mem_nil⟩

/-- The lines still to come get less with every round. -/
theorem toCome_decreases (h : Scan m expected body line last s rounds r) :
    (rounds.map Round.toCome).Pairwise (· > ·) := by
  induction h with
  | done => exact .nil
  | @pass line last s rounds r hle _ hrest ih =>
    rw [List.map_cons, List.pairwise_cons, List.forall_mem_map]
    refine ⟨fun round hround ↦ ?_, ih⟩
    have hlater := (hrest.toCome_le round hround).2
    simp only [Round.toCome] at hlater ⊢
    omega
  | @hit line last s _ rounds r added hle _ _ _ hrest ih =>
    rw [List.map_cons, List.pairwise_cons, List.forall_mem_map]
    refine ⟨fun round hround ↦ ?_, ih⟩
    exact Nat.lt_of_le_of_lt (hrest.toCome_le round hround).2 (Run.linesToCome_lt hle added)
  | fail => exact List.pairwise_singleton _ _

/-- There are no more rounds than lines to come from the start. -/
theorem length_le (h : Scan m expected body line last s rounds r) :
    rounds.length ≤ last + 1 - line := by
  induction h with
  | done => exact Nat.zero_le _
  | pass hle _ _ ih =>
    rw [List.length_cons]
    omega
  | @hit _ _ _ _ _ _ added hle _ _ _ _ ih =>
    exact Nat.lt_of_le_of_lt ih (Run.linesToCome_lt hle added)
  | fail hle _ _ =>
    rw [List.length_singleton]
    omega

end Scan

/-! ## Inside a global command -/

/-- If a global command is running, it goes on running. -/
def Scene.StaysGlobal (s s' : Scene) : Prop :=
  s.session.inGlobal = true → s'.session.inGlobal = true

instance : StepFrame Scene.StaysGlobal := ⟨fun _ h hs ↦ h ▸ hs, fun h h' hs ↦ h' (h hs)⟩

instance : EditFrame Scene.StaysGlobal := ⟨fun _ hs ↦ hs⟩

namespace Run

variable {α β : Type} {m m' : Run α}

/-- The runs are the same inside a global command, and do not end it. -/
def SameInside (m m' : Run α) : Prop :=
  ∀ s : Scene, s.session.inGlobal = true →
    m.run s = m'.run s ∧ (m.run s).2.session.inGlobal = true

theorem SameInside.of_keeps (h : KeepsScene Scene.StaysGlobal m) : SameInside m m :=
  fun s hs ↦ ⟨rfl, h s hs⟩

theorem SameInside.bind {f f' : α → Run β} (hm : SameInside m m')
    (hf : ∀ a, SameInside (f a) (f' a)) : SameInside (m >>= f) (m' >>= f') := by
  intro s hs
  obtain ⟨hsame, hglobal⟩ := hm s hs
  rw [run_bind, run_bind, ← hsame]
  generalize m.run s = r at hglobal
  rcases r with ⟨e | a, s'⟩
  · exact ⟨rfl, hglobal⟩
  · exact hf a s' hglobal

theorem SameInside.forM {f f' : α → Run Unit} (h : ∀ a, SameInside (f a) (f' a)) (l : List α) :
    SameInside (l.forM f) (l.forM f') := by
  induction l with
  | nil => exact .of_keeps (keeps_pure _)
  | cons a l ih => exact (h a).bind fun _ ↦ ih

/-- A scan is the same with commands that are the same inside a global command. -/
theorem SameInside.scan {body body' : Run Unit} {matcher : Matcher} {expected : Bool}
    {line last : Nat} {s : Scene} {rounds : List Round} {r : Except Error Unit × Scene}
    (h : SameInside body body') (hscan : Scan matcher expected body line last s rounds r)
    (hs : s.session.inGlobal = true) :
    Scan matcher expected body' line last s rounds r := by
  have hbodies : ∀ line, SameInside (moveToLine line >>= fun _ ↦ body)
      (moveToLine line >>= fun _ ↦ body') :=
    fun line ↦ .bind (.of_keeps (keeps_moveToLine line)) fun _ ↦ h
  induction hscan with
  | done hlast => exact .done hlast
  | pass hle hline _ ih => exact .pass hle hline (ih hs)
  | @hit line last s s' _ _ _ hle hline hbody hadded _ ih =>
    obtain ⟨hsame, hglobal⟩ := hbodies line s hs
    rw [hbody] at hsame hglobal
    exact .hit hle hline hsame.symm hadded (ih hglobal)
  | @fail line last s s' e hle hline hbody =>
    obtain ⟨hsame, -⟩ := hbodies line s hs
    rw [hbody] at hsame
    exact .fail hle hline hsame.symm

/-- A global command is refused inside another one. -/
theorem run_startGlobal_inside {s : Scene} (hs : s.session.inGlobal = true) (parameter : Text) :
    (startGlobal parameter).run s = (.error (.parse .nestedGlobal), s) := by
  rw [startGlobal, run_bind]
  change (if s.session.inGlobal then _ else _ : Run _).run s = _
  rw [if_pos hs]
  rfl

theorem sameInside_global (runLine runLine' : Text → Run Unit) (span : Span) (parameter : Text)
    (expected : Bool) : SameInside (global runLine span parameter expected)
      (global runLine' span parameter expected) := by
  intro s hs
  rw [global, global, run_bind, run_bind, run_startGlobal_inside hs]
  exact ⟨rfl, hs⟩

theorem staysGlobal_modifyDocument (f : Document → Document) :
    KeepsScene Scene.StaysGlobal (modifyDocument f) := keeps_modifyDocument fun _ hs ↦ hs

theorem staysGlobal_walk (step : Document → Option (Bounds × Document)) :
    KeepsScene Scene.StaysGlobal (walk step) := keeps_modifyAt fun _ hs ↦ hs

theorem staysGlobal_edit (parameter : Text) (force : Bool) :
    KeepsScene Scene.StaysGlobal (edit parameter force) :=
  keeps_bind (keeps_guardChanges _ _) fun _ ↦ keeps_bind (keeps_fileName _) fun _ ↦
    keeps_bind (keeps_load _) fun _ ↦ keeps_bind (staysGlobal_modifyDocument _) fun _ ↦
      keeps_moveToLine _

/-- Inside a global command, no command runs lines. -/
theorem sameInside_dispatch (runLine runLine' : Text → Run Unit) (name : CommandName) (c : Command)
    (span : Span) : SameInside (dispatch runLine name c span) (dispatch runLine' name c span) := by
  cases name with
  | global | notglobal => exact sameInside_global runLine runLine' _ _ _
  | undo | redo => exact .of_keeps (staysGlobal_walk _)
  | edit => exact .of_keeps (staysGlobal_edit _ _)
  | write | wq | xit =>
    exact .of_keeps (keeps_dispatch_write (fun _ ↦ staysGlobal_modifyDocument _) runLine c span rfl
      nofun)
  | _ => exact .of_keeps (keeps_dispatch runLine c span rfl rfl rfl)

theorem sameInside_carryOut (runLine runLine' : Text → Run Unit) (name : CommandName) (c : Command)
    (span : Span) : SameInside (carryOut runLine name c span) (carryOut runLine' name c span) := by
  have hdispatch := sameInside_dispatch runLine runLine' name c span
  unfold carryOut
  extract_lets body body'
  split
  · exact hdispatch
  · intro s hs
    obtain ⟨hsame, hglobal⟩ := hdispatch s.opened hs
    rw [run_grouped, run_grouped]
    exact ⟨by rw [hsame], hglobal⟩

theorem sameInside_executeWith (runLine runLine' : Text → Run Unit) (c : Command) :
    SameInside (executeWith runLine c) (executeWith runLine' c) := by
  refine .bind (.of_keeps (keeps_approach c)) fun approached ↦ ?_
  cases approached with
  | none => exact .of_keeps (keeps_pure _)
  | some target =>
    exact .bind (sameInside_carryOut runLine runLine' target.1 c target.2) fun _ ↦
      .of_keeps (keeps_bookmark _)

/-- Inside a global command, lines of commands run no lines. -/
theorem sameInside_lineWith (runLine runLine' : Text → Run Unit) (line : Text) :
    SameInside (lineWith (executeWith runLine) line) (lineWith (executeWith runLine') line) :=
  .forM (fun c ↦ .bind (.of_keeps (keeps_orFail c)) (sameInside_executeWith runLine runLine')) _

/-! ## Levels of lines -/

/-- Whenever a run succeeds, it ends in such a scene. -/
def EndsIn (p : Scene → Prop) (m : Run α) : Prop := ∀ s a s', m.run s = (.ok a, s') → p s'

theorem endsIn_bind {p : Scene → Prop} {f : α → Run β} (hf : ∀ a, EndsIn p (f a)) :
    EndsIn p (m >>= f) := by
  intro s b s' h
  rw [run_bind] at h
  generalize m.run s = r at h
  rcases r with ⟨e | a, s₁⟩
  · exact nomatch h
  · exact hf a s₁ b s' h

theorem endsIn_refuse (p : Scene → Prop) (e : ParseError) : EndsIn p (refuse e : Run α) :=
  fun _ _ _ h ↦ nomatch h

/-- Once it has been started, a global command is running. -/
theorem endsIn_startGlobal (parameter : Text) :
    EndsIn (·.session.inGlobal = true) (startGlobal parameter) := by
  refine endsIn_bind fun _ ↦ ?_
  extract_lets parameter' start
  have hstart : ∀ u, EndsIn (·.session.inGlobal = true) (start u) := by
    intro u
    dsimp only [start]
    cases delimiter? parameter' with
    | none => exact endsIn_refuse _ _
    | some c =>
      refine endsIn_bind fun _ ↦ endsIn_bind fun _ ↦ endsIn_bind fun _ ↦ ?_
      rintro s a s' h
      exact (Prod.mk.inj h).2 ▸ rfl
  split
  · exact endsIn_bind hstart
  · exact hstart ()

/-- The end of a global command is noted. -/
theorem run_endingGlobal (body : Run Unit) (s : Scene) :
    (endingGlobal body).run s = ((body.run s).1,
      { (body.run s).2 with session := { (body.run s).2.session with inGlobal := false } }) := rfl

/-- What a global command does depends on what lines do inside it only. -/
theorem global_congr {runLine runLine' : Text → Run Unit}
    (h : ∀ line, SameInside (runLine line) (runLine' line)) (span : Span) (parameter : Text)
    (expected : Bool) :
    global runLine span parameter expected = global runLine' span parameter expected := by
  funext s
  change (global _ _ _ _).run s = (global _ _ _ _).run s
  rw [global, global, run_bind, run_bind]
  cases hstart : (startGlobal parameter).run s with
  | mk result s₁ =>
    cases result with
    | error e => rfl
    | ok started =>
      obtain ⟨rounds, r, hscan⟩ := Scan.exists_rounds started.1 expected
        (started.2.lines.forM runLine) (max span.first 1) span.last s₁
      have hscan' := SameInside.scan (.forM h started.2.lines) hscan
        (endsIn_startGlobal parameter s started s₁ hstart)
      simp only
      rw [run_endingGlobal, run_endingGlobal, hscan.run_globalFrom, hscan'.run_globalFrom]

theorem executeWith_congr {runLine runLine' : Text → Run Unit}
    (h : ∀ line, SameInside (runLine line) (runLine' line)) :
    executeWith runLine = executeWith runLine' := by
  have hdispatch : dispatch runLine = dispatch runLine' := by
    funext name c span
    cases name with
    | global | notglobal => exact global_congr h _ _ _
    | _ => rfl
  funext c
  simp only [executeWith, carryOut, hdispatch]

/-- Lines run two levels deep at most: what is done with the lines of a third level does not matter,
since there are none. -/
theorem line_eq_lineWith (runLine : Text → Run Unit) :
    line = lineWith (executeWith (lineWith (executeWith runLine))) := by
  have h := executeWith_congr (sameInside_lineWith (fun _ ↦ refuse .nestedGlobal) runLine)
  funext l
  exact congrArg (lineWith · l) h

/-- **Global commands come to an end, and so do lines of commands.** A global command that starts
scans the lines addressed, from line 1 on, with a finite number of rounds: in each there are fewer
lines to come than in those before, whatever the commands do to the text, so that they are run on no
more lines than there are at first. As a global command is refused inside another one, how to run a
line is told by two levels of lines, and running a line is the only thing that solves the equation
by which a line runs commands that run lines. -/
theorem scan_global_and_line_eq :
    (∀ (runLine : Text → Run Unit) (span : Span) (parameter : Text) (expected : Bool) (s : Scene),
      match (startGlobal parameter).run s with
      | (.error e, s₁) => (global runLine span parameter expected).run s = (.error e, s₁)
      | (.ok (m, body), s₁) => ∃ rounds r,
        Scan m expected (body.lines.forM runLine) (max span.first 1) span.last s₁ rounds r ∧
          (global runLine span parameter expected).run s
            = (r.1, { r.2 with session := { r.2.session with inGlobal := false } }) ∧
          (rounds.map Round.toCome).Pairwise (· > ·) ∧
          (rounds.filter Round.hit).length ≤ span.last + 1 - max span.first 1) ∧
      (∀ runLine, line = lineWith (executeWith (lineWith (executeWith runLine)))) ∧
      ∀ runLine, runLine = lineWith (executeWith runLine) ↔ runLine = line := by
  refine ⟨fun runLine span parameter expected s ↦ ?_, line_eq_lineWith, fun runLine ↦ ?_⟩
  · rw [global, run_bind]
    cases (startGlobal parameter).run s with
    | mk result s₁ =>
      cases result with
      | error e => rfl
      | ok started =>
        obtain ⟨rounds, r, hscan⟩ := Scan.exists_rounds started.1 expected
          (started.2.lines.forM runLine) (max span.first 1) span.last s₁
        refine ⟨rounds, r, hscan, ?_, hscan.toCome_decreases, ?_⟩
        · simp only
          rw [run_endingGlobal, hscan.run_globalFrom]
        · exact Nat.le_trans (List.length_filter_le _ _) hscan.length_le
  · constructor
    · intro h
      rw [h, h]
      exact (line_eq_lineWith runLine).symm
    · rintro rfl
      have hinner : ∀ l, SameInside (innerLine l) (line l) :=
        sameInside_lineWith (fun _ ↦ refuse .nestedGlobal) innerLine
      exact congrArg lineWith (executeWith_congr hinner)

end Run

end LineEditor
