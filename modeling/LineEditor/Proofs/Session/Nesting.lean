import LineEditor.Proofs.Session.Failing
import LineEditor.Proofs.Session.Scan

/-!
# Groups and global commands come to an end

A line of commands opens groups of edits, one for each command that is being carried out, and it may
start a global command, inside of which others are refused. It can fail at any point: when it is
split into commands, when an address is resolved, inside a command that a global command runs, or
because a question is dismissed. However it ends, as many groups are open as before, and a global
command is running only if one was running before: the scene is *balanced*.

Single commands do not touch any of this, so what has to be shown is that whoever opens a group
closes it, and that a global command that has been started ends. A global command that cannot be
started has not been noted, as noting it is the last thing that is done.
-/

namespace LineEditor

/-! ## Open groups -/

namespace Document

variable {d d' : Document} {p : Bounds × Document}

/-- The number of groups that are open, one inside the other. -/
def depth (d : Document) : Nat := d.group.elim 0 (·.inner + 1)

theorem depth_eq_zero_iff : d.depth = 0 ↔ d.group = none := by
  unfold depth
  cases d.group with
  | none => simp
  | some g => simp

theorem depth_congr (h : d'.group = d.group) : d'.depth = d.depth := by rw [depth, depth, h]

@[simp] theorem depth_openGroup (d : Document) : d.openGroup.depth = d.depth + 1 := by
  unfold openGroup depth
  cases d.group with
  | none => rfl
  | some g => rfl

@[simp] theorem depth_closeGroup (d : Document) : d.closeGroup.depth = d.depth - 1 := by
  rcases d with ⟨_, _, _, _, ⟨⟩ | ⟨⟨⟩ | _, _⟩⟩ <;> rfl

theorem depth_clearHistory (d : Document) : d.clearHistory.depth = d.depth := by
  unfold clearHistory depth
  cases d.group with
  | none => rfl
  | some g => rfl

theorem depth_replay (d : Document) (kind : EditKind) (e : Edit) :
    (d.replay kind e).2.depth = d.depth :=
  depth_congr ((group_select _ _).trans (d.mild_replace _ _ _ kind).waits.group)

theorem depth_of_undo? (h : d.undo? = some p) : p.2.depth = d.depth := by
  obtain ⟨⟨r, history⟩, -, rfl⟩ := Option.map_eq_some_iff.mp h
  exact depth_replay _ _ _

theorem depth_of_redo? (h : d.redo? = some p) : p.2.depth = d.depth := by
  obtain ⟨⟨r, history⟩, -, rfl⟩ := Option.map_eq_some_iff.mp h
  exact depth_replay _ _ _

/-- Outside of all groups, an edit is recorded at once. -/
theorem history_replace_of_depth (h : d.depth = 0) {start stop : Nat} {piece : Text}
    {kind : EditKind} {e : Edit} (he : (d.replace start stop piece kind).1 = some e) :
    (d.replace start stop piece kind).2.history = d.history.record kind e := by
  have hgroup : ¬ d.group.isSome := by
    rw [depth_eq_zero_iff.mp h]
    exact Bool.false_ne_true
  rw [replace_of_some he]
  exact if_neg hgroup

end Document

/-! ## Balance -/

/-- As many groups are open as before, and a global command is running if it was. -/
structure Scene.Balanced (s s' : Scene) : Prop where
  /-- The number of open groups is the same. -/
  depth : s'.document.depth = s.document.depth
  /-- A global command is running if it was. -/
  inGlobal : s'.session.inGlobal = s.session.inGlobal

namespace Scene.Balanced

variable {s s' s'' : Scene}

theorem refl (s : Scene) : s.Balanced s := ⟨rfl, rfl⟩

theorem trans (h : s.Balanced s') (h' : s'.Balanced s'') : s.Balanced s'' :=
  ⟨h'.depth.trans h.depth, h'.inGlobal.trans h.inGlobal⟩

end Scene.Balanced

instance : StepFrame Scene.Balanced :=
  ⟨fun h hglobal ↦ ⟨Document.depth_congr h.document.group, hglobal⟩, .trans⟩

instance : EditFrame Scene.Balanced := ⟨fun h ↦ ⟨Document.depth_congr h.mild.waits.group, rfl⟩⟩

namespace Run

open Scene (Balanced)

variable {runLine : Text → Run Unit}

/-- What is done to the document leaves the scene balanced if no group is opened or closed. -/
theorem balanced_modifyAt {f : Document → RangeId → Document}
    (h : ∀ d id, (f d id).depth = d.depth) : KeepsScene Balanced (modifyAt f) :=
  keeps_modifyAt fun s ↦ ⟨h s.document s.range, rfl⟩

theorem balanced_setStatus (status : SaveStatus) : KeepsScene Balanced (setStatus status) :=
  keeps_modifyDocument fun _ ↦ ⟨rfl, rfl⟩

theorem balanced_walk {step : Document → Option (Bounds × Document)}
    (h : ∀ d p, step d = some p → p.2.depth = d.depth) : KeepsScene Balanced (walk step) := by
  refine balanced_modifyAt fun d id ↦ ?_
  cases hstep : step d with
  | none => rfl
  | some p => exact h d p hstep

theorem balanced_edit (parameter : Text) (force : Bool) :
    KeepsScene Balanced (edit parameter force) := by
  refine keeps_bind (keeps_guardChanges _ _) fun _ ↦ keeps_bind (keeps_fileName _) fun file ↦
    keeps_bind (keeps_load _) fun content ↦ keeps_bind (keeps_modifyDocument fun s ↦ ?_) fun _ ↦
      keeps_moveToLine _
  let edited := (s.document.replace 0 s.document.length content .command).2
  have hedited : edited.depth = s.document.depth :=
    Document.depth_congr (s.document.mild_replace _ _ _ _).waits.group
  have hcleared : edited.clearHistory.depth = s.document.depth :=
    (Document.depth_clearHistory edited).trans hedited
  have hfile : ({ edited.clearHistory with status := .clean }.setFile file).group
      = edited.clearHistory.group := rfl
  exact ⟨(Document.depth_congr hfile).trans hcleared, rfl⟩

/-- The group that a command opens is closed, whether the command succeeds or not. -/
theorem balanced_grouped {body : Run Unit} (h : KeepsScene Balanced body) :
    KeepsScene Balanced (grouped body) := by
  intro s
  rw [run_grouped]
  have hbody := h s.opened
  have hopened : s.opened.document.depth = s.document.depth + 1 := Document.depth_openGroup _
  refine ⟨?_, hbody.inGlobal⟩
  calc (body.run s.opened).2.closed.document.depth
      = (body.run s.opened).2.document.depth - 1 := Document.depth_closeGroup _
    _ = s.document.depth := by rw [hbody.depth, hopened, Nat.add_sub_cancel]

/-! ## Global commands -/

/-- A global command that is refused has not been noted. -/
theorem balanced_startGlobal_of_error {parameter : Text} {e : Error} :
    FailsWith e Balanced (startGlobal parameter) := by
  refine failsWith_bind keeps_session fun _ ↦ failsWith_guard (keeps_refuse _) fun _ ↦ ?_
  extract_lets parameter'
  cases delimiter? parameter' with
  | none => exact failsWith_of_keeps (keeps_refuse _)
  | some c =>
    exact failsWith_bind (keeps_patternOrLast _) fun _ ↦ failsWith_bind keeps_options fun _ ↦
      failsWith_bind (keeps_orFail _) fun _ ↦ failsWith_of_completes
        (completes_bind (completes_modifySession _) fun _ ↦ completes_pure _)

/-- Starting a global command opens no group. -/
theorem depth_startGlobal (parameter : Text) (s : Scene) :
    ((startGlobal parameter).run s).2.document.depth = s.document.depth :=
  Document.depth_congr
    (keeps_startGlobal (P := Scene.On Document.Aside) parameter s).group

/-- A global command has ended behind it, whatever the commands do that it runs. -/
theorem balanced_global (h : ∀ line, KeepsScene Balanced (runLine line)) (span : Span)
    (parameter : Text) (expected : Bool) :
    KeepsScene Balanced (global runLine span parameter expected) := by
  intro s
  rw [global, run_bind]
  cases hinside : s.session.inGlobal with
  | true =>
    rw [run_startGlobal_inside hinside]
    exact .refl s
  | false =>
    have hdepth := depth_startGlobal parameter s
    cases hstart : (startGlobal parameter).run s with
    | mk result s₁ =>
      rw [hstart] at hdepth
      cases result with
      | error e => exact balanced_startGlobal_of_error s s₁ hstart
      | ok started =>
        have hlines := keeps_globalFrom (keeps_forM h started.2.lines) started.1 expected
          (max span.first 1) span.last s₁
        simp only
        rw [run_endingGlobal]
        exact ⟨hlines.depth.trans hdepth, hinside.symm⟩

/-! ## Lines of commands -/

theorem balanced_dispatch (h : ∀ line, KeepsScene Balanced (runLine line)) (name : CommandName)
    (c : Command) (span : Span) : KeepsScene Balanced (dispatch runLine name c span) := by
  cases name with
  | global | notglobal => exact balanced_global h _ _ _
  | undo => exact balanced_walk fun _ _ ↦ Document.depth_of_undo?
  | redo => exact balanced_walk fun _ _ ↦ Document.depth_of_redo?
  | edit => exact balanced_edit _ _
  | write | wq | xit => exact keeps_dispatch_write balanced_setStatus runLine c span rfl nofun
  | _ => exact keeps_dispatch runLine c span rfl rfl rfl

theorem balanced_executeWith (h : ∀ line, KeepsScene Balanced (runLine line)) (c : Command) :
    KeepsScene Balanced (executeWith runLine c) := by
  refine keeps_bind (keeps_approach c) fun approached ↦ ?_
  cases approached with
  | none => exact keeps_pure _
  | some target =>
    have hdispatch := balanced_dispatch h target.1 c target.2
    exact keeps_bind (keeps_ite hdispatch (balanced_grouped hdispatch)) fun _ ↦ keeps_bookmark _

theorem balanced_line (line : Text) : KeepsScene Balanced (Run.line line) :=
  keeps_lineWith (balanced_executeWith (keeps_lineWith
    (balanced_executeWith fun _ ↦ keeps_refuse _))) line

/-- Where no global command is running, one with a pattern of its own is accepted. -/
theorem exists_run_startGlobal {s : Scene} (hs : s.session.inGlobal = false)
    {parameter pattern rest : Text} {c : Char} {m : Matcher}
    (hc : delimiter? (Text.trimStart parameter) = some c)
    (hsections : Address.delimited c ((Text.trimStart parameter).drop 1) = (pattern, rest))
    (hpattern : pattern ≠ [])
    (hm : Document.matcher (SearchFlags.ofOptions s.document.options) pattern = .ok m) :
    ∃ s', (startGlobal parameter).run s = (.ok (m, globalBody rest), s') := by
  have hsession : session.run s = (.ok s.session, s) := rfl
  have hoptions : options.run s = (.ok s.document.options, s) := rfl
  have hmatcher : (orFail (Except.ok m : Except Error Matcher)).run s = (.ok m, s) := rfl
  have hchosen : (patternOrLast pattern).run s = (.ok pattern, s) := by
    rw [patternOrLast, if_pos hpattern]
    rfl
  rw [startGlobal, run_bind, hsession]
  simp only [hs, Bool.false_eq_true, if_false, hc, hsections, run_bind, hchosen, hoptions, hm,
    hmatcher]
  exact ⟨_, rfl⟩

end Run

namespace Scene

variable {s : Scene}

/-- A line of commands leaves the scene balanced, however it ends. -/
theorem balanced_perform (s : Scene) (line : Text) : s.Balanced (s.perform line).2 :=
  holds_perform_of_line (Run.balanced_line line s)

/-- So do lines of commands. -/
theorem balanced_performAll (s : Scene) (lines : List Text) : s.Balanced (s.performAll lines) := by
  induction lines generalizing s with
  | nil => exact .refl s
  | cons line lines ih => exact (s.balanced_perform line).trans (ih _)

/-- **However a line of commands ends, its groups and global commands end with it.** Where no global
command is running, none is running behind a line of commands, whether the line has been completed,
has failed at any point, or has been dismissed; and as many groups are open as before. So if there
are none, an edit that is made afterwards is recorded at once; and every global command is accepted
then, as long as its own parameter is in order. -/
theorem ended_perform (s : Scene) (line : Text) (hs : s.session.inGlobal = false) :
    let s' := (s.perform line).2
    s'.session.inGlobal = false ∧ s'.document.depth = s.document.depth ∧
      (s.document.depth = 0 → ∀ start stop piece kind e,
        (s'.document.replace start stop piece kind).1 = some e →
          (s'.document.replace start stop piece kind).2.history
            = s'.document.history.record kind e) ∧
      ∀ parameter c pattern rest m,
        Run.delimiter? (Text.trimStart parameter) = some c →
        Address.delimited c ((Text.trimStart parameter).drop 1) = (pattern, rest) →
        pattern ≠ [] →
        Document.matcher (SearchFlags.ofOptions s'.document.options) pattern = .ok m →
          ∃ s'', (Run.startGlobal parameter).run s' = (.ok (m, Run.globalBody rest), s'') := by
  intro s'
  have hbalanced : s.Balanced s' := s.balanced_perform line
  have hglobal : s'.session.inGlobal = false := hbalanced.inGlobal.trans hs
  refine ⟨hglobal, hbalanced.depth, ?_, ?_⟩
  · intro hdepth start stop piece kind e he
    exact Document.history_replace_of_depth (hbalanced.depth.trans hdepth) he
  · intro parameter c pattern rest m hc hsections hpattern hm
    exact Run.exists_run_startGlobal hglobal hc hsections hpattern hm

/-- A global command is broken off on the second line that it comes to, when it has already deleted
the first one. -/
theorem ended_perform_unknownCommand :
    let s : Scene := { document := .ofSurface (.ofField "a\nb\na".toList) {}, range := 0 }
    let r := s.perform "g/./s/a/c/|1,2zap".toList
    r.1 = .failed (.unknownCommand "zap".toList) ∧ r.2.document.text = "c\nb\na".toList ∧
      r.2.session.inGlobal = false ∧ r.2.document.depth = 0 := by
  intro s r
  obtain ⟨hglobal, hdepth, -⟩ := s.ended_perform "g/./s/a/c/|1,2zap".toList rfl
  refine ⟨by decide +kernel, by decide +kernel, hglobal, ?_⟩
  rw [hdepth]
  rfl

end Scene

end LineEditor
