import LineEditor.Proofs.Document.LineEdits
import LineEditor.Proofs.Session.Turns

/-!
# Commands that edit lines

What the commands that delete, insert, change and put back lines make of the text, as an operation
on its list of lines. Each runs as a step of the history and sets marks around it, which leaves the
text alone. `Run.LeadsTo` says that a run succeeds and what the text is then; in particular none of
these commands can fail where it is stated.
-/

namespace LineEditor

open Text (closed opened unlines separator IsLine)

/-! ## What leaves the text alone -/

/-- The surface and the options are left alone. -/
structure Document.Stays (d d' : Document) : Prop where
  /-- The surface is the same. -/
  surface : d'.surface = d.surface
  /-- The options are the same. -/
  options : d'.options = d.options

namespace Document

variable {d d' d'' : Document} {u v : Text}

theorem Stays.refl (d : Document) : d.Stays d := ⟨rfl, rfl⟩

theorem Stays.trans (h : d.Stays d') (h' : d'.Stays d'') : d.Stays d'' :=
  ⟨h'.surface.trans h.surface, h'.options.trans h.options⟩

theorem Stays.text (h : d.Stays d') : d'.text = d.text := congrArg Surface.text h.surface

theorem stays_openGroup (d : Document) : d.Stays d.openGroup := by
  unfold openGroup
  split <;> exact ⟨rfl, rfl⟩

theorem stays_closeGroup (d : Document) : d.Stays d.closeGroup := by
  unfold closeGroup
  split <;> exact ⟨rfl, rfl⟩

theorem Becomes.stays (h : d.Becomes u d') (h' : d'.Stays d'') : d.Becomes u d'' :=
  h.trans ⟨h'.text.trans h.text, h'.surface ▸ h.reliable, h'.options⟩

theorem Stays.left (h : d.Stays d') (h' : d'.Becomes u d'') : d.Becomes u d'' :=
  ⟨h'.text, h'.reliable, h'.options.trans h.options⟩

end Document

theorem Scene.stays_opened (s : Scene) : s.document.Stays s.opened.document :=
  s.document.stays_openGroup.trans ⟨rfl, rfl⟩

theorem Scene.stays_closed (s : Scene) : s.document.Stays s.closed.document :=
  s.document.stays_closeGroup.trans ⟨rfl, rfl⟩

theorem Scene.stays_withDocument (s : Scene) (d : Document) :
    d.Stays (s.withDocument d).document := ⟨rfl, rfl⟩

/-- The scene in which a command is carried out on lines that are addressed: the range has been put
on them, and a mark is where it was. -/
structure Scene.Approached (s s' : Scene) : Prop where
  /-- The document has the mark, and its range has been moved. -/
  document : (s.document.bookmark s.range previousMark).MovesOnly s.range s'.document
  /-- The range is the same one. -/
  range : s'.range = s.range
  /-- The session is the same. -/
  session : s'.session = s.session
  /-- The host is the same. -/
  host : s'.host = s.host

theorem Document.MovesOnly.stays {d d' : Document} {id : RangeId} (h : d.MovesOnly id d') :
    d.Stays d' := ⟨h.surface, h.options⟩

theorem Scene.Approached.stays {s s' : Scene} (h : s.Approached s') :
    s.document.Stays s'.document :=
  ⟨h.document.surface, h.document.options⟩

namespace Run

variable {α : Type} {m : Run α} {s s' : Scene} {u v : Text}

/-- The run succeeds, and the text becomes `u`. -/
def LeadsTo (m : Run Unit) (s : Scene) (u : Text) : Prop :=
  ∃ s', m.run s = (.ok (), s') ∧ s.document.Becomes u s'.document

/-- What a run comes to first may be looked at before. -/
theorem leadsTo_of_run {a : α} {f : α → Run Unit} (hm : m.run s = (.ok a, s'))
    (hs : s.document.Stays s'.document) (h : (f a).LeadsTo s' u) : (m >>= f).LeadsTo s u := by
  obtain ⟨s'', hrun, hbecomes⟩ := h
  refine ⟨s'', ?_, hs.left hbecomes⟩
  rw [run_bind, hm]
  exact hrun

theorem leadsTo_modifyAt {f : Document → RangeId → Document}
    (h : s.document.Becomes u (f s.document s.range)) : (modifyAt f).LeadsTo s u :=
  ⟨s.withDocument (f s.document s.range), rfl, h.stays ⟨rfl, rfl⟩⟩

theorem stays_bookmark (name : Text) (s : Scene) :
    ∃ s', (bookmark name).run s = (.ok (), s') ∧ s.document.Stays s'.document :=
  ⟨_, rfl, rfl, rfl⟩

/-! ## Single commands -/

variable {xs ys zs : List Text} {l body : Text}

/-- The indentation asked for next to a line. -/
def indentNextTo (d : Document) (l : Text) (flip : Bool) : Text :=
  if d.options.autoindent ≠ flip then l.indentation else []

theorem run_indentLike (h : s.document.text.lines = xs ++ l :: zs) (flip : Bool) :
    (indentLike (xs.length + 1) flip).run s = (.ok (indentNextTo s.document l flip), s) := by
  have hline := Text.line_of_lines_eq h
  unfold indentLike indentNextTo
  change (if 0 < xs.length + 1 ∧ s.document.options.autoindent ≠ flip then _
    else _ : Run Text).run s = _
  by_cases hflip : s.document.options.autoindent ≠ flip
  · rw [if_pos ⟨Nat.succ_pos _, hflip⟩, if_pos hflip, ← hline]
    rfl
  · rw [if_neg fun h ↦ hflip h.2, if_neg hflip]
    rfl

/-- Lines are inserted behind a line that is counted. -/
theorem leadsTo_insertBehind (hs : s.document.surface.IsReliable) (ht : s.document.text ≠ [])
    (h : s.document.text.lines = xs ++ ys) (hcount : xs.length ≤ s.document.text.lineCount)
    {before behind : List Text} (hline : s.document.text.lines = before ++ l :: behind)
    (hbody : '\r' ∉ body) (flip : Bool) :
    (insertBehind xs.length (before.length + 1) body flip).LeadsTo s
      (unlines (xs ++ body.lines.map (Insertion.indentLine (indentNextTo s.document l flip))
        ++ ys)) :=
  leadsTo_of_run (run_indentLike hline flip) (.refl _)
    (leadsTo_modifyAt (Document.becomes_insertLines_of_not_mem hs ht h hcount hbody s.range _))

/-- The session with a text put away without a name. -/
def stored (s : Scene) (t : Text) : Scene :=
  { s with session := { s.session with registers := { s.session.registers with
      unnamed := (t :: s.session.registers.unnamed).take Registers.depth } } }

theorem aside_stored (s : Scene) (t : Text) : s.Aside (stored s t) :=
  .of_eq rfl rfl rfl (.refl s.host)

theorem run_store (s : Scene) (t : Text) : (store none t).run s = (.ok (), stored s t) := rfl

/-- A line is changed. -/
theorem leadsTo_change (hs : s.document.surface.IsReliable)
    (h : s.document.text.lines = xs ++ l :: zs) (hbody : '\r' ∉ body) (flip : Bool) :
    (change ⟨xs.length + 1, xs.length + 1⟩ body flip).LeadsTo s
      (unlines (xs ++ body.lines.map (Insertion.indentLine (indentNextTo s.document l flip))
        ++ zs)) := by
  have htext : text.run s = (.ok s.document.text, s) := rfl
  simp only [change, Nat.max_eq_left (Nat.le_add_left 1 xs.length), Nat.max_self]
  have hcut : s.document.text.lines = xs ++ [l] ++ zs := by rw [h, List.append_assoc]; rfl
  have hbecomes := Document.becomes_changeLines hs hcut (List.cons_ne_nil l []) s.range body
    (indentNextTo s.document l flip)
  rw [Insertion.written_of_not_mem hbody] at hbecomes
  refine leadsTo_of_run htext (.refl _) (leadsTo_of_run (run_store s _) (.refl _) ?_)
  exact leadsTo_of_run (run_indentLike (s := stored s _) h flip) (.refl _)
    (leadsTo_modifyAt hbecomes)

/-- Lines that can be stored are put away with a separator behind them, and deleted if asked for. -/
theorem run_deleteOrYank_of_store {span lines : Span} {parameter : Text} {register : Option Char}
    {count : Option Nat} {registers : Registers} (remove : Bool)
    (hparameter : (registerAndCount parameter).run s = (.ok (register, count), s))
    (hlines : span.counted count s.document.text.lineCount = lines)
    (hstore : s.session.registers.store? register
      (s.document.text.linesText lines.first lines.last ++ [separator]) = some registers) :
    let d := if remove then s.document.deleteLines lines.first lines.last else s.document
    ∃ s', (deleteOrYank span parameter remove).run s = (.ok (), s') ∧
      d.Aside s'.document ∧ d.MovesOnly s.range s'.document ∧
      s'.session.registers = registers ∧ s'.range = s.range := by
  have htext : text.run s = (.ok s.document.text, s) := rfl
  have hsession : session.run s = (.ok s.session, s) := rfl
  rw [deleteOrYank, run_bind, hparameter]
  simp only
  rw [run_bind, htext]
  simp only [hlines]
  rw [run_bind, store, run_bind, hsession]
  simp only [hstore]
  have hmoves (d : Document) (b : Bounds) :
      d.MovesOnly s.range { d.moveTo s.range b with notices := [] } :=
    (Document.MovesOnly.moveTo d s.range b).trans (.told _ s.range)
  have haside (d : Document) (b : Bounds) : d.Aside { d.moveTo s.range b with notices := [] } :=
    (Document.Aside.moveTo d s.range b).trans (.told _)
  cases remove with
  | true =>
    exact ⟨_, rfl, (Document.Aside.told _).trans (haside _ _),
      (Document.MovesOnly.told _ s.range).trans (hmoves _ _), rfl, rfl⟩
  | false => exact ⟨_, rfl, haside _ _, hmoves _ _, rfl, rfl⟩

/-- Without a parameter they are put away without a name. -/
theorem run_deleteOrYank {first last : Nat} (hfirst : 1 ≤ first) (hlast : 1 ≤ last) (remove : Bool)
    (s : Scene) :
    ∃ s', (deleteOrYank ⟨first, last⟩ [] remove).run s = (.ok (), s') ∧
      (if remove then s.document.deleteLines first last else s.document).MovesOnly s.range
        s'.document ∧
      s'.session.registers.get? none
        = some (s.document.text.linesText first last ++ [separator]) ∧ s'.range = s.range := by
  have hcounted : Span.counted ⟨first, last⟩ none s.document.text.lineCount = ⟨first, last⟩ := by
    rw [Span.counted, Nat.max_eq_left hfirst, Nat.max_eq_left hlast]
  have hparameter : (registerAndCount []).run s = (.ok (none, none), s) := rfl
  obtain ⟨s', hrun, -, hmoves, hregisters, hrange⟩ :=
    run_deleteOrYank_of_store remove hparameter hcounted rfl
  exact ⟨s', hrun, hmoves, hregisters ▸ rfl, hrange⟩

theorem leadsTo_delete (hs : s.document.surface.IsReliable)
    (h : s.document.text.lines = xs ++ ys ++ zs) (hys : ys ≠ []) :
    (deleteOrYank ⟨xs.length + 1, xs.length + ys.length⟩ [] true).LeadsTo s
      (unlines (xs ++ zs)) := by
  have hlast : 1 ≤ xs.length + ys.length :=
    Nat.le_trans (List.length_pos_iff.mpr hys) (Nat.le_add_left _ _)
  obtain ⟨s', hrun, hmoves, -⟩ := run_deleteOrYank (Nat.le_add_left 1 xs.length) hlast true s
  exact ⟨s', hrun, (Document.becomes_deleteLines hs h hys).stays hmoves.stays⟩

/-- The text of the unnamed register is put in without the separator at its end. -/
theorem run_put {t : Text} (h : s.session.registers.get? none = some (t ++ [separator]))
    (span : Span) (before : Bool) :
    (put span [] before).run s = (.ok (), s.withDocument (s.document.insertLines s.range
      (if before then span.first - 1 else span.last) t [])) := by
  have hregister : (registerAndCount []).run s = (.ok (none, none), s) := rfl
  have hdrop : ((t ++ [separator]).dropFinal? separator).getD (t ++ [separator]) = t := by
    simp [Text.dropFinal?]
  have htrim : Text.trim [] = [] := rfl
  have hsession : session.run s = (.ok s.session, s) := rfl
  rw [put]
  simp only [htrim]
  rw [run_bind, hregister]
  simp only
  rw [run_bind]
  change (session >>= _ : Run Unit).run s = _
  rw [run_bind, hsession]
  simp only [h, hdrop]
  rfl

end Run

/-! ## Whole commands -/

namespace Command

/-- The command deletes the line that the range is on, or puts lines behind it, in front of it or in
its place. -/
def IsLineEdit (c : Command) : Prop :=
  c.addresses = [] ∧
    (c.name = some .delete ∧ c.parameter = [] ∨
      (c.name = some .append ∨ c.name = some .insert ∨ c.name = some .change) ∧
        '\r' ∉ c.parameter)

instance (c : Command) : Decidable c.IsLineEdit := by unfold IsLineEdit; infer_instance

/-- The lines that the command leaves of a line, those of its parameter indented if `autoindent`
asks for it. -/
def replaceLine (c : Command) (autoindent : Bool) (l : Text) : List Text :=
  let indent := if autoindent ≠ c.bang then l.indentation else []
  let new := c.parameter.lines.map (Insertion.indentLine indent)
  match c.name with
  | some .append => l :: new
  | some .insert => new ++ [l]
  | some .change => new
  | some .delete => []
  | _ => [l]

end Command

namespace Run

variable {c : Command} {name : CommandName} {s : Scene} {xs zs : List Text} {l : Text}

/-- Where its addresses mean nothing, a command works on the lines that it does by default. -/
theorem run_approach_of_none (hname : c.name = some name)
    (hresolve : (resolve c.addresses).run s = (.ok none, s)) :
    (approach c).run s = (.ok (some (name,
      name.defaultSpan (s.document.lines s.range) s.document.text.lineCount)), s) := by
  rw [approach, run_bind, hresolve]
  simp only [hname, Option.isSome_none, Bool.false_eq_true, if_false, Option.getD_none]
  by_cases hkeep : name.defaultLines = .keep
  · simp only [hkeep, ne_eq, not_true, if_false]
    rfl
  · simp only [hkeep, ne_eq, not_false_iff, if_true]
    rfl

/-- So it does without addresses. -/
theorem run_approach (haddresses : c.addresses = []) (hname : c.name = some name) (s : Scene) :
    (approach c).run s = (.ok (some (name,
      name.defaultSpan (s.document.lines s.range) s.document.text.lineCount)), s) :=
  run_approach_of_none hname (haddresses ▸ rfl)

/-- A command with addresses works on the lines that they mean. -/
theorem run_approach_of_resolve {span : Span} {s₀ : Scene} (hname : c.name = some name)
    (hresolve : (resolve c.addresses).run s = (.ok (some span), s₀)) :
    ∃ s', (approach c).run s = (.ok (some (name, span)), s') ∧ s₀.Approached s'.opened := by
  have htold (d : Document) : d.MovesOnly s₀.range { d with notices := [] } := .told d s₀.range
  have hopened (d : Document) : d.MovesOnly s₀.range d.openGroup := .openGroup d s₀.range
  rw [approach, run_bind, hresolve]
  simp only [hname, Option.isSome_some, if_true, Option.getD_some]
  by_cases hkeep : name.defaultLines = .keep
  · simp only [hkeep, ne_eq, not_true, if_false]
    exact ⟨_, rfl, (htold _).trans ((hopened _).trans (htold _)), rfl, rfl, rfl⟩
  · simp only [hkeep, ne_eq, not_false_iff, if_true]
    exact ⟨_, rfl, (htold _).trans ((Document.MovesOnly.moveTo _ _ _).trans
      ((htold _).trans ((hopened _).trans (htold _)))), rfl, rfl, rfl⟩

/-- Once its lines are found, a command ends as what it is dispatched to does. -/
theorem run_executeWith {span : Span} {s₁ s₂ : Scene} {runLine : Text → Run Unit}
    (hwalk : name.walksHistory = false)
    (happroach : (approach c).run s = (.ok (some (name, span)), s₁))
    (hdispatch : (dispatch runLine name c span).run s₁.opened = (.ok (), s₂)) :
    (executeWith runLine c).run s = (bookmark currentMark).run s₂.closed := by
  rw [executeWith, run_bind, happroach]
  simp only
  rw [run_bind, carryOut, if_neg (by rw [hwalk]; exact Bool.false_ne_true), run_grouped, hdispatch]

/-- It succeeds as that does, and all that is left to do is to note where it has been. -/
theorem exists_run_executeWith {span : Span} {s₁ s₂ : Scene} {runLine : Text → Run Unit}
    (hwalk : name.walksHistory = false)
    (happroach : (approach c).run s = (.ok (some (name, span)), s₁))
    (hdispatch : (dispatch runLine name c span).run s₁.opened = (.ok (), s₂)) :
    ∃ s', (executeWith runLine c).run s = (.ok (), s') ∧
      (bookmark currentMark).run s₂.closed = (.ok (), s') ∧ s₂.document.Stays s'.document ∧
      s'.session.registers = s₂.session.registers := by
  obtain ⟨s', hmark, hmarked⟩ := stays_bookmark currentMark s₂.closed
  refine ⟨s', (run_executeWith hwalk happroach hdispatch).trans hmark, hmark,
    s₂.stays_closed.trans hmarked, ?_⟩
  cases hmark
  rfl

/-- What is done around a command makes no difference to the text. -/
theorem leadsTo_of_dispatch {span : Span} {s₁ : Scene} {runLine : Text → Run Unit} {u : Text}
    (hwalk : name.walksHistory = false)
    (happroach : (approach c).run s = (.ok (some (name, span)), s₁))
    (hstays : s.document.Stays s₁.opened.document)
    (hdispatch : (dispatch runLine name c span).LeadsTo s₁.opened u) :
    (executeWith runLine c).LeadsTo s u := by
  obtain ⟨s₂, hrun, hbecomes⟩ := hdispatch
  obtain ⟨s₃, hexecute, -, hmarked, -⟩ := exists_run_executeWith hwalk happroach hrun
  exact ⟨s₃, hexecute, hstays.left (hbecomes.stays hmarked)⟩

/-- On one line, such a command puts other lines in its place. -/
theorem leadsTo_dispatch (hc : c.IsLineEdit) (hname : c.name = some name)
    (runLine : Text → Run Unit) (hs : s.document.surface.IsReliable)
    (h : s.document.text.lines = xs ++ l :: zs)
    (hempty : name = .append ∨ name = .insert → s.document.text ≠ [])
    (hlast : name = .append → zs = [] → l ≠ []) :
    (dispatch runLine name c ⟨xs.length + 1, xs.length + 1⟩).LeadsTo s
      (unlines (xs ++ c.replaceLine s.document.options.autoindent l ++ zs)) := by
  obtain ⟨-, ⟨hdelete, hparameter⟩ | ⟨hwrites, hreturn⟩⟩ := hc
  · -- the line is taken out
    obtain rfl : name = .delete := Option.some.inj (hname.symm.trans hdelete)
    have hcut : s.document.text.lines = xs ++ [l] ++ zs := by rw [h, List.append_assoc]; rfl
    have hleads := leadsTo_delete hs hcut (List.cons_ne_nil l [])
    simp only [Command.replaceLine, hdelete, List.append_nil]
    rw [← hparameter] at hleads
    exact hleads
  · simp only [hname, Option.some.injEq] at hwrites
    rcases hwrites with rfl | rfl | rfl
    · -- new lines go behind the line
      have hcut : s.document.text.lines = (xs ++ [l]) ++ zs := by rw [h, List.append_assoc]; rfl
      have hcount : (xs ++ [l]).length ≤ s.document.text.lineCount := by
        by_cases hzs : zs = []
        · rw [List.length_append]
          exact Text.length_succ_le_lineCount (hzs ▸ h) (hlast rfl hzs)
        · exact Text.length_le_lineCount hcut hzs
      have hleads := leadsTo_insertBehind hs (hempty (.inl rfl)) hcut hcount h hreturn c.bang
      simp only [Command.replaceLine, hname]
      rw [List.append_assoc xs [l], List.singleton_append, List.length_append] at hleads
      exact hleads
    · -- new lines go in front of it
      have hcount := Text.length_le_lineCount h (List.cons_ne_nil l zs)
      have hleads := leadsTo_insertBehind hs (hempty (.inr rfl)) h hcount h hreturn c.bang
      simp only [Command.replaceLine, hname]
      rw [List.append_cons, List.append_assoc xs] at hleads
      exact hleads
    · simp only [Command.replaceLine, hname]
      exact leadsTo_change hs h hreturn c.bang

/-- Run on one line, such a command puts other lines in its place. -/
theorem leadsTo_executeWith (hc : c.IsLineEdit) (runLine : Text → Run Unit)
    (hs : s.document.surface.IsReliable) (h : s.document.text.lines = xs ++ l :: zs)
    (hrange : s.document.lines s.range = (xs.length + 1, xs.length + 1))
    (hempty : c.name = some .append ∨ c.name = some .insert → s.document.text ≠ [])
    (hlast : c.name = some .append → zs = [] → l ≠ []) :
    (executeWith runLine c).LeadsTo s
      (unlines (xs ++ c.replaceLine s.document.options.autoindent l ++ zs)) := by
  obtain ⟨name, hname, hlines, hwalk⟩ : ∃ name, c.name = some name ∧
      name.defaultLines = .current ∧ name.walksHistory = false := by
    rcases hc.2 with ⟨hname, -⟩ | ⟨hname | hname | hname, -⟩ <;> exact ⟨_, hname, rfl, rfl⟩
  have hspan : name.defaultSpan (s.document.lines s.range) s.document.text.lineCount
      = ⟨xs.length + 1, xs.length + 1⟩ := by
    rw [CommandName.defaultSpan, hlines, hrange]
  have happroach := run_approach hc.1 hname s
  rw [hspan] at happroach
  have hopened := s.stays_opened
  rw [hname] at hempty hlast
  refine leadsTo_of_dispatch hwalk happroach hopened ?_
  have hdispatch := leadsTo_dispatch hc hname runLine (s := s.opened) (hopened.surface ▸ hs)
    (hopened.text ▸ h) (fun hedit ↦ ?_) (fun hedit ↦ hlast (congrArg some hedit))
  · rw [hopened.options] at hdispatch
    exact hdispatch
  · rw [hopened.text]
    exact hempty (hedit.imp (congrArg some) (congrArg some))

end Run

end LineEditor
