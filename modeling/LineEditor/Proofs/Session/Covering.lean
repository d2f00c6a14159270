import LineEditor.Proofs.Document.Covering
import LineEditor.Proofs.Session.Addressed
import LineEditor.Proofs.Session.LineEdits
import LineEditor.Proofs.Session.Numbers

/-!
# Commands that write lines

Six commands write lines: those that append, insert, change, put, copy and read. What they differ in
is where the lines come from and where they go to. Each of them ends with writing lines through the
range, and nothing that is done afterwards moves the range again. So whether the range covers what
was written is the same question for all of them.
-/

namespace LineEditor

open Text (closed opened unlines separator IsLine)

namespace CommandName

/-- The command writes lines. -/
def writesLines : CommandName → Bool
  | append | insert | change | put | copy | read => true
  | _ => false

theorem walksHistory_of_writesLines {name : CommandName} (h : name.writesLines = true) :
    name.walksHistory = false := by
  cases name with
  | undo | redo => exact absurd h Bool.false_ne_true
  | _ => rfl

end CommandName

namespace Run

variable {c : Command} {name : CommandName} {span : Span} {s s' : Scene} {w : LineWrite}
  {runLine : Text → Run Unit}

/-! ## What is written -/

/-- The indentation of lines put next to line `n`, if it is asked for. -/
def indentBeside (d : Document) (n : Nat) (flip : Bool) : Text :=
  if 0 < n ∧ d.options.autoindent ≠ flip then d.indentationOf n else []

theorem run_indentLike_eq (n : Nat) (flip : Bool) (s : Scene) :
    (indentLike n flip).run s = (.ok (indentBeside s.document n flip), s) := by
  unfold indentLike indentBeside
  change (if 0 < n ∧ s.document.options.autoindent ≠ flip then _ else _ : Run Text).run s = _
  split <;> rfl

theorem isLine_indentBeside (d : Document) (n : Nat) (flip : Bool) :
    IsLine (indentBeside d n flip) := by
  unfold indentBeside
  split
  · exact Text.isLine_indentation _
  · exact Text.isLine_nil

/-- The parameter of a command that puts lines means a register: a single digit is its name, and
anything else begins with its name or does not name it. -/
def PutsFrom (parameter : Text) (s : Scene) (register : Option Char) : Prop :=
  match Text.trim parameter with
  | [d] =>
    if d.isDigit then register = some d
    else ∃ count, (registerAndCount [d]).run s = (.ok (register, count), s)
  | p => ∃ count, (registerAndCount p).run s = (.ok (register, count), s)

/-- The lines that a command writes when it is carried out on a span. -/
inductive Writes (c : Command) (span : Span) (s : Scene) : CommandName → LineWrite → Prop
  /-- The parameter goes behind the last line. -/
  | append : Writes c span s .append
      (.behind span.last c.parameter (indentBeside s.document span.last c.bang))
  /-- The parameter goes in front of the first line. -/
  | insert : Writes c span s .insert
      (.behind (span.first - 1) c.parameter (indentBeside s.document span.first c.bang))
  /-- The parameter goes in the place of all lines. -/
  | change : Writes c span s .change
      (.inPlace (max span.first 1) (max span.last (max span.first 1)) c.parameter
        (indentBeside s.document (max span.first 1) c.bang))
  /-- The text of a register goes behind the last line, or in front of the first one. -/
  | put {register : Option Char} {t : Text} (hregister : PutsFrom c.parameter s register)
      (ht : s.session.registers.get? register = some t) :
    Writes c span s .put (.behind (if c.bang then span.first - 1 else span.last)
      ((t.dropFinal? separator).getD t) [])
  /-- The lines themselves go behind the line that the parameter addresses. -/
  | copy {tokens : List AddressToken} {target : Span} {s' : Scene}
      (htokens : Command.addressList c.parameter = .ok tokens)
      (htarget : (resolve tokens).run s = (.ok (some target), s')) :
    Writes c span s .copy (.behind target.last (s.document.text.linesText (max span.first 1)
      (max span.last (max span.first 1))) [])
  /-- The text of a file goes behind the last line. -/
  | read {content : Text} {s' : Scene}
      (h : (do load (← fileName c.parameter) : Run Text).run s = (.ok content, s')) :
    Writes c span s .read (.behind span.last ((content.dropFinal? separator).getD content) [])

theorem Writes.writesLines (h : Writes c span s name w) : name.writesLines = true := by
  cases h <;> rfl

/-- What is written fits the text. -/
theorem Writes.fits (h : Writes c span s name w) (hspan : span.Fits s.document.text) :
    w.Fits s.document.text := by
  cases h with
  | append => exact isLine_indentBeside _ _ _
  | insert => exact isLine_indentBeside _ _ _
  | change =>
    have hle := hspan.le
    have hlast := hspan.last_le
    have hpos : 1 ≤ s.document.text.lines.length := List.length_pos_iff.mpr (Text.lines_ne_nil _)
    exact ⟨isLine_indentBeside _ _ _, Nat.le_max_right _ _, Nat.le_max_right _ _, by omega⟩
  | put | copy | read => exact Text.isLine_nil

/-! ## How it is written -/

/-- The scene is the one after writing lines, with nothing but asides before. -/
def EndsWriting (w : LineWrite) (s s' : Scene) : Prop :=
  ∃ s₁, s.Aside s₁ ∧ s' = s₁.withDocument (w.perform s₁.document s₁.range)

theorem run_insertBehind (after neighbour : Nat) (body : Text) (flip : Bool) (s : Scene) :
    (insertBehind after neighbour body flip).run s = (.ok (), s.withDocument
      (s.document.insertLines s.range after body (indentBeside s.document neighbour flip))) := by
  rw [insertBehind, run_bind, run_indentLike_eq]
  rfl

theorem writes_insertBehind {after neighbour : Nat} {body : Text} {flip : Bool}
    (h : (insertBehind after neighbour body flip).run s = (.ok (), s')) :
    EndsWriting (.behind after body (indentBeside s.document neighbour flip)) s s' := by
  rw [run_insertBehind] at h
  cases h
  exact ⟨s, .refl s, rfl⟩

theorem run_change (span : Span) (body : Text) (flip : Bool) (s : Scene) :
    let first := max span.first 1
    let last := max span.last first
    let s₁ := stored s (s.document.text.linesText first last ++ [separator])
    (change span body flip).run s = (.ok (), s₁.withDocument (s₁.document.changeLines s₁.range
      first last body (indentBeside s.document first flip))) := by
  intro first last s₁
  have htext : text.run s = (.ok s.document.text, s) := rfl
  rw [change, run_bind, htext]
  simp only
  rw [run_bind, run_store]
  simp only
  rw [run_bind, run_indentLike_eq]
  rfl

theorem writes_change {body : Text} {bang : Bool}
    (h : (change span body bang).run s = (.ok (), s')) :
    EndsWriting (.inPlace (max span.first 1) (max span.last (max span.first 1)) body
      (indentBeside s.document (max span.first 1) bang)) s s' := by
  rw [run_change] at h
  cases h
  exact ⟨stored s _, aside_stored s _, rfl⟩

/-- Reading a register and a count changes nothing. -/
theorem eq_of_registerAndCount {parameter : Text} {r : Option Char × Option Nat}
    (h : (registerAndCount parameter).run s = (.ok r, s')) : s' = s := by
  unfold registerAndCount at h
  extract_lets t register rest at h
  split at h
  · cases h
    rfl
  · split at h
    · cases h
      rfl
    · cases h

/-- A register is read together with a count, which has no effect on what is done with it. -/
theorem run_registerAlone_eq_ok {parameter : Text} {act : Option Char → Run Unit} :
    (do act (← pure (← registerAndCount parameter).1) : Run Unit).run s = (.ok (), s') ↔
      ∃ register, (∃ count, (registerAndCount parameter).run s = (.ok (register, count), s)) ∧
        (act register).run s = (.ok (), s') := by
  rw [run_bind_eq_ok]
  constructor
  · rintro ⟨r, s₁, hr, hrest⟩
    obtain rfl := eq_of_registerAndCount hr
    exact ⟨r.1, ⟨r.2, hr⟩, hrest⟩
  · rintro ⟨register, ⟨count, hcount⟩, hrest⟩
    exact ⟨(register, count), s, hcount, hrest⟩

/-- A text is put in exactly if it is the text of a register that the parameter means. -/
theorem run_put_eq_ok {parameter : Text} {before : Bool} :
    (put span parameter before).run s = (.ok (), s') ↔
      ∃ register t, PutsFrom parameter s register ∧ s.session.registers.get? register = some t ∧
        s' = s.withDocument (s.document.insertLines s.range
          (if before then span.first - 1 else span.last) ((t.dropFinal? separator).getD t) []) := by
  unfold put
  extract_lets after insertOf
  have hinsert (register : Option Char) : (insertOf register).run s = (.ok (), s') ↔
      ∃ t, s.session.registers.get? register = some t ∧ s' = s.withDocument
        (s.document.insertLines s.range after ((t.dropFinal? separator).getD t) []) := by
    have hsession : session.run s = (.ok s.session, s) := rfl
    simp only [insertOf]
    rw [run_bind, hsession]
    simp only
    cases hget : s.session.registers.get? register with
    | none =>
      constructor
      · intro h
        cases h
      · rintro ⟨t, ht, -⟩
        cases ht
    | some t =>
      constructor
      · intro h
        cases h
        exact ⟨t, rfl, rfl⟩
      · rintro ⟨u, hu, rfl⟩
        cases hu
        rfl
  have hread : (∃ register t, PutsFrom parameter s register ∧
      s.session.registers.get? register = some t ∧ s' = s.withDocument
        (s.document.insertLines s.range after ((t.dropFinal? separator).getD t) [])) ↔
      ∃ register, PutsFrom parameter s register ∧ (insertOf register).run s = (.ok (), s') := by
    simp only [hinsert, exists_and_left]
  rw [hread]
  unfold PutsFrom
  generalize Text.trim parameter = p
  match p with
  | [] => exact run_registerAlone_eq_ok
  | [d] =>
    by_cases hdigit : d.isDigit
    · simp only [if_pos hdigit, exists_eq_left]
      exact Iff.rfl
    · simp only [if_neg hdigit]
      exact run_registerAlone_eq_ok
  | d :: d' :: p => exact run_registerAlone_eq_ok

/-- Lines are moved or copied exactly if the parameter addresses a line to put them behind. -/
theorem run_transfer_eq_ok {parameter : Text} {remove : Bool} :
    (transfer span parameter remove).run s = (.ok (), s') ↔
      ∃ tokens target s₁, Command.addressList parameter = .ok tokens ∧
        (resolve tokens).run s = (.ok (some target), s₁) ∧
        s' = s₁.withDocument (if remove
          then s₁.document.moveLines s₁.range (max span.first 1)
            (max span.last (max span.first 1)) target.last
          else s₁.document.insertLines s₁.range target.last (s₁.document.text.linesText
            (max span.first 1) (max span.last (max span.first 1))) []) := by
  unfold transfer
  extract_lets first last transferTo
  constructor
  · intro h
    cases htokens : Command.addressList parameter with
    | error e =>
      rw [htokens] at h
      cases h
    | ok tokens =>
      rw [htokens] at h
      change (transferTo tokens).run s = _ at h
      obtain ⟨target, s₁, htarget, h⟩ := run_bind_eq_ok.mp h
      cases target with
      | none => cases h
      | some target =>
        refine ⟨tokens, target, s₁, rfl, htarget, ?_⟩
        cases remove <;> (cases h; rfl)
  · rintro ⟨tokens, target, s₁, htokens, htarget, rfl⟩
    rw [htokens]
    change (transferTo tokens).run s = _
    simp only [transferTo]
    rw [run_bind, htarget]
    cases remove <;> rfl

theorem run_copy_eq_ok {parameter : Text} :
    (transfer span parameter false).run s = (.ok (), s') ↔
      ∃ tokens target s₁, Command.addressList parameter = .ok tokens ∧
        (resolve tokens).run s = (.ok (some target), s₁) ∧
        s' = s₁.withDocument (s₁.document.insertLines s₁.range target.last
          (s₁.document.text.linesText (max span.first 1) (max span.last (max span.first 1))) []) :=
  run_transfer_eq_ok

/-- A file is read exactly if it can be loaded. -/
theorem run_read_eq_ok {parameter : Text} :
    (read span parameter).run s = (.ok (), s') ↔
      ∃ content s₁, (do load (← fileName parameter) : Run Text).run s = (.ok content, s₁) ∧
        s' = s₁.withDocument (s₁.document.insertLines s₁.range span.last
          ((content.dropFinal? separator).getD content) []) := by
  constructor
  · intro h
    obtain ⟨file, s₁, hfile, h⟩ := run_bind_eq_ok.mp h
    obtain ⟨content, s₂, hload, h⟩ := run_bind_eq_ok.mp h
    cases h
    exact ⟨content, s₂, run_bind_eq_ok.mpr ⟨file, s₁, hfile, hload⟩, rfl⟩
  · rintro ⟨content, s₂, h, rfl⟩
    obtain ⟨file, s₁, hfile, hload⟩ := run_bind_eq_ok.mp h
    exact run_bind_eq_ok.mpr ⟨file, s₁, hfile, run_bind_eq_ok.mpr ⟨content, s₂, hload, rfl⟩⟩

/-- Choosing a file and loading it are asides. -/
theorem aside_load {parameter content : Text} {s₁ : Scene}
    (h : (do load (← fileName parameter) : Run Text).run s = (.ok content, s₁)) : s.Aside s₁ :=
  (keeps_bind (keeps_fileName parameter) fun file ↦ keeps_load file).of_run h

/-- Each of the commands ends with writing its lines. -/
theorem exists_writes (hname : name.writesLines = true)
    (h : (dispatch runLine name c span).run s = (.ok (), s')) :
    ∃ w, Writes c span s name w ∧ EndsWriting w s s' := by
  cases name with
  | append => exact ⟨_, .append, writes_insertBehind h⟩
  | insert => exact ⟨_, .insert, writes_insertBehind h⟩
  | change => exact ⟨_, .change, writes_change h⟩
  | put =>
    obtain ⟨register, t, hregister, ht, rfl⟩ := run_put_eq_ok.mp h
    exact ⟨_, .put hregister ht, s, .refl s, rfl⟩
  | copy =>
    obtain ⟨tokens, target, s₁, htokens, htarget, rfl⟩ := run_copy_eq_ok.mp h
    have haside : s.Aside s₁ := (keeps_resolve tokens).of_run htarget
    rw [haside.document.text]
    exact ⟨_, .copy htokens htarget, s₁, haside, rfl⟩
  | read =>
    obtain ⟨content, s₁, hload, rfl⟩ := run_read_eq_ok.mp h
    exact ⟨_, .read hload, s₁, aside_load hload, rfl⟩
  | _ => exact absurd hname Bool.false_ne_true

/-! ## Whole commands -/

/-- A command that succeeds has found its lines and has been carried out on them. -/
theorem executeWith_eq_ok (hname : c.name = some name) (hwalk : name.walksHistory = false)
    (h : (executeWith runLine c).run s = (.ok (), s')) :
    ∃ span s₁ s₂, (approach c).run s = (.ok (some (name, span)), s₁) ∧
      (dispatch runLine name c span).run s₁.opened = (.ok (), s₂) ∧
      (bookmark currentMark).run s₂.closed = (.ok (), s') := by
  obtain ⟨approached, s₁, happroach, hrest⟩ := run_bind_eq_ok.mp h
  cases approached with
  | none => exact absurd ((approach_eq_none happroach).symm.trans hname) nofun
  | some target =>
    obtain ⟨name', span⟩ := target
    obtain rfl : name' = name :=
      Option.some.inj ((approach_eq_some happroach).1.symm.trans hname)
    obtain ⟨u, s₂, hcarry, hmark⟩ := run_bind_eq_ok.mp hrest
    rw [carryOut, if_neg (by rw [hwalk]; exact Bool.false_ne_true), run_grouped] at hcarry
    obtain ⟨hdispatch, rfl⟩ := Prod.mk.inj hcarry
    exact ⟨span, s₁, _, happroach, Prod.ext hdispatch rfl, hmark⟩

/-- Finding its lines changes neither the surface nor an option nor a register. -/
theorem stays_approach {s₁ : Scene} (h : (approach c).run s = (.ok (some (name, span)), s₁)) :
    s.document.Stays s₁.opened.document ∧
      s₁.opened.session.registers = s.session.registers := by
  obtain ⟨hname, ⟨s₀, hresolve⟩ | ⟨hresolve, -⟩⟩ := approach_eq_some h
  · have hglance : s.Glance s₀ := (keeps_resolve c.addresses).of_run hresolve
    obtain ⟨s', happroach, happroached⟩ := run_approach_of_resolve hname hresolve
    obtain ⟨-, rfl⟩ := Prod.mk.inj (happroach.symm.trans h)
    refine ⟨?_, ?_⟩
    · rw [← hglance.document]
      exact happroached.stays
    · rw [happroached.session, hglance.registers]
  · obtain ⟨-, rfl⟩ := Prod.mk.inj ((run_approach_of_none hname hresolve).symm.trans h)
    exact ⟨s.stays_opened, rfl⟩

/-- The range has a number of its own wherever commands are carried out. -/
theorem isApart_opened {span : Span} {s₁ : Scene} (hs : s.IsApart)
    (happroach : (approach c).run s = (.ok (some (name, span)), s₁)) : s₁.opened.IsApart := by
  have hopened : s₁.KeepsApart s₁.opened := LineFrame.handled (.openGroup s₁.document)
  exact hopened.isApart (hs.of_run (keeps_approach c) happroach)

theorem isApart_of_dispatch {span : Span} {s₁ s₂ : Scene} (hs : s.IsApart)
    (happroach : (approach c).run s = (.ok (some (name, span)), s₁))
    (hdispatch : (dispatch innerLine name c span).run s₁.opened = (.ok (), s₂)) : s₂.IsApart :=
  (isApart_opened hs happroach).of_run (keeps_dispatch_of_lines keeps_innerLine name c span)
    hdispatch

/-- Closing a group and setting a mark do nothing to a range with a number of its own. -/
theorem bounds_closed_bookmark (hs : s.IsApart) {mark : Text}
    (h : (bookmark mark).run s.closed = (.ok (), s')) :
    s'.document.text = s.document.text ∧
      s'.document.bounds s'.range = s.document.bounds s.range := by
  cases h
  have hkeeps : s.KeepsApart s.closed := LineFrame.handled (.closeGroup s.document)
  have hclosed : s.closed.document.bounds s.range = s.document.bounds s.range := by
    unfold Scene.closed Document.closeGroup
    split <;> rfl
  exact ⟨s.stays_closed.text, ((hkeeps.isApart hs).bounds_setMark mark _).trans hclosed⟩

/-- What writing lines has made of the text and of the range. -/
theorem EndsWriting.spec (h : EndsWriting w s s') (hs : s.document.surface.IsReliable)
    (hw : w.Fits s.document.text) :
    s'.document.text = w.result s.document.text ∧
      (s'.document.bounds s'.range = w.covered s.document.text ↔
        w.IsForeseen s.document.text) := by
  obtain ⟨s₁, haside, rfl⟩ := h
  rw [← haside.document.text] at hw ⊢
  rw [← haside.document.surface] at hs
  exact ⟨(LineWrite.becomes_perform hs hw s₁.range).text,
    LineWrite.bounds_perform_iff hs hw s₁.range⟩

/-- **The range covers the lines written.** When a command that appends, inserts, changes, puts,
copies or reads lines succeeds, its lines are in the text, between those that stay in front of them
and behind them. The range runs from where the first line written starts to where the last one ends
if and only if they are foreseen: no carriage return among them stands alone, and if the text was
empty they were not to go behind its only line. -/
theorem covers_execute (hs : s.document.surface.IsReliable) (hapart : s.IsApart)
    (hname : c.name = some name) (hwrites : name.writesLines = true)
    (h : (execute c).run s = (.ok (), s')) :
    ∃ span s₁ w, (approach c).run s = (.ok (some (name, span)), s₁) ∧
      Writes c span s₁.opened name w ∧
      s'.document.text = w.result s.document.text ∧
      (s'.document.bounds s'.range = w.covered s.document.text ↔
        w.IsForeseen s.document.text) := by
  have hwalk : name.walksHistory = false := CommandName.walksHistory_of_writesLines hwrites
  obtain ⟨span, s₁, s₂, happroach, hdispatch, hmark⟩ := executeWith_eq_ok hname hwalk h
  obtain ⟨w, hw, hends⟩ := exists_writes hwrites hdispatch
  -- what comes before the lines are written leaves the text alone
  have haside : s.Aside s₁ := (keeps_approach c).of_run happroach
  have hsurface : s₁.opened.document.surface = s.document.surface :=
    s₁.stays_opened.surface.trans haside.document.surface
  have htext : s₁.opened.document.text = s.document.text := congrArg Surface.text hsurface
  have hfits : w.Fits s₁.opened.document.text := hw.fits (htext ▸ fits_of_approach happroach)
  obtain ⟨hresult, hcovers⟩ := hends.spec (hsurface ▸ hs) hfits
  -- and what comes after it leaves the range where it is
  obtain ⟨htext', hbounds⟩ :=
    bounds_closed_bookmark (isApart_of_dispatch hapart happroach hdispatch) hmark
  rw [htext] at hresult hcovers
  exact ⟨span, s₁, w, happroach, hw, htext'.trans hresult, hbounds ▸ hcovers⟩

/-- A line behind the first one of two. -/
theorem covers_execute_append :
    let s := Cli.initial {} {} [] "a\nb".toList
    let c : Command := ⟨[.address ⟨.line 1, 0⟩], some .append, false, 1, ['X']⟩
    ∃ (s' : Scene) (w : LineWrite), (execute c).run s = (.ok (), s') ∧
      w.covered s.document.text = ⟨2, 3⟩ ∧
      s'.document.bounds s'.range = w.covered s.document.text := by
  intro s c
  obtain ⟨s', hrun⟩ : ∃ s', (execute c).run s = (.ok (), s') := ⟨_, Prod.ext (by rfl) rfl⟩
  obtain ⟨span, s₁, w, happroach, hw, -, hcovers⟩ := covers_execute (s := s)
    (Surface.isReliable_of_isFlat trivial) (Scene.isApart_initial _ _ _ _) rfl rfl hrun
  have hspan : ((approach c).run s).1 = .ok (some (.append, ⟨1, 1⟩)) := by rfl
  cases (congrArg Prod.fst happroach).symm.trans hspan
  obtain rfl : s₁ = ((approach c).run s).2 := (congrArg Prod.snd happroach).symm
  cases hw
  exact ⟨s', _, hrun, by decide +kernel, hcovers.mpr (by decide +kernel)⟩

/-- A line behind the only one of an empty text, and a carriage return among lines. -/
theorem not_covers_execute :
    let run (t : String) (body : String) : Scene :=
      ((execute ⟨[], some .append, false, 1, body.toList⟩).run (Cli.initial {} {} [] t.toList)).2
    let covered (t : String) (body : String) : Bounds :=
      (LineWrite.behind 1 body.toList []).covered t.toList
    (let s := run "" "X"
    s.document.text = "X".toList ∧ s.document.bounds s.range = ⟨1, 1⟩ ∧
      covered "" "X" = ⟨0, 1⟩) ∧
    (let s := run "x" "A\rB"
    s.document.text = "x\nA\nB".toList ∧ s.document.bounds s.range = ⟨2, 3⟩ ∧
      covered "x" "A\rB" = ⟨2, 5⟩) := by
  decide +kernel

end Run

end LineEditor
