import LineEditor.Proofs.Document.Marks
import LineEditor.Proofs.Session.Copying

/-!
# Marks follow lines

A line is marked, and then lines are put in and taken out, by commands that address lines by their
numbers. As long as the marked line is not taken out, the mark stays on it, and its address means
the number that the line has by then: the number at first, plus the lines that were put in in front
of it, minus those that were taken out there.

The first line is different. It starts where the text starts, and what is put in right there goes
behind a mark: the mark stays on the first line, which is another one now. So it is with the only
line of an empty text, whatever is put in.
-/

namespace LineEditor

open Text (separator IsLine)

/-- A command that puts lines in, or takes a line out. -/
inductive LineEdit where
  /-- Puts lines behind a line. -/
  | append (line : Nat) (body : Text)
  /-- Puts lines in front of a line. -/
  | insert (line : Nat) (body : Text)
  /-- Takes a line out. -/
  | delete (line : Nat)

namespace LineEdit

/-- The name of the command. -/
def name : LineEdit → CommandName
  | append .. => .append
  | insert .. => .insert
  | delete _ => .delete

/-- The line that is addressed. -/
def line : LineEdit → Nat
  | append n _ | insert n _ | delete n => n

/-- The lines put in. -/
def body : LineEdit → Text
  | append _ t | insert _ t => t
  | delete _ => []

/-- The command, with the line addressed by its number. -/
def command (e : LineEdit) : Command := .onLine e.name e.line e.body

/-- The number that line `n` has afterwards: lines put in in front of it are added, a line taken out
in front of it is subtracted, and the first line stays the first one. -/
def moved (e : LineEdit) (n : Nat) : Nat :=
  match e with
  | append k t => if k < n ∧ 1 < n then n + t.lines.length else n
  | insert k t => if k ≤ n ∧ 1 < n then n + t.lines.length else n
  | delete k => if k < n then n - 1 else n

/-- The line addressed is counted, no carriage return is put in, and line `n` is not taken out. -/
def Spares (e : LineEdit) (t : Text) (n : Nat) : Prop :=
  e.line ≤ t.lineCount ∧ (e.line : Int) ≤ Text.maxInteger ∧ '\r' ∉ e.body ∧
    ∀ k, e = delete k → 1 ≤ k ∧ k ≠ n

/-- Nothing is put in front of line `n` if it is the first one, or into an empty text. -/
def Keeps (e : LineEdit) (t : Text) (n : Nat) : Prop :=
  match e with
  | append k _ => t ≠ [] ∧ (k < n → 1 < n)
  | insert k _ => t ≠ [] ∧ (k ≤ n → 1 < n)
  | delete _ => True

/-- Each of the edits has a property, of the text and of the number of a line at that time. -/
def Throughout (p : LineEdit → Text → Nat → Prop) : List LineEdit → Scene → Nat → Prop
  | [], _, _ => True
  | e :: es, s, n =>
    p e s.document.text n ∧ Throughout p es ((Run.execute e.command).run s).2 (e.moved n)

end LineEdit

namespace Run

variable {c : Command} {name : CommandName} {span : Span} {s s₁ s₂ : Scene} {mark : Text}
  {id : RangeId} {n : Nat} {l : Text} {e : LineEdit}

/-! ## Single commands -/

/-- The end of a command leaves other marks alone. -/
theorem marksLine_closed (h : s.document.MarksLine mark id n l) (hid : id ≠ s.range)
    (hmark : mark ≠ currentMark) :
    ∃ s', (bookmark currentMark).run s.closed = (.ok (), s') ∧ s.document.Stays s'.document ∧
      s'.document.MarksLine mark id n l := by
  have hclosed := (h.movesOnly (.closeGroup s.document s.range) hid).movesOnly
    (.told s.document.closeGroup s.range) hid
  refine ⟨_, rfl, s.stays_closed.trans ⟨rfl, rfl⟩, ?_⟩
  exact (hclosed.setMark hmark.symm _).movesOnly (.told _ s.range) hid

theorem reliable_insertLines {d : Document} (hd : d.surface.IsReliable) (id : RangeId) (k : Nat)
    (body : Text) {indent : Text} (hindent : IsLine indent) :
    (d.insertLines id k body indent).surface.IsReliable :=
  (LineWrite.becomes_perform (w := .behind k body indent) hd hindent id).reliable

/-- What inserting lines does to a marked line. -/
theorem exists_run_insertBehind (hs : s.document.surface.IsReliable) (hid : id ≠ s.range)
    (h : s.document.MarksLine mark id n l) {k : Nat} (hk : k ≤ s.document.text.lineCount)
    {body : Text} (hbody : '\r' ∉ body) (neighbour : Nat) (flip : Bool) :
    ∃ s', (insertBehind k neighbour body flip).run s = (.ok (), s') ∧ s'.range = s.range ∧
      s'.document.surface.IsReliable ∧
      ∃ l', s'.document.MarksLine mark id (if k < n ∧ 1 < n then n + body.lines.length else n) l' ∧
        (s.document.text ≠ [] → (k < n → 1 < n) → l' = l) := by
  have hindent := isLine_indentBeside s.document neighbour flip
  have hrun := run_insertBehind k neighbour body flip s
  have hreliable := reliable_insertLines hs s.range k body hindent
  obtain ⟨l', hl', hsame⟩ := h.exists_insertLines hid hs hk hbody hindent
  generalize s.document.insertLines s.range k body _ = d at hrun hreliable hl'
  exact ⟨_, hrun, rfl, hreliable, l', hl'.movesOnly (.told d s.range) hid, hsame⟩

/-- What an edit does to a marked line. -/
theorem exists_run_dispatch_lineEdit (hs : s.document.surface.IsReliable) (hid : id ≠ s.range)
    (h : s.document.MarksLine mark id n l) (he : e.Spares s.document.text n) :
    ∃ s', (dispatch innerLine e.name e.command (.single e.line)).run s = (.ok (), s') ∧
      s'.range = s.range ∧ s'.document.surface.IsReliable ∧
      ∃ l', s'.document.MarksLine mark id (e.moved n) l' ∧
        (e.Keeps s.document.text n → l' = l) := by
  obtain ⟨hk, -, hbody, hdelete⟩ := he
  cases e with
  | append k t =>
    obtain ⟨s', hrun, hrange, hreliable, l', hl', hsame⟩ :=
      exists_run_insertBehind hs hid h hk hbody k false
    exact ⟨s', hrun, hrange, hreliable, l', hl', fun hkeeps ↦ hsame hkeeps.1 hkeeps.2⟩
  | insert k t =>
    have hpos : 1 ≤ n := by
      obtain ⟨before, behind, -, rfl, -⟩ := h
      exact Nat.le_add_left 1 _
    have hfront : k - 1 < n ↔ k ≤ n := by omega
    obtain ⟨s', hrun, hrange, hreliable, l', hl', hsame⟩ :=
      exists_run_insertBehind hs hid h (Nat.le_trans (Nat.sub_le k 1) hk) hbody k false
    simp only [hfront] at hl' hsame
    exact ⟨s', hrun, hrange, hreliable, l', hl', fun hkeeps ↦ hsame hkeeps.1 hkeeps.2⟩
  | delete k =>
    obtain ⟨hone, hne⟩ := hdelete k rfl
    obtain ⟨s', hrun, hmoves, -, hrange⟩ := run_deleteOrYank hone hone true s
    have hdeleted := h.deleteLines hone hne
      (Nat.le_trans hk s.document.text.lineCount_le_length_lines)
    have hreliable : s'.document.surface.IsReliable := by
      rw [hmoves.surface]
      exact Document.reliable_replace hs _ _ _ _
    exact ⟨s', hrun, hrange, hreliable, l, hdeleted.movesOnly hmoves hid, fun _ ↦ rfl⟩

/-- What a whole command does to a marked line. -/
theorem exists_run_lineEdit (hs : s.document.surface.IsReliable) (hapart : s.IsApart)
    (hprevious : mark ≠ previousMark) (hcurrent : mark ≠ currentMark)
    (h : s.document.MarksLine mark id n l) (he : e.Spares s.document.text n) :
    ∃ s', (execute e.command).run s = (.ok (), s') ∧ s'.IsApart ∧
      s'.document.surface.IsReliable ∧ ∃ l', s'.document.MarksLine mark id (e.moved n) l' ∧
        (e.Keeps s.document.text n → l' = l) := by
  have hid : id ≠ s.range := by
    obtain ⟨before, behind, -, -, hmark⟩ := h
    exact fun hid ↦ hapart.marks_ne mark (hid ▸ hmark.named)
  have hname : e.command.name = some e.name := rfl
  obtain ⟨s₁, happroach, happroached⟩ :=
    run_approach_of_resolve hname (run_resolve_line he.1 he.2.1)
  have htext := happroached.stays.text
  -- the mark set to where the range was is another one
  have hopened : s₁.opened.document.MarksLine mark id n l :=
    (h.setMark hprevious.symm _).movesOnly happroached.document hid
  have hid₁ : id ≠ s₁.opened.range := happroached.range.symm ▸ hid
  obtain ⟨s₂, hdispatch, hrange, hreliable, l', hl', hsame⟩ := exists_run_dispatch_lineEdit
    (happroached.stays.surface.symm ▸ hs) hid₁ hopened (htext.symm ▸ he)
  obtain ⟨s', hmark, hstays, hclosed⟩ := marksLine_closed hl' (hrange.symm ▸ hid₁) hcurrent
  have hwalk : e.name.walksHistory = false := by cases e <;> rfl
  have hrun : (execute e.command).run s = (.ok (), s') :=
    (run_executeWith hwalk happroach hdispatch).trans hmark
  exact ⟨s', hrun, hapart.of_run (keeps_execute e.command) hrun,
    hstays.surface.symm ▸ hreliable, l', hclosed, htext ▸ hsame⟩

/-- The mark goes to where the line starts. -/
theorem run_mark {x : Char} (hblank : Text.isBlank x = false) {before behind : List Text}
    (hlines : s.document.text.lines = before ++ l :: behind) :
    (Run.mark (.single (before.length + 1)) [x]).run s = (.ok (), s.withDocument
      (s.document.setMark [x] (.collapsed (Text.closed before).length))) := by
  have hparameter : Text.trim [x] = [x] := by
    simp [Text.trim, Text.trimStart, Text.trimEnd, hblank]
  have hstart : s.document.text.lineStart? (max (before.length + 1) 1)
      = some (Text.closed before).length := by
    rw [Nat.max_eq_left (Nat.le_add_left 1 _)]
    exact Text.lineStart?_of_lines_eq hlines (List.cons_ne_nil l behind)
  have htext : text.run s = (.ok s.document.text, s) := rfl
  unfold Run.mark
  simp only [hparameter, List.length_singleton, ne_eq, not_true, if_false]
  rw [run_bind, htext]
  simp only [Span.single, hstart, Option.getD_some]
  rfl

/-! ## Marking a line -/

/-- A line is marked. -/
theorem exists_run_mark {x : Char} (hs : s.IsApart) (hblank : Text.isBlank x = false) (hn : 1 ≤ n)
    (hcount : n ≤ s.document.text.lineCount) (hmax : (n : Int) ≤ Text.maxInteger) :
    ∃ s' id, (execute (.onLine .mark n [x])).run s = (.ok (), s') ∧ s'.IsApart ∧
      s.document.Stays s'.document ∧
      s'.document.MarksLine [x] id n (s.document.text.line n) := by
  obtain ⟨s₁, happroach, happroached⟩ := run_approach_of_resolve (c := .onLine .mark n [x]) rfl
    (run_resolve_line hcount hmax)
  have hstays := happroached.stays
  have hapart := isApart_opened hs happroach
  have hle : n - 1 < s₁.opened.document.text.lines.length := by
    rw [hstays.text]
    have hall := s.document.text.lineCount_le_length_lines
    omega
  obtain ⟨before, l, behind, hlines, hlength⟩ := Document.exists_cut hle
  obtain rfl : n = before.length + 1 := by omega
  have hmark : (dispatch innerLine .mark (.onLine .mark (before.length + 1) [x])
      (.single (before.length + 1))).run s₁.opened = _ := run_mark hblank hlines
  have hline : s.document.text.line (before.length + 1) = l := by
    rw [← hstays.text]
    exact Text.line_of_lines_eq hlines
  rw [hline]
  -- the mark takes the next number, which no other range has
  have hmarked : (s₁.opened.document.setMark [x]
      (.collapsed (Text.closed before).length)).MarksLine [x] s₁.opened.document.ranges.fresh
        (before.length + 1) l :=
    ⟨before, behind, hlines, rfl, Document.marksAt_setMark hapart.marks_lt [x] _⟩
  have hid : s₁.opened.document.ranges.fresh ≠ s₁.opened.range := Nat.ne_of_gt hapart.lt
  obtain ⟨s', hend, hclosed, hkept⟩ := marksLine_closed
    (s := s₁.opened.withDocument (s₁.opened.document.setMark [x]
      (.collapsed (Text.closed before).length)))
    (hmarked.movesOnly (.told _ s₁.opened.range) hid) hid nofun
  have hrun : (execute (.onLine .mark (before.length + 1) [x])).run s = (.ok (), s') :=
    (run_executeWith rfl happroach hmark).trans hend
  have hset : s₁.opened.document.Stays (s₁.opened.document.setMark [x]
      (.collapsed (Text.closed before).length)) := ⟨rfl, rfl⟩
  exact ⟨s', _, hrun, hs.of_run (keeps_execute _) hrun, hstays.trans (hset.trans ((Scene.stays_withDocument _ _).trans hclosed)),
    hkept⟩

/-- The address of a mark means the line that it is on. -/
theorem run_resolve_mark {x : Char} (h : s.document.MarksLine [x] id n l)
    (hcount : n ≤ s.document.text.lineCount) (hmax : (n : Int) ≤ Text.maxInteger) :
    (resolve [.address ⟨.mark x, 0⟩]).run s = (.ok (some (.single n)), s) := by
  obtain ⟨b, hb, hline⟩ := h.exists_mark?
  have hdocument : document.run s = (.ok s.document, s) := rfl
  have htext : text.run s = (.ok s.document.text, s) := rfl
  have hbase (current : Nat) (lines : Nat × Nat) :
      (baseLine current lines (.mark x)).run s = (.ok n, s) := by
    rw [baseLine, run_bind, hdocument]
    simp only [hb, hline]
    rfl
  have hspan : Address.spanOf [Address.lineAt n 0 s.document.text.lineCount]
      = some (.single n) := by
    rw [Address.lineAt_zero hcount hmax]
    rfl
  rw [← hspan]
  have hmark : AddressBase.mark x ≠ .currentRange := AddressBase.noConfusion
  refine run_resolve ?_
  rw [foundLines, if_neg (fun h ↦ hmark h.1), run_bind, htext]
  simp only
  rw [run_bind, hbase]
  rfl

/-! ## Runs of commands -/

/-- What a run of edits does to a marked line. -/
theorem exists_run_lineEdits {edits : List LineEdit} (hs : s.document.surface.IsReliable)
    (hapart : s.IsApart) (hprevious : mark ≠ previousMark) (hcurrent : mark ≠ currentMark)
    (h : s.document.MarksLine mark id n l) (he : LineEdit.Throughout LineEdit.Spares edits s n) :
    ∃ s', (edits.forM fun e ↦ execute e.command).run s = (.ok (), s') ∧
      ∃ l', s'.document.MarksLine mark id (edits.foldl (fun n e ↦ e.moved n) n) l' ∧
        (LineEdit.Throughout LineEdit.Keeps edits s n → l' = l) := by
  induction edits generalizing s n l with
  | nil => exact ⟨s, rfl, l, h, fun _ ↦ rfl⟩
  | cons e edits ih =>
    obtain ⟨hspares, hrest⟩ := he
    obtain ⟨s₁, hrun, hapart₁, hs₁, l₁, h₁, hsame⟩ :=
      exists_run_lineEdit hs hapart hprevious hcurrent h hspares
    rw [hrun] at hrest
    obtain ⟨s', hruns, l', h', hsames⟩ := ih hs₁ hapart₁ h₁ hrest
    refine ⟨s', run_bind_eq_ok.mpr ⟨(), s₁, hrun, hruns⟩, l', h', fun ⟨hkeeps, hkept⟩ ↦ ?_⟩
    rw [hrun] at hkept
    exact (hsames hkept).trans (hsame hkeeps)

/-- **A mark follows its line.** Marking a line that is counted succeeds and leaves the text alone.
So does afterwards every run of commands that put lines in or take lines out, as long as the marked
line is spared, and the address of the mark then means the line with the number that the marked line
has got, if that line is counted. The line has the content of the marked line as long as nothing was
put in front of the first line when that was the marked one, or into an empty text. -/
theorem marks_follow {x : Char} (hs : s.document.surface.IsReliable) (hapart : s.IsApart)
    (hblank : Text.isBlank x = false) (hprevious : [x] ≠ previousMark) (hn : 1 ≤ n)
    (hcount : n ≤ s.document.text.lineCount) (hmax : (n : Int) ≤ Text.maxInteger) :
    ∃ s₁, (execute (.onLine .mark n [x])).run s = (.ok (), s₁) ∧
      s₁.document.text = s.document.text ∧
      ∀ edits, LineEdit.Throughout LineEdit.Spares edits s₁ n →
        ∃ s₂, (edits.forM fun e ↦ execute e.command).run s₁ = (.ok (), s₂) ∧
          let line := edits.foldl (fun n e ↦ e.moved n) n
          (line ≤ s₂.document.text.lineCount → (line : Int) ≤ Text.maxInteger →
            (resolve [.address ⟨.mark x, 0⟩]).run s₂ = (.ok (some (.single line)), s₂)) ∧
          (LineEdit.Throughout LineEdit.Keeps edits s₁ n →
            s₂.document.text.line line = s.document.text.line n) := by
  obtain ⟨s₁, id, hrun, hapart₁, hstays, hmarked⟩ := exists_run_mark hapart hblank hn hcount hmax
  refine ⟨s₁, hrun, hstays.text, fun edits he ↦ ?_⟩
  obtain ⟨s₂, hruns, l', hmarks, hsame⟩ := exists_run_lineEdits (hstays.surface.symm ▸ hs) hapart₁
    hprevious nofun hmarked he
  exact ⟨s₂, hruns, run_resolve_mark hmarks, fun hkeeps ↦ hmarks.line_eq.trans (hsame hkeeps)⟩

/-- Lines are put in right in front of a marked line, and then the first line goes. -/
theorem marks_follow_around :
    let s := Cli.initial {} {} [] "a\nb\nc".toList
    let edits : List LineEdit := [.insert 2 "X\nY".toList, .delete 1]
    ∃ s₁ s₂ : Scene, (execute (.onLine .mark 2 ['x'])).run s = (.ok (), s₁) ∧
      (edits.forM fun e ↦ execute e.command).run s₁ = (.ok (), s₂) ∧
      (resolve [.address ⟨.mark 'x', 0⟩]).run s₂ = (.ok (some (.single 3)), s₂) ∧
      s₂.document.text.line 3 = ['b'] := by
  intro s edits
  obtain ⟨s₁, hmark, -, hfollow⟩ := marks_follow (s := s) (n := 2) (x := 'x')
    (Surface.isReliable_of_isFlat trivial) (Scene.isApart_initial _ _ _ _) (by decide) (by decide)
    (by decide) (by decide +kernel) (by decide)
  obtain rfl : s₁ = ((execute (.onLine .mark 2 ['x'])).run s).2 :=
    (congrArg Prod.snd hmark).symm
  obtain ⟨s₂, hrun, hresolve, hline⟩ := hfollow edits
    ⟨⟨by decide +kernel, by decide, by decide, nofun⟩,
      ⟨by decide +kernel, by decide, by decide, fun k h ↦ by cases h; decide⟩, trivial⟩
  obtain rfl : s₂ = ((edits.forM fun e ↦ execute e.command).run
    ((execute (.onLine .mark 2 ['x'])).run s).2).2 := (congrArg Prod.snd hrun).symm
  have hsame := hline ⟨⟨by decide +kernel, by decide⟩, trivial, trivial⟩
  refine ⟨_, _, hmark, hrun, hresolve ?_ (by decide), hsame.trans ?_⟩
  · decide +kernel
  · decide +kernel

/-- A line put in front of the first one, which is marked; and a marked line, empty and last, that
is not counted any more after the one behind it is gone. -/
theorem not_marks_follow :
    let after (t : String) (commands : List Command) : Scene :=
      ((commands.forM execute).run (Cli.initial {} {} [] t.toList)).2
    let found (s : Scene) : Option (Option Span) :=
      ((resolve [.address ⟨.mark 'x', 0⟩]).run s).1.toOption
    (let s := after "a\nb" [.onLine .mark 1 ['x'], .onLine .insert 1 ['X']]
    s.document.text = "X\na\nb".toList ∧ found s = some (some (.single 1))) ∧
    (let s := after "a\n\nb" [.onLine .mark 2 ['x'], .onLine .delete 3 []]
    s.document.text = "a\n".toList ∧ found s = some (some (.single 1))) := by
  decide +kernel

end Run

end LineEditor
