import LineEditor.Proofs.Command.Segments
import LineEditor.Proofs.Session.Addressed
import LineEditor.Proofs.Session.LineEdits
import LineEditor.Proofs.Session.Scan

/-!
# Line edits made globally

A global command keeps no list of the lines it is to visit, only the number of the line it is at and
of the last one. After each hit it corrects both by the change of the number of lines, and that
number leaves out an empty piece at the end of the text. Where the commands run edit one line each,
the correction is right as long as lines are left to visit: the last piece of the text is then the
same before and after. So the scan meets the lines addressed one after the other, each once and as
it was, and what it makes of the text is what replacing all lines that match at once makes of it.

There is one exception. If the only line of the text is deleted and the piece behind its separator
is still to be visited, then an empty text is left, whose number of lines is one all the same. The
scan then looks for its last line behind the end of the text, where it finds an empty one.
-/

namespace LineEditor

open Text (closed opened unlines separator IsLine)

/-! ## Lines that are put in -/

namespace Command

/-- Lines are put in place of a line. -/
theorem isLine_of_mem_replaceLine (c : Command) (autoindent : Bool) {l : Text} (hl : IsLine l) :
    ∀ k ∈ c.replaceLine autoindent l, IsLine k := by
  have hindent : IsLine (if autoindent ≠ c.bang then l.indentation else []) := by
    split
    · exact Text.isLine_indentation l
    · exact Text.isLine_nil
  have hnew : ∀ k ∈ c.parameter.lines.map
      (Insertion.indentLine (if autoindent ≠ c.bang then l.indentation else [])), IsLine k := by
    intro k hk
    obtain ⟨piece, hpiece, rfl⟩ := List.mem_map.mp hk
    exact Insertion.isLine_indentLine hindent (Text.isLine_of_mem_lines hpiece)
  have hsame : ∀ k ∈ [l], IsLine k := fun k hk ↦ List.mem_singleton.mp hk ▸ hl
  unfold replaceLine
  extract_lets indent new
  split
  · exact List.forall_mem_cons.mpr ⟨hl, hnew⟩
  · exact List.forall_mem_append.mpr ⟨hnew, hsame⟩
  · exact hnew
  · exact fun _ h ↦ absurd h List.not_mem_nil
  · exact hsame

/-- Only deleting leaves nothing of a line. -/
theorem eq_delete_of_replaceLine {c : Command} {autoindent : Bool} {l : Text}
    (h : c.replaceLine autoindent l = []) : c.name = some .delete := by
  unfold replaceLine at h
  extract_lets indent new at h
  have hnew : new ≠ [] := Insertion.map_lines_ne_nil indent c.parameter
  split at h
  · exact absurd h (List.cons_ne_nil _ _)
  · exact absurd h (List.append_ne_nil_of_right_ne_nil _ (List.cons_ne_nil _ _))
  · exact absurd h hnew
  · assumption
  · exact absurd h (List.cons_ne_nil _ _)

/-- What is run on a line is one command. -/
def IsBody (body : Text) (c : Command) : Prop := body.lines.flatMap commands = [.ok c]

/-- What becomes of a line if the command is run on lines that match, or on those that do not. -/
def rewrite (c : Command) (m : Matcher) (expected autoindent : Bool) (l : Text) : List Text :=
  if m.occursIn l = expected then c.replaceLine autoindent l else [l]

/-- Of an empty piece at the end nothing is to be seen, whether it is deleted or not. -/
theorem unlines_rewrite_nil (c : Command) (m : Matcher) (expected autoindent : Bool)
    (h : c.name = some .delete) : unlines (c.rewrite m expected autoindent []) = [] := by
  unfold rewrite
  split
  · simp only [replaceLine, h]
    rfl
  · rfl

end Command

/-- Every range in an empty text is on its only line. -/
theorem Document.lines_of_text_eq_nil {d : Document} (h : d.text = []) (id : RangeId) :
    d.lines id = (1, 1) := by
  have hlength : d.length = 0 := congrArg List.length h
  have hbounds : d.bounds id = ⟨0, 0⟩ := by
    rw [bounds, hlength, Bounds.clamp]
    simp
  rw [lines, hbounds, h]
  rfl

namespace Run

variable {m : Matcher} {expected autoindent : Bool} {body : Text} {c : Command} {s : Scene}
  {xs ps zs : List Text} {l : Text}

theorem forM_flatMap {α β : Type} (f : β → Run Unit) (g : α → List β) (as : List α) :
    (as.forM fun a ↦ (g a).forM f) = (as.flatMap g).forM f := by
  induction as with
  | nil => rfl
  | cons a as ih =>
    have happend : (g a ++ as.flatMap g).forM f = (g a).forM f >>= fun _ ↦ (as.flatMap g).forM f :=
      List.forM_append
    rw [List.flatMap_cons, happend, ← ih]
    rfl

/-- A line that holds one command runs that command. -/
theorem forM_innerLine (hbody : c.IsBody body) :
    body.lines.forM innerLine = executeWith (fun _ ↦ refuse .nestedGlobal) c := by
  have hlines := forM_flatMap (fun c ↦ do executeWith (fun _ ↦ refuse .nestedGlobal) (← orFail c))
    Command.commands body.lines
  rw [hbody] at hlines
  refine hlines.trans ?_
  change ((pure c >>= fun c ↦ executeWith _ c) >>= fun _ ↦ pure ()) = _
  rw [pure_bind, bind_pure_unit]

/-! ## One hit -/

/-- On the line that the range is set to, the command puts other lines in its place. -/
theorem leadsTo_hit (hbody : c.IsBody body) (hc : c.IsLineEdit)
    (hs : s.document.surface.IsReliable) (h : s.document.text.lines = xs ++ l :: zs) {n : Nat}
    (hrange : (s.document.moveToLines s.range n n).lines s.range = (xs.length + 1, xs.length + 1))
    (hempty : c.name = some .append ∨ c.name = some .insert → s.document.text ≠ [])
    (hlast : c.name = some .append → zs = [] → l ≠ []) :
    (moveToLine n >>= fun _ ↦ body.lines.forM innerLine).LeadsTo s
      (unlines (xs ++ c.replaceLine s.document.options.autoindent l ++ zs)) := by
  have hmove : (moveToLine n).run s
      = (.ok (), s.withDocument (s.document.moveToLines s.range n n)) := rfl
  rw [forM_innerLine hbody]
  exact leadsTo_of_run hmove ⟨rfl, rfl⟩ (leadsTo_executeWith hc _ hs h hrange hempty hlast)

/-- Behind the last line nothing is left to come, whatever has been added. -/
theorem linesToCome_last (line : Nat) (added : Int) :
    (linesToCome line line added).2 < (linesToCome line line added).1 := by
  unfold linesToCome
  split <;> omega

/-- If as many lines are added as are put in place of the line, those behind it are still to come.
-/
theorem linesToCome_replaced (n k p : Nat) {added : Int} (h : added + 1 = k) :
    linesToCome (n + 1) (n + (p + 1)) added = (n + k + 1, n + k + p) := by
  unfold linesToCome
  split
  · exact Prod.ext (by simp only; omega) (by simp only; omega)
  · exact Prod.ext (by simp only; omega) (by simp only; omega)

/-! ## The scan -/

/-- The scan from line `line` to `last` succeeds, meets these lines and leaves the text `u`. -/
def Meets (m : Matcher) (expected : Bool) (body : Run Unit) (line last : Nat) (s : Scene)
    (met : List Text) (u : Text) : Prop :=
  ∃ rounds s', Scan m expected body line last s rounds (.ok (), s') ∧
    rounds.map Round.tested = met ∧ s.document.Becomes u s'.document

section Meets

variable {run : Run Unit} {line last : Nat} {s₁ : Scene} {u v : Text}

theorem meets_nil (hs : s.document.surface.IsReliable) (ht : s.document.text = u)
    (h : last < line) : Meets m expected run line last s [] u :=
  ⟨[], s, .done h, rfl, ht, hs, rfl⟩

/-- A line that does not match is passed. -/
theorem Meets.pass (h : line ≤ last) (hline : s.document.text.line line = l)
    (hmatch : m.occursIn l ≠ expected) (hrest : Meets m expected run (line + 1) last s ps u) :
    Meets m expected run line last s (l :: ps) u := by
  subst hline
  obtain ⟨rounds, s', hscan, rfl, hbecomes⟩ := hrest
  exact ⟨_, s', .pass h hmatch hscan, rfl, hbecomes⟩

/-- The command is run on a line that matches. -/
theorem Meets.hit (h : line ≤ last) (hline : s.document.text.line line = l)
    (hmatch : m.occursIn l = expected)
    (hrun : (moveToLine line >>= fun _ ↦ run).run s = (.ok (), s₁))
    (hbecomes : s.document.Becomes v s₁.document)
    (hrest : Meets m expected run
      (linesToCome line last (s₁.document.text.lineCount - s.document.text.lineCount)).1
      (linesToCome line last (s₁.document.text.lineCount - s.document.text.lineCount)).2 s₁ ps u) :
    Meets m expected run line last s (l :: ps) u := by
  subst hline
  obtain ⟨rounds, s', hscan, rfl, hbecomes'⟩ := hrest
  exact ⟨_, s', .hit h hmatch hrun rfl hscan, rfl, hbecomes.trans hbecomes'⟩

end Meets

/-- Once the text is empty, the empty piece that was behind its only line is still looked at. -/
theorem meets_blank (hbody : c.IsBody body) (hc : c.IsLineEdit) (hdelete : c.name = some .delete)
    (hs : s.document.surface.IsReliable) (ht : s.document.text = []) :
    Meets m expected (body.lines.forM innerLine) 2 2 s [[]] [] := by
  have hline : s.document.text.line 2 = [] := by rw [ht]; rfl
  by_cases hmatch : m.occursIn [] = expected
  · have hlines : s.document.text.lines = [] ++ [] :: [] := by rw [ht]; rfl
    have hname : ∀ {name}, name ≠ .delete → c.name ≠ some name := fun hne hname ↦
      hne (Option.some.inj (hname.symm.trans hdelete))
    obtain ⟨s₁, hrun, hbecomes⟩ := leadsTo_hit hbody hc hs hlines
      (Document.lines_of_text_eq_nil (d := s.document.moveToLines s.range 2 2) ht s.range)
      (fun h ↦ absurd h (not_or.mpr ⟨hname (by decide), hname (by decide)⟩))
      (fun h ↦ absurd h (hname (by decide)))
    simp only [Command.replaceLine, hdelete] at hbecomes
    exact .hit (Nat.le_refl 2) hline hmatch hrun hbecomes
      (meets_nil hbecomes.reliable hbecomes.text (linesToCome_last 2 _))
  · exact .pass (Nat.le_refl 2) hline hmatch (meets_nil hs ht (Nat.lt_succ_self 2))

private theorem eq_nil_of_singleton_eq {α : Type} {a : α} {as bs cs : List α}
    (h : [a] = as ++ (bs ++ cs)) (hbs : bs ≠ []) : as = [] ∧ bs = [a] ∧ cs = [] := by
  obtain ⟨b, bs, rfl⟩ := List.exists_cons_of_ne_nil hbs
  rcases List.singleton_eq_append_iff.mp h with ⟨has, hrest⟩ | ⟨-, hrest⟩
  · obtain ⟨rfl, hnil⟩ := List.cons.inj hrest
    obtain ⟨rfl, rfl⟩ := List.append_eq_nil_iff.mp hnil
    exact ⟨has, rfl, rfl⟩
  · exact absurd hrest (List.cons_ne_nil _ _)

/-- If the command has left nothing, the text was the line that it was run on and a separator, and
an empty piece is still to come. -/
theorem meets_of_blank {s₁ : Scene} (hbody : c.IsBody body) (hc : c.IsLineEdit)
    (hs₁ : s₁.document.surface.IsReliable) (hblank : s₁.document.text = [])
    (h : s.document.text.lines = xs ++ l :: (ps ++ zs))
    (h₁ : s₁.document.text.lines = xs ++ c.replaceLine autoindent l ++ (ps ++ zs)) (hps : ps ≠ []) :
    Meets m expected (body.lines.forM innerLine)
      (linesToCome (xs.length + 1) (xs.length + (ps.length + 1))
        (s₁.document.text.lineCount - s.document.text.lineCount)).1
      (linesToCome (xs.length + 1) (xs.length + (ps.length + 1))
        (s₁.document.text.lineCount - s.document.text.lineCount)).2 s₁ ps
      (unlines (xs ++ c.replaceLine autoindent l ++ ps.flatMap (c.rewrite m expected autoindent)
        ++ zs)) := by
  have hnone := h₁
  rw [hblank] at hnone
  obtain ⟨hfront, rfl, rfl⟩ := eq_nil_of_singleton_eq hnone hps
  obtain ⟨rfl, hnew⟩ := List.append_eq_nil_iff.mp hfront
  have hdelete := Command.eq_delete_of_replaceLine hnew
  have hone : s.document.text.lines = [l] ++ [[]] := h
  have hadded : (s₁.document.text.lineCount : Int) - s.document.text.lineCount = 0 := by
    rw [Text.lineCount_of_lines_eq hone, hblank]
    rfl
  have hu : [] ++ c.replaceLine autoindent l ++ [[]].flatMap (c.rewrite m expected autoindent) ++ []
      = c.rewrite m expected autoindent [] := by simp [hnew]
  rw [hu, c.unlines_rewrite_nil m expected autoindent hdelete, hadded]
  exact meets_blank hbody hc hdelete hs₁ hblank

/-- If a text is left, as many lines are added as the command has put in place of the line. -/
theorem linesToCome_of_lines_eq {s₁ : Scene} {ys : List Text} (ht : s₁.document.text ≠ [])
    (h : s.document.text.lines = xs ++ l :: (ps ++ zs))
    (h₁ : s₁.document.text.lines = xs ++ ys ++ (ps ++ zs)) (hps : ps ≠ []) :
    linesToCome (xs.length + 1) (xs.length + (ps.length + 1))
      (s₁.document.text.lineCount - s.document.text.lineCount)
      = ((xs ++ ys).length + 1, (xs ++ ys).length + ps.length) := by
  have hrest : ps ++ zs ≠ [] := List.append_ne_nil_of_left_ne_nil hps zs
  have htext : s.document.text ≠ [] := by
    intro hnil
    have hone : [[]] = xs ++ ([l] ++ (ps ++ zs)) := by
      rw [hnil] at h
      exact h
    exact hrest (eq_nil_of_singleton_eq hone (List.cons_ne_nil l [])).2.2
  have hcut : s.document.text.lines = xs ++ [l] ++ (ps ++ zs) := by rw [h]; simp
  have hcount := Text.lineCount_add_length htext ht hcut h₁ hrest
  simp only [List.length_append, List.length_singleton] at hcount ⊢
  exact linesToCome_replaced _ _ _ (by omega)

/-- The scan meets the lines to come one after the other, each as it was, and puts other lines in
place of those that match. -/
theorem meets_lines (hbody : c.IsBody body) (hc : c.IsLineEdit)
    (hs : s.document.surface.IsReliable) (hauto : s.document.options.autoindent = autoindent)
    (hlines : ∀ l ∈ xs ++ ps ++ zs, IsLine l) (ht : s.document.text = unlines (xs ++ ps ++ zs))
    (hempty : c.name = some .append ∨ c.name = some .insert → s.document.text ≠ [])
    (hlast : c.name = some .append → zs = [] → ps.getLast? ≠ some []) :
    Meets m expected (body.lines.forM innerLine) (xs.length + 1) (xs.length + ps.length) s ps
      (unlines (xs ++ ps.flatMap (c.rewrite m expected autoindent) ++ zs)) := by
  -- in front of the lines to come are those that have been put in place of the lines before
  induction ps generalizing xs s with
  | nil => exact meets_nil hs ht (Nat.lt_succ_self xs.length)
  | cons l ps ih =>
    have hcut : s.document.text.lines = xs ++ l :: (ps ++ zs) := by
      rw [ht, Text.lines_unlines (by simp) hlines, List.append_assoc]
      rfl
    have hline := Text.line_of_lines_eq hcut
    have hle : xs.length + 1 ≤ xs.length + (l :: ps).length := by
      rw [List.length_cons]
      omega
    have hlast' : c.name = some .append → zs = [] → ps.getLast? ≠ some [] := by
      intro happend hzs
      cases ps with
      | nil => exact nofun
      | cons p more => exact List.getLast?_cons_cons ▸ hlast happend hzs
    by_cases hmatch : m.occursIn l = expected
    · have hrewrite : c.rewrite m expected autoindent l = c.replaceLine autoindent l :=
        if_pos hmatch
      obtain ⟨s₁, hrun, hbecomes⟩ := leadsTo_hit hbody hc hs hcut
        (Document.lines_moveToLines hcut s.range) hempty (fun happend hnil ↦ by
          obtain ⟨rfl, rfl⟩ := List.append_eq_nil_iff.mp hnil
          exact fun hl ↦ hlast happend rfl (congrArg some hl))
      rw [hauto] at hbecomes
      refine .hit hle hline hmatch hrun hbecomes ?_
      rw [List.flatMap_cons, hrewrite, ← List.append_assoc xs]
      by_cases hps : ps = []
      · -- there is no line left to come, whatever the correction is
        subst hps
        rw [List.flatMap_nil, List.append_nil]
        exact meets_nil hbecomes.reliable hbecomes.text (linesToCome_last _ _)
      · have hlines₁ : ∀ k ∈ xs ++ c.replaceLine autoindent l ++ (ps ++ zs), IsLine k := by
          simp only [List.forall_mem_append, List.forall_mem_cons] at hlines ⊢
          exact ⟨⟨hlines.1.1, c.isLine_of_mem_replaceLine autoindent hlines.1.2.1⟩, hlines.1.2.2,
            hlines.2⟩
        have hcut₁ : s₁.document.text.lines = xs ++ c.replaceLine autoindent l ++ (ps ++ zs) := by
          rw [hbecomes.text]
          exact Text.lines_unlines (by simp [hps]) hlines₁
        by_cases hblank : s₁.document.text = []
        · exact meets_of_blank hbody hc hbecomes.reliable hblank hcut hcut₁ hps
        · have hrest := @ih s₁ (xs ++ c.replaceLine autoindent l) hbecomes.reliable
            (hbecomes.options ▸ hauto) (by rw [List.append_assoc]; exact hlines₁)
            (by rw [hbecomes.text, List.append_assoc _ ps]) (fun _ ↦ hblank) hlast'
          rw [List.length_cons, linesToCome_of_lines_eq hblank hcut hcut₁ hps]
          exact hrest
    · have hrewrite : c.rewrite m expected autoindent l = [l] := if_neg hmatch
      have happend : ∀ ls, xs ++ [l] ++ ls ++ zs = xs ++ (l :: ls) ++ zs := fun ls ↦ by simp
      have hlength : (xs ++ [l]).length = xs.length + 1 := List.length_append
      have hcome : (xs ++ [l]).length + ps.length = xs.length + (l :: ps).length := by
        rw [hlength, List.length_cons]
        omega
      have hrest := ih hs hauto (happend ps ▸ hlines) (happend ps ▸ ht) hempty hlast'
      rw [hcome, hlength, happend] at hrest
      rw [List.flatMap_cons, hrewrite]
      exact .pass hle hline hmatch hrest

end Run

/-- If the last line of a text is counted, it is not empty. -/
theorem Span.Fits.getLast?_ne {span : Span} {t : Text} (h : span.Fits t) (ht : t ≠ [])
    (hcount : span.last ≤ t.lineCount) (hrest : t.lines.drop span.last = []) :
    (t.lineRange (max span.first 1) span.last).getLast? ≠ some [] := by
  intro hnil
  obtain ⟨ps, hps⟩ := List.getLast?_eq_some_iff.mp hnil
  have hlines := h.lines_eq
  rw [hrest, List.append_nil, hps, ← List.append_assoc] at hlines
  have hlength := h.length_eq.2
  have hlineCount := Text.lineCount_of_ne_nil ht hlines
  rw [if_pos rfl, List.length_append] at hlineCount
  rw [hps, List.length_append, List.length_singleton] at hlength
  omega

namespace Run

/-- A global command ends as its scan does, and what it did is one step of the history. -/
theorem run_execute_global {s s₁ s₂ s₃ : Scene} {g : Command} {name : CommandName} {span : Span}
    {rounds : List Round} (hglobal : name.isGlobal = true)
    (happroach : (approach g).run s = (.ok (some (name, span)), s₁))
    (hstart : (startGlobal g.parameter).run s₁.opened = (.ok (m, body), s₂))
    (hscan : Scan m (decide (name = .global) && !g.bang) (body.lines.forM innerLine)
      (max span.first 1) span.last s₂ rounds (.ok (), s₃)) :
    (execute g).run s = (bookmark currentMark).run
      { s₃ with session := { s₃.session with inGlobal := false } }.closed := by
  have hdispatch : dispatch innerLine name g span
      = Run.global innerLine span g.parameter (decide (name = .global) && !g.bang) := by
    cases name with
    | global => rfl
    | notglobal => rfl
    | _ => exact nomatch hglobal
  refine run_executeWith (CommandName.walksHistory_of_isGlobal hglobal) happroach ?_
  rw [hdispatch, Run.global, run_bind, hstart]
  simp only
  rw [run_endingGlobal, hscan.run_globalFrom]

/-- **Lines edited globally.** A global command that runs a command on each line it finds, one that
deletes the line or puts lines in front of it, behind it or in its place, succeeds. It tests the
lines addressed one after the other, each once and as it was at first, and the text becomes the one
with all lines that match replaced at once. -/
theorem text_execute_global {s s₁ s₂ : Scene} {g c : Command} {name : CommandName} {span : Span}
    {m : Matcher} {body : Text} (hs : s.document.surface.IsReliable) (ht : s.document.text ≠ [])
    (hglobal : name.isGlobal = true)
    (happroach : (approach g).run s = (.ok (some (name, span)), s₁))
    (hstart : (startGlobal g.parameter).run s₁.opened = (.ok (m, body), s₂))
    (hbody : c.IsBody body) (hc : c.IsLineEdit)
    (hlast : c.name = some .append → span.last ≤ s.document.text.lineCount) :
    let t := s.document.text
    let first := max span.first 1
    let expected := decide (name = .global) && !g.bang
    let rewrite := c.rewrite m expected s₂.document.options.autoindent
    ∃ rounds s₃ s',
      Scan m expected (body.lines.forM innerLine) first span.last s₂ rounds (.ok (), s₃) ∧
      rounds.map Round.tested = t.lineRange first span.last ∧
      (execute g).run s = (.ok (), s') ∧
      s'.document.text = unlines (t.lines.take (first - 1)
        ++ (t.lineRange first span.last).flatMap rewrite ++ t.lines.drop span.last) := by
  intro t first expected rewrite
  have hfits := fits_of_approach happroach
  have happroached : s.document.Aside s₁.document := by
    have h := keeps_approach (P := Scene.On Document.Aside) g s
    rwa [happroach] at h
  have hstarted : s₁.opened.document.Aside s₂.document := by
    have h := keeps_startGlobal (P := Scene.On Document.Aside) g.parameter s₁.opened
    rwa [hstart] at h
  have hsurface : s₂.document.surface = s.document.surface := by
    rw [hstarted.surface, s₁.stays_opened.surface, happroached.surface]
  have htext : s₂.document.text = t := congrArg Surface.text hsurface
  have hlines := hfits.lines_eq
  obtain ⟨hfirst, hend⟩ := hfits.length_eq
  have hisLine : ∀ l ∈ t.lines.take (first - 1) ++ t.lineRange first span.last
      ++ t.lines.drop span.last, IsLine l := by
    rw [← hlines]
    exact fun l hl ↦ Text.isLine_of_mem_lines hl
  obtain ⟨rounds, s₃, hscan, htested, hbecomes⟩ := meets_lines (m := m) hbody hc
    (hsurface ▸ hs) rfl hisLine (by rw [← hlines, Text.unlines_lines, htext])
    (fun _ ↦ htext ▸ ht) (fun happend ↦ hfits.getLast?_ne ht (hlast happend))
  rw [hend, hfirst] at hscan
  refine ⟨rounds, s₃, _, hscan, htested, run_execute_global hglobal happroach hstart hscan, ?_⟩
  exact s₃.document.stays_closeGroup.text.trans hbecomes.text

/-- Lines are put behind two lines that match. One of the new lines would match, too. -/
theorem text_execute_global_append :
    let s : Scene := { document := .ofSurface (.ofField "b\na\nb".toList) {}, range := 0 }
    let g : Command := ⟨[], some .global, false, 1, "/b/a \"x\\nb\"".toList⟩
    ∃ s', (execute g).run s = (.ok (), s') ∧ s'.document.text = "b\nx\nb\na\nb\nx\nb".toList := by
  intro s g
  let c : Command := ⟨[], some .append, false, 1, "x\nb".toList⟩
  have happroach : (approach g).run s = (.ok (some (.global, ⟨1, 3⟩)), s) := run_approach rfl rfl s
  have hbody : c.IsBody "a \"x\\nb\"".toList := by
    have hscan : (Command.scan "a \"x\\nb\"".toList).toOption = some (c, []) := by decide +kernel
    exact congrArg (· ++ []) (Command.commands_of_scan hscan rfl)
  let started := (startGlobal g.parameter).run s.opened
  have hstarted : started.1.toOption.map (fun p ↦ (p.2, p.1.occursIn ['b'], p.1.occursIn ['a']))
      = some ("a \"x\\nb\"".toList, true, false) := by
    decide +kernel
  have hoptions : started.2.document.options.autoindent = false := by decide +kernel
  obtain ⟨m, hstart, hb, ha⟩ : ∃ m, started = (.ok (m, "a \"x\\nb\"".toList), started.2) ∧
      m.occursIn ['b'] = true ∧ m.occursIn ['a'] = false := by
    revert hstarted
    rcases started with ⟨e | ⟨m, body⟩, s₂⟩
    · exact nofun
    · intro hstarted
      obtain ⟨rfl, hb, ha⟩ := by simpa [Except.toOption] using hstarted
      exact ⟨m, rfl, hb, ha⟩
  obtain ⟨-, -, s', -, -, hrun, htext⟩ := text_execute_global (s := s)
    (Surface.isReliable_of_isFlat trivial) (by decide) rfl happroach hstart hbody (by decide)
    (fun _ ↦ by decide)
  refine ⟨s', hrun, htext.trans ?_⟩
  have hlines : s.document.text.lines = [['b'], ['a'], ['b']] := by decide
  have hnew : c.rewrite m true false ['b'] = [['b'], ['x'], ['b']] := if_pos hb
  have hsame : c.rewrite m true false ['a'] = [['a']] := if_neg (Bool.eq_false_iff.mp ha)
  have hall : [['b'], ['a'], ['b']].flatMap (c.rewrite m true false)
      = [['b'], ['x'], ['b'], ['a'], ['b'], ['x'], ['b']] := by
    simp only [List.flatMap_cons, hnew, hsame]
    rfl
  rw [hoptions, Text.lineRange, hlines]
  change unlines ([] ++ [['b'], ['a'], ['b']].flatMap (c.rewrite m true false) ++ []) = _
  rw [hall]
  decide

/-- Between two line breaks inside an element, a line is put behind the element instead. On a field,
a line that goes behind the empty piece at the end of the text is put in front of it. -/
theorem not_text_execute_global :
    (let s : Scene := {
      document := .ofSurface (.ofContent (.element ['b'] (.leaf .lineBreak (.leaf .lineBreak .nil))
        .nil)) {}
      range := 0 }
    let g : Command := ⟨[.address ⟨.line 2, 0⟩], some .global, false, 1, "/^$/c X".toList⟩
    let s' := ((execute g).run s).2
    s.document.text.lines = [[], [], []] ∧ s'.document.text = unlines [[], [], ['X']] ∧
      s'.document.text ≠ unlines [[], ['X'], []]) ∧
    (let d : Document := .ofSurface (.ofField "a\n".toList) {}
    let s : Scene := { document := d.moveTo 0 (.collapsed 2), range := 0 }
    let g : Command := ⟨[.address ⟨.currentRange, 0⟩], some .global, false, 1, "/^$/a X".toList⟩
    let s' := ((execute g).run s).2
    s.document.text.lines = [['a'], []] ∧ s'.document.text = unlines [['a'], ['X'], []] ∧
      s'.document.text ≠ unlines [['a'], [], ['X']]) := by
  decide +kernel

end Run

end LineEditor
