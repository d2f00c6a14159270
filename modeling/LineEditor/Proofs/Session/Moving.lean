import LineEditor.Proofs.Document.Moving
import LineEditor.Proofs.Session.Deleting

/-!
# Moving lines with a command

A command that moves lines finds the line to put them behind only when it is carried out, after its
range has been put on the lines to move. It fails if there is no such line, and then nothing has
happened. Otherwise the document is told to move the lines, and what is done around that makes no
difference to text and range. A move that goes nowhere is not noticed by the history.
-/

namespace LineEditor

open Text (closed unlines separator)

namespace Run

variable {c : Command} {span target : Span} {s s₁ s₂ : Scene} {tokens : List AddressToken}

/-- Once the line to put them behind is found, lines are moved. -/
theorem exists_run_move (runLine : Text → Run Unit)
    (happroach : (approach c).run s = (.ok (some (.move, span)), s₁))
    (htokens : Command.addressList c.parameter = .ok tokens)
    (htarget : (resolve tokens).run s₁.opened = (.ok (some target), s₂))
    (hfirst : 1 ≤ span.first) :
    let d := s₂.document.moveLines s.range span.first span.last target.last
    ∃ s', (executeWith runLine c).run s = (.ok (), s') ∧
      s₂.document.surface = s.document.surface ∧ d.Stays s'.document ∧
      (s.IsApart → s'.document.bounds s'.range = d.bounds s.range) ∧
      (s₂.document.Aside d → s.document.Aside s'.document) := by
  intro d
  have hglance : s₁.opened.Glance s₂ := (keeps_resolve tokens).of_run htarget
  have hrange : s₂.range = s.range :=
    hglance.range.trans ((keeps_approach (P := Scene.Aside) c).of_run happroach).range
  have hle : span.first ≤ span.last := (fits_of_approach happroach).le
  have hdispatch : (dispatch runLine .move c span).run s₁.opened = (.ok (), s₂.withDocument d) := by
    refine run_transfer_eq_ok.mpr ⟨tokens, target, s₂, htokens, htarget, ?_⟩
    rw [Nat.max_eq_left hfirst, Nat.max_eq_left hle, hrange]
    rfl
  obtain ⟨s', hrun, hmark, hafter, -⟩ := exists_run_executeWith rfl happroach hdispatch
  refine ⟨s', hrun, ?_, (Scene.stays_withDocument s₂ d).trans hafter, ?_, ?_⟩
  · rw [hglance.document]
    exact (stays_approach happroach).1.surface
  · intro hs
    have hapart : (s₂.withDocument d).IsApart := (isApart_opened hs happroach).of_run
      (keeps_dispatch runLine c span rfl rfl rfl) hdispatch
    exact (bounds_closed_bookmark hapart hmark).2.trans (congrArg d.bounds hrange)
  · intro haside
    have hfound : s₁.opened.document.Aside s₂.document := hglance.aside.document
    exact aside_executeWith happroach (hfound.trans (haside.trans (.told d))) hmark

/-- **Moving lines.** Lines of a text that ends with a separator and holds no carriage return are
moved behind a line that is found once the command has its lines. The command succeeds. The text has
the lines that stay up to that line, the ones moved, and those that stay behind it, none lost, none
there twice, exactly if their text is not misplaced; which never happens on flat surfaces. The range
is then on the lines moved. If they are to go right in front of one of themselves or behind it, the
text, its history and its status are left alone. -/
theorem moved_executeWith (runLine : Text → Run Unit) (hs : s.IsApart)
    (happroach : (approach c).run s = (.ok (some (.move, span)), s₁))
    (htokens : Command.addressList c.parameter = .ok tokens)
    (htarget : (resolve tokens).run s₁.opened = (.ok (some target), s₂))
    (hend : s.document.text.getLast? = some separator) (hreturn : '\r' ∉ s.document.text)
    (hfirst : 1 ≤ span.first) (hlast : span.last ≤ s.document.text.lineCount)
    (hbehind : target.last ≤ s.document.text.lineCount) :
    let r := (executeWith runLine c).run s
    let t := s.document.text
    let front := t.stayingTo span.first span.last target.last
    let block := t.lineRange span.first span.last
    let back := t.stayingFrom span.first span.last target.last
    let placed := s.document.PlacesMoved span.first span.last target.last
    r.1 = .ok () ∧ (front ++ block ++ back).Perm t.lines ∧
      (r.2.document.text.lines = front ++ block ++ back ↔ placed) ∧
      (placed → r.2.document.bounds r.2.range
        = ⟨(closed front).length, (closed front ++ unlines block).length⟩) ∧
      (s.document.surface.IsFlat → placed) ∧
      (span.first ≤ target.last + 1 ∧ target.last ≤ span.last →
        s.document.Aside r.2.document) := by
  intro r t front block back placed
  obtain ⟨s', hrun, hsurface, hstays, hbounds, haside⟩ :=
    exists_run_move runLine happroach htokens htarget hfirst
  have hafter : r.2 = s' := congrArg Prod.snd hrun
  have htext : s₂.document.text = s.document.text := congrArg Surface.text hsurface
  have hle : span.first ≤ span.last := (fits_of_approach happroach).le
  have hcount := t.lineCount_le_length_lines
  have hcut : t.MoveCut span.first span.last target.last front block back :=
    Text.moveCut hfirst hle (Nat.le_trans hlast hcount) (Nat.le_trans hbehind hcount)
  have hblock : '\r' ∉ t.linesText span.first span.last :=
    Text.not_mem_linesText (by decide) hreturn hfirst (Nat.le_succ_of_le hle)
  have hleft : target.last + 1 < span.first →
      unlines (t.lines.take (span.first - 1) ++ t.lines.drop span.last) ≠ [] := fun hup ↦
    Text.unlines_take_append_drop_ne_nil hend (Nat.lt_of_le_of_lt (Nat.le_add_left _ _) hup) hlast
  have hsame : t.movedLines span.first span.last target.last = block :=
    (Text.movedLines_eq_iff hcut.block_ne_nil).mpr (.inr hblock)
  have hplaced : s₂.document.PlacesMoved span.first span.last target.last ↔ placed :=
    Document.placesMoved_congr hsurface _ _ _
  have hperm := hcut.perm
  simp only [t, ← htext] at hcut hbehind hleft hsame
  rw [hafter, ← hplaced]
  refine ⟨congrArg Prod.fst hrun, hperm, ?_, ?_, ?_, ?_⟩
  · rw [hstays.text, ← hsame]
    exact Document.lines_moveLines_iff hcut hbehind hleft s.range
  · intro hplaced
    rw [hbounds hs]
    exact Document.bounds_moveLines hcut hbehind hleft hplaced hblock s.range
  · intro hflat
    rw [hplaced]
    exact Document.placesMoved_of_isReliable (Surface.isReliable_of_isFlat hflat) _ _ _
  · intro hstay
    refine haside ?_
    rw [Document.moveLines_of_stay hstay]
    exact .moveTo _ _ _

/-- Two lines go down, behind the third one. -/
theorem moved_executeWith_down :
    let s := Cli.initial {} {} [] "a\nb\nc\nd\n".toList
    let r := (execute (.onLines .move 1 2 (Text.ofNat 3))).run s
    r.1 = .ok () ∧ r.2.document.text.lines = ["c", "a", "b", "d", ""].map String.toList ∧
      r.2.document.bounds r.2.range = ⟨2, 5⟩ := by
  intro s r
  let c : Command := .onLines .move 1 2 (Text.ofNat 3)
  have happroach : (approach c).run s = (.ok (some (.move, ⟨1, 2⟩)), ((approach c).run s).2) :=
    Prod.ext (by rfl) rfl
  have htokens : Command.addressList (Text.ofNat 3) = .ok [.address ⟨.line 3, 0⟩] :=
    Command.addressList_ofNat (by decide)
  have htarget := run_resolve_number 3 ((approach c).run s).2.opened
  obtain ⟨hok, -, hlines, hbounds, hflat, -⟩ := moved_executeWith innerLine
    (Scene.isApart_initial {} {} [] "a\nb\nc\nd\n".toList) happroach htokens htarget (by decide)
    (by decide) (by decide) (by decide) (by decide +kernel)
  refine ⟨hok, (hlines.mpr (hflat trivial)).trans ?_, (hbounds (hflat trivial)).trans ?_⟩
  · decide +kernel
  · decide +kernel

/-- In front of line breaks inside an element, a line does not get to where it is to go. -/
theorem not_moved_executeWith :
    let breaks : Forest := .leaf .lineBreak (.leaf .lineBreak (.leaf .lineBreak .nil))
    let nodes : Forest := .leaf (.text ['a']) (.element ['b'] breaks .nil)
    let d := Document.ofSurface (.ofContent nodes) {}
    let r := (execute (.onLine .move 1 ['2'])).run { document := d, range := 0 }
    d.text = "a\n\n\n".toList ∧ r.2.document.text = "\n\n\na".toList ∧
      r.2.document.text.lines
        ≠ d.text.stayingTo 1 1 2 ++ d.text.lineRange 1 1 ++ d.text.stayingFrom 1 1 2 := by
  decide +kernel

end Run

end LineEditor
