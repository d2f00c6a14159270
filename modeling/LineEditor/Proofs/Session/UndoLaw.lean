import LineEditor.Proofs.Session.Files
import LineEditor.Proofs.Session.Tracks
import LineEditor.Proofs.Session.Turns
import LineEditor.Proofs.Session.Walking

/-!
# The law of undoing in a session

After any lines of commands, undoing until nothing is left is meant to restore the text that the
session started with. What speaks for it is that every command but `undo` and `redo` is one step of
the history: its group is recorded as one edit from the text before it to the text after it.

What speaks against it is that a global command has a group as well, and that other commands run in
this group, `undo` and `redo` among them. They step through the history while the group is open, so
that the edit recorded at its end may be put on records that lead to another text than the one it
starts from. A turn *comes back* if the records done lead to the same text in the end of it as in
the beginning; if all turns with an outermost group come back, the history stays a chain from the
initial text to the current one, and the law holds.
-/

namespace LineEditor

namespace Turn

/-- The turn has a group of its own, which is no part of another one. -/
def isOutermost (t : Turn) : Bool :=
  !t.name.walksHistory && t.before.document.group.any (·.inner = 0)

/-- Something is recorded in the history at the end of the turn. -/
def isRecorded (t : Turn) : Bool :=
  t.isOutermost && t.after.document.text ≠ t.before.document.text

/-- The records done, made one after the other from the text `x`, lead to the same text in the end
of a turn as in the beginning. -/
def ComesBack (t : Turn) (x : Text) : Prop :=
  History.replayed t.after.document.history.done.reverse x
    = History.replayed t.before.document.history.done.reverse x

/-- When the group of the turn is closed, the history is a chain from the text `x` to that of the
document. -/
def IsChained (t : Turn) (x : Text) : Prop :=
  ∃ u, t.after.closed.document.history.Chain x t.after.document.text u

end Turn

/-- How many edits are recorded in turns. -/
def recordings (ts : List Turn) : Nat := ts.countP Turn.isRecorded

/-! ## Single turns -/

namespace Turn

variable {s : Scene} {x : Turn} {g : Option Group} {t b : Text} {n m i : Nat}

theorem tracks_walk (hrun : x.IsRun) (hwalk : x.name.walksHistory = true)
    (h : x.before.document.Tracks g t n m) : x.after.document.Tracks g t n m := by
  rcases hrun.aside_of_walksHistory hwalk with hback | hforward
  · exact (h.step Document.walks_undoStep).aside hback
  · exact (h.step Document.walks_redoStep).aside hforward

theorem waits_run (hrun : x.IsRun) (hwalk : x.name.walksHistory = false)
    (hglobal : x.name.isGlobal = false) (hedit : x.name ≠ .edit) :
    x.before.document.Waits x.after.document := by
  obtain ⟨runLine, hafter⟩ := hrun
  rw [hafter]
  exact Run.waits_dispatch runLine x.command x.span hglobal hwalk hedit x.before

theorem isOutermost_of_walksHistory (h : x.name.walksHistory = true) : x.isOutermost = false := by
  rw [isOutermost, h]
  rfl

theorem isOutermost_of_inner (h : x.before.document.group = some ⟨i + 1, b⟩) :
    x.isOutermost = false := by
  rw [isOutermost, h, Bool.and_eq_false_iff]
  exact .inr rfl

theorem isSome_of_isOutermost (h : x.isOutermost) : x.before.document.group.isSome := by
  rw [isOutermost, Bool.and_eq_true] at h
  cases hg : x.before.document.group with
  | some g => rfl
  | none => rw [hg] at h; exact absurd h.2 Bool.false_ne_true

/-- In an open group a turn starts with a group inside it. -/
theorem tracks_before_inner (hbefore : x.before = s.opened)
    (hs : s.document.Tracks (some ⟨i, b⟩) t n m) :
    x.before.document.Tracks (some ⟨i + 1, b⟩) t n m :=
  hbefore ▸ hs.openGroup_inner.aside (.told _)

/-- Without an open group a turn starts with an outermost one. -/
theorem tracks_before_outermost (hbefore : x.before = s.opened)
    (hs : s.document.Tracks none t n m) :
    x.before.document.Tracks (some ⟨0, s.document.text⟩) t n m :=
  hbefore ▸ hs.openGroup_outermost.aside (.told _)

theorem isOutermost_of_outermost (hbefore : x.before = s.opened)
    (hwalk : x.name.walksHistory = false) (hs : s.document.Tracks none t n m) :
    x.isOutermost = true := by
  rw [isOutermost, (tracks_before_outermost hbefore hs).group, hwalk]
  rfl

/-- Where a turn starts with an outermost group, it comes back if the records done lead to the text
from which that group is recorded. -/
theorem comesBack_iff (hbefore : x.before = s.opened) (hs : s.document.Tracks none t n m) :
    x.ComesBack t ↔
      History.replayed x.after.document.history.done.reverse t = s.document.text := by
  have hhistory : x.before.document.history = s.document.history :=
    hbefore ▸ s.document.openGroup_spec.1
  rw [ComesBack, hhistory, hs.replayed_done]

/-- At the end of a turn with an outermost group, the records lead from the same text to that of the
document exactly if the turn comes back. -/
theorem isChained_iff (hbefore : x.before = s.opened) (hs : s.document.Tracks none t n m)
    (hafter : x.after.document.Tracks (some ⟨0, s.document.text⟩) t n m) (hroom : n < m) :
    x.IsChained t ↔ x.ComesBack t := by
  rw [comesBack_iff hbefore hs]
  constructor
  · rintro ⟨u, hc⟩
    exact hafter.replayed_of_chain_closeGroup hroom hc
  · intro hreplayed
    obtain ⟨y, u, hc, hy⟩ := (hafter.closeGroup_outermost hreplayed hroom).chain
    rw [hy rfl, Document.text, x.after.document.surface_closeGroup] at hc
    exact ⟨u, hc⟩

/-- When the outermost group of a turn that comes back is closed, the records lead from the same
text to that of the document. -/
theorem tracks_closed (hbefore : x.before = s.opened) (hwalk : x.name.walksHistory = false)
    (hs : s.document.Tracks none t n m)
    (hafter : x.after.document.Tracks (some ⟨0, s.document.text⟩) t n m)
    (hback : x.isOutermost → x.ComesBack t) (hroom : n < m) :
    x.after.closed.document.Tracks none t (n + if x.isRecorded then 1 else 0) m := by
  have houter := isOutermost_of_outermost hbefore hwalk hs
  have htext : x.before.document.text = s.document.text :=
    hbefore ▸ congrArg Surface.text s.document.openGroup_spec.2.2
  have hreplayed := (comesBack_iff hbefore hs).mp (hback houter)
  have hclosed : x.after.closed.document.Tracks none t
      (n + if x.after.document.text = s.document.text then 0 else 1) m :=
    (hafter.closeGroup_outermost hreplayed hroom).aside (.told _)
  rw [isRecorded, houter, htext, Bool.true_and]
  by_cases heq : x.after.document.text = s.document.text
  · simpa [heq] using hclosed
  · simpa [heq] using hclosed

end Turn

/-! ## Turns along a course -/

theorem recordings_append (l l' : List Turn) :
    recordings (l ++ l') = recordings l + recordings l' := List.countP_append

theorem recordings_singleton (x : Turn) : recordings [x] = if x.isRecorded then 1 else 0 := by
  rw [recordings, List.countP_singleton]

theorem recordings_eq_zero {l : List Turn} (h : ∀ x ∈ l, x.isOutermost = false) :
    recordings l = 0 := by
  rw [recordings, List.countP_eq_zero]
  intro x hx
  rw [Turn.isRecorded, h x hx, Bool.false_and]
  exact Bool.false_ne_true

namespace Course

variable {s s' : Scene} {l : List Turn} {g : Option Group} {t b : Text} {n m i : Nat}

/-- A flat surface stays flat. -/
theorem isFlat (h : Course s l s') (hedit : ∀ x ∈ l, x.name ≠ .edit)
    (hs : s.document.surface.IsFlat) : s'.document.surface.IsFlat := by
  have hopened : ∀ {s : Scene}, s.document.surface.IsFlat → s.opened.document.surface.IsFlat :=
    fun {s} hs ↦ s.document.openGroup_spec.2.2 ▸ hs
  have hclosed : ∀ {s : Scene}, s.document.surface.IsFlat → s.closed.document.surface.IsFlat :=
    fun {s} hs ↦ s.document.surface_closeGroup ▸ hs
  induction h with
  | aside h => exact h.surface ▸ hs
  | trans _ _ ih ih' =>
    obtain ⟨hedit₁, hedit₂⟩ := List.forall_mem_append.mp hedit
    exact ih' hedit₂ (ih hedit₁ hs)
  | walk hwalk hrun =>
    rcases hrun.aside_of_walksHistory hwalk with hback | hforward
    · exact hback.surface ▸ Document.walks_undoStep.isFlat_getD hs
    · exact hforward.surface ▸ Document.walks_redoStep.isFlat_getD hs
  | single hbefore hwalk hglobal hrun =>
    have hwaits := Turn.waits_run hrun hwalk hglobal (hedit _ (List.mem_singleton_self _))
    exact hclosed (hwaits.flat (hbefore ▸ hopened hs))
  | global hbefore hglobal hrun _ ih =>
    obtain ⟨hedit₁, -⟩ := List.forall_mem_append.mp hedit
    exact hclosed (ih hedit₁ (hbefore ▸ hopened hs))

/-- While a group is open, the records stay a chain from the same text, wherever it stands, and no
turn has an outermost group. -/
theorem tracks_inside (h : Course s l s') (hedit : ∀ x ∈ l, x.name ≠ .edit)
    (hs : s.document.Tracks (some ⟨i, b⟩) t n m) :
    s'.document.Tracks (some ⟨i, b⟩) t n m ∧ ∀ x ∈ l, x.isOutermost = false := by
  -- a group that is opened and closed again is inside the open one, hence any depth
  induction h generalizing i with
  | aside h => exact ⟨hs.aside h, List.forall_mem_nil _⟩
  | trans _ _ ih ih' =>
    obtain ⟨hedit₁, hedit₂⟩ := List.forall_mem_append.mp hedit
    obtain ⟨hs', hinner⟩ := ih hedit₁ hs
    obtain ⟨hs'', hinner'⟩ := ih' hedit₂ hs'
    exact ⟨hs'', List.forall_mem_append.mpr ⟨hinner, hinner'⟩⟩
  | walk hwalk hrun =>
    refine ⟨Turn.tracks_walk hrun hwalk hs, List.forall_mem_singleton.mpr ?_⟩
    exact Turn.isOutermost_of_walksHistory hwalk
  | single hbefore hwalk hglobal hrun =>
    have hopen := Turn.tracks_before_inner hbefore hs
    have hwaits := Turn.waits_run hrun hwalk hglobal (hedit _ (List.mem_singleton_self _))
    refine ⟨(hopen.waits hwaits).closeGroup_inner.aside (.told _), ?_⟩
    exact List.forall_mem_singleton.mpr (Turn.isOutermost_of_inner hopen.group)
  | global hbefore hglobal hrun _ ih =>
    obtain ⟨hedit₁, -⟩ := List.forall_mem_append.mp hedit
    have hopen := Turn.tracks_before_inner hbefore hs
    obtain ⟨hafter, hinner⟩ := ih hedit₁ hopen
    refine ⟨hafter.closeGroup_inner.aside (.told _), List.forall_mem_append.mpr ⟨hinner, ?_⟩⟩
    exact List.forall_mem_singleton.mpr (Turn.isOutermost_of_inner hopen.group)

/-- If all turns with an outermost group come back, the records stay a chain from the same text to
that of the document. -/
theorem tracks (h : Course s l s') (hedit : ∀ x ∈ l, x.name ≠ .edit)
    (hback : ∀ x ∈ l, x.isOutermost → x.ComesBack t) (hs : s.document.Tracks none t n m)
    (hroom : n + recordings l < m) : s'.document.Tracks none t (n + recordings l) m := by
  induction h generalizing n with
  | aside h => exact hs.aside h
  | @trans _ _ _ l l' _ _ ih ih' =>
    rw [recordings_append, ← Nat.add_assoc] at hroom ⊢
    obtain ⟨hedit₁, hedit₂⟩ := List.forall_mem_append.mp hedit
    obtain ⟨hback₁, hback₂⟩ := List.forall_mem_append.mp hback
    exact ih' hedit₂ hback₂ (ih hedit₁ hback₁ hs (by omega)) hroom
  | @walk x hwalk hrun =>
    have hinner : ∀ y ∈ [x], y.isOutermost = false :=
      List.forall_mem_singleton.mpr (Turn.isOutermost_of_walksHistory hwalk)
    rw [recordings_eq_zero hinner]
    exact Turn.tracks_walk hrun hwalk hs
  | @single x s hbefore hwalk hglobal hrun =>
    have hopen := Turn.tracks_before_outermost hbefore hs
    have hwaits := Turn.waits_run hrun hwalk hglobal (hedit _ (List.mem_singleton_self _))
    rw [recordings_singleton]
    exact Turn.tracks_closed hbefore hwalk hs (hopen.waits hwaits)
      (List.forall_mem_singleton.mp hback) (by omega)
  | @global x s l hbefore hglobal hrun hcourse ih =>
    -- the induction hypothesis is about scenes without an open group, so it is of no use here
    obtain ⟨hedit₁, -⟩ := List.forall_mem_append.mp hedit
    obtain ⟨-, hback₂⟩ := List.forall_mem_append.mp hback
    have hopen := Turn.tracks_before_outermost hbefore hs
    obtain ⟨hafter, hinner⟩ := hcourse.tracks_inside hedit₁ hopen
    rw [recordings_append, recordings_eq_zero hinner, Nat.zero_add, recordings_singleton]
    exact Turn.tracks_closed hbefore (CommandName.walksHistory_of_isGlobal hglobal) hs hafter
      (List.forall_mem_singleton.mp hback₂) (by omega)

/-- The turns that come back are exactly what keeps the history a chain from the same text to that of
the document. -/
theorem forall_isChained_iff (h : Course s l s') (hedit : ∀ x ∈ l, x.name ≠ .edit)
    (hs : s.document.Tracks none t n m) (hroom : n + recordings l < m) :
    (∀ x ∈ l, x.isOutermost → x.IsChained t) ↔ ∀ x ∈ l, x.isOutermost → x.ComesBack t := by
  have hvacuous : ∀ {l : List Turn}, (∀ x ∈ l, x.isOutermost = false) → ∀ p : Turn → Prop,
      ∀ x ∈ l, x.isOutermost → p x := fun h _ x hx houter ↦
    absurd houter (by rw [h x hx]; exact Bool.false_ne_true)
  induction h generalizing n with
  | aside =>
    have hnone := hvacuous (List.forall_mem_nil _)
    exact iff_of_true (hnone _) (hnone _)
  | @trans _ _ _ l l' hcourse _ ih ih' =>
    rw [recordings_append] at hroom
    obtain ⟨hedit₁, hedit₂⟩ := List.forall_mem_append.mp hedit
    have hfirst := ih hedit₁ hs (by omega)
    rw [List.forall_mem_append, List.forall_mem_append]
    refine (and_congr_left' hfirst).trans (and_congr_right fun hback ↦ ?_)
    -- the second part starts with an unbroken chain because the first one comes back
    exact ih' hedit₂ (hcourse.tracks hedit₁ hback hs (by omega)) (by omega)
  | @walk x hwalk hrun =>
    have hinner : ∀ y ∈ [x], y.isOutermost = false :=
      List.forall_mem_singleton.mpr (Turn.isOutermost_of_walksHistory hwalk)
    exact iff_of_true (hvacuous hinner _) (hvacuous hinner _)
  | @single x s hbefore hwalk hglobal hrun =>
    have hopen := Turn.tracks_before_outermost hbefore hs
    have hwaits := Turn.waits_run hrun hwalk hglobal (hedit _ (List.mem_singleton_self _))
    rw [List.forall_mem_singleton, List.forall_mem_singleton]
    exact imp_congr_right fun _ ↦
      Turn.isChained_iff hbefore hs (hopen.waits hwaits) (by omega)
  | @global x s l hbefore hglobal hrun hcourse ih =>
    obtain ⟨hedit₁, -⟩ := List.forall_mem_append.mp hedit
    have hopen := Turn.tracks_before_outermost hbefore hs
    obtain ⟨hafter, hinner⟩ := hcourse.tracks_inside hedit₁ hopen
    rw [List.forall_mem_append, List.forall_mem_append, List.forall_mem_singleton,
      List.forall_mem_singleton]
    refine and_congr (iff_of_true (hvacuous hinner _) (hvacuous hinner _)) ?_
    exact imp_congr_right fun _ ↦ Turn.isChained_iff hbefore hs hafter (by omega)

/-! ## Stepping through the history outside groups only -/

/-- Opening a group in an open one leaves the history alone. -/
theorem openGroup_inner (hs : s.document.group = some ⟨i, b⟩) :
    s.opened.document.history = s.document.history ∧
      s.opened.document.group = some ⟨i + 1, b⟩ := by
  refine ⟨s.document.openGroup_spec.1, ?_⟩
  change s.document.openGroup.group = _
  unfold Document.openGroup
  rw [hs]

/-- Closing a group in an open one leaves the history alone. -/
theorem closeGroup_inner (hs : s.document.group = some ⟨i + 1, b⟩) :
    s.closed.document.history = s.document.history ∧ s.closed.document.group = some ⟨i, b⟩ := by
  change s.document.closeGroup.history = _ ∧ s.document.closeGroup.group = _
  unfold Document.closeGroup
  rw [hs]
  exact ⟨rfl, rfl⟩

/-- While a group is open and no command in it steps through the history, that is left alone. -/
theorem history_inside (h : Course s l s') (hedit : ∀ x ∈ l, x.name ≠ .edit)
    (hwalk : ∀ x ∈ l, x.name.walksHistory → x.before.document.group = none)
    (hs : s.document.group = some ⟨i, b⟩) :
    s'.document.history = s.document.history ∧ s'.document.group = some ⟨i, b⟩ := by
  induction h generalizing i with
  | aside h => exact ⟨h.history, h.group.trans hs⟩
  | trans _ _ ih ih' =>
    obtain ⟨hedit₁, hedit₂⟩ := List.forall_mem_append.mp hedit
    obtain ⟨hwalk₁, hwalk₂⟩ := List.forall_mem_append.mp hwalk
    obtain ⟨hhistory, hs'⟩ := ih hedit₁ hwalk₁ hs
    obtain ⟨hhistory', hs''⟩ := ih' hedit₂ hwalk₂ hs'
    exact ⟨hhistory'.trans hhistory, hs''⟩
  | walk hwalks hrun =>
    have hnone := List.forall_mem_singleton.mp hwalk hwalks
    exact absurd (hs.symm.trans hnone) nofun
  | single hbefore hwalks hglobal hrun =>
    have hwaits := Turn.waits_run hrun hwalks hglobal (hedit _ (List.mem_singleton_self _))
    rw [hbefore] at hwaits
    obtain ⟨hhistory, hgroup⟩ := openGroup_inner hs
    obtain ⟨hhistory', hgroup'⟩ := closeGroup_inner (hwaits.group.trans hgroup)
    have hsame := hwaits.history (Option.isSome_iff_exists.mpr ⟨_, hgroup⟩)
    exact ⟨hhistory'.trans (hsame.trans hhistory), hgroup'⟩
  | global hbefore hglobal hrun _ ih =>
    obtain ⟨hedit₁, -⟩ := List.forall_mem_append.mp hedit
    obtain ⟨hwalk₁, -⟩ := List.forall_mem_append.mp hwalk
    obtain ⟨hhistory, hgroup⟩ := openGroup_inner hs
    obtain ⟨hsame, hgroup'⟩ := ih hedit₁ hwalk₁ (hbefore ▸ hgroup)
    obtain ⟨hhistory', hclosed⟩ := closeGroup_inner hgroup'
    rw [hbefore] at hsame
    exact ⟨hhistory'.trans (hsame.trans hhistory), hclosed⟩

/-- If no command in an open group steps through the history, all turns come back. -/
theorem comesBack (h : Course s l s') (hedit : ∀ x ∈ l, x.name ≠ .edit)
    (hwalk : ∀ x ∈ l, x.name.walksHistory → x.before.document.group = none) :
    ∀ x ∈ l, x.isOutermost → x.ComesBack t := by
  induction h with
  | aside => exact List.forall_mem_nil _
  | trans _ _ ih ih' =>
    obtain ⟨hedit₁, hedit₂⟩ := List.forall_mem_append.mp hedit
    obtain ⟨hwalk₁, hwalk₂⟩ := List.forall_mem_append.mp hwalk
    exact List.forall_mem_append.mpr ⟨ih hedit₁ hwalk₁, ih' hedit₂ hwalk₂⟩
  | walk hwalks hrun =>
    refine List.forall_mem_singleton.mpr fun houter ↦ ?_
    rw [Turn.isOutermost_of_walksHistory hwalks] at houter
    exact absurd houter Bool.false_ne_true
  | single hbefore hwalks hglobal hrun =>
    refine List.forall_mem_singleton.mpr fun houter ↦ ?_
    have hwaits := Turn.waits_run hrun hwalks hglobal (hedit _ (List.mem_singleton_self _))
    rw [Turn.ComesBack, hwaits.history (Turn.isSome_of_isOutermost houter)]
  | global hbefore hglobal hrun hcourse ih =>
    obtain ⟨hedit₁, -⟩ := List.forall_mem_append.mp hedit
    obtain ⟨hwalk₁, -⟩ := List.forall_mem_append.mp hwalk
    refine List.forall_mem_append.mpr ⟨ih hedit₁ hwalk₁, List.forall_mem_singleton.mpr ?_⟩
    intro houter
    obtain ⟨⟨i, b⟩, hopen⟩ := Option.isSome_iff_exists.mp (Turn.isSome_of_isOutermost houter)
    rw [Turn.ComesBack, (hcourse.history_inside hedit₁ hwalk₁ hopen).1]

end Course

/-! ## The law -/

theorem Document.tracks_ofSurface {s : Surface} (hs : s.IsFlat) (c : Config) :
    (ofSurface s c).Tracks none s.text 0 (max c.historyDepth 1) :=
  ⟨hs, rfl, ⟨s.text, s.text, .ofCapacity _ _, fun _ ↦ rfl⟩, Nat.le_refl 0, rfl⟩

namespace Scene

/-- **The law of undoing.** A session starts on a field with the text `t`, loads no other text and
records fewer edits than the history may keep. Then undoing until nothing is left restores `t`, and
redoing restores the text of now, exactly if the records done lead from the text of now to `t` and
back. They do if all turns with an outermost group come back, which is what keeps the history a
chain from `t` at the end of each; so they do if no command in an open group steps through the
history. -/
theorem restores_performAll {s : Scene} {t : Text} {c : Config}
    (hs : s.document = .ofSurface (.ofField t) c) {lines : List Text}
    (hedit : ∀ x ∈ s.turns lines, x.name ≠ .edit)
    (hroom : recordings (s.turns lines) < max c.historyDepth 1) :
    let s' := s.performAll lines
    (s'.Restores t ↔
      History.rewound s'.document.history.done s'.document.text = t ∧
        (s'.document.history.undone = [] →
          History.replayed s'.document.history.done.reverse t = s'.document.text)) ∧
    ((∀ x ∈ s.turns lines, x.isOutermost → x.IsChained t) ↔
      ∀ x ∈ s.turns lines, x.isOutermost → x.ComesBack t) ∧
    ((∀ x ∈ s.turns lines, x.isOutermost → x.ComesBack t) → s'.Restores t) ∧
    ((∀ x ∈ s.turns lines, x.name.walksHistory → x.before.document.group = none) →
      s'.Restores t) := by
  intro s'
  have hcourse := s.course_performAll lines
  have hstart : s.document.Tracks none t 0 (max c.historyDepth 1) :=
    hs ▸ Document.tracks_ofSurface (Surface.isFlat_ofField t) c
  have hroom' : 0 + recordings (s.turns lines) < max c.historyDepth 1 := by rwa [Nat.zero_add]
  have hback : (∀ x ∈ s.turns lines, x.isOutermost → x.ComesBack t) → s'.Restores t := by
    intro hback
    have htracks := hcourse.tracks hedit hback hstart hroom'
    obtain ⟨x, u, hc, hx⟩ := htracks.chain
    exact restores_of_chain htracks.flat (hx rfl ▸ hc)
  exact ⟨restores_iff (hcourse.isFlat hedit hstart.flat),
    hcourse.forall_isChained_iff hedit hstart hroom', hback, fun hwalk ↦ hback (hcourse.comesBack hedit hwalk)⟩

/-- After a substitution, a global command that makes another one, and a step back. -/
theorem restores_performAll_of_global :
    let s : Scene := { document := .ofSurface (.ofField "a\nb".toList) {}, range := 0 }
    let lines := ["s/a/b/".toList, "g/b/s//c/".toList, "undo".toList, "2d".toList]
    (s.performAll lines).document.text = "b".toList ∧ recordings (s.turns lines) = 3 ∧
      (s.performAll lines).Restores "a\nb".toList :=
  ⟨by decide +kernel, by decide +kernel,
    (restores_performAll rfl (by decide +kernel) (by decide +kernel)).2.2.2 (by decide +kernel)⟩

/-- After a substitution is taken back in a global command, which records that as an edit, undoing
does not restore the initial text. -/
theorem not_restores_of_undo_in_global :
    let s : Scene := { document := .ofSurface (.ofField "a".toList) {}, range := 0 }
    let lines := ["s/a/b/".toList, "g/b/undo".toList]
    (∀ x ∈ s.turns lines, x.name ≠ .edit) ∧ recordings (s.turns lines) = 2 ∧
      ¬ (s.performAll lines).Restores "a".toList := by
  intro s lines
  have hedit : ∀ x ∈ s.turns lines, x.name ≠ .edit := by decide +kernel
  refine ⟨hedit, by decide +kernel, ?_⟩
  rw [restores_iff ((s.course_performAll lines).isFlat hedit trivial)]
  decide +kernel

end Scene

end LineEditor
