import LineEditor.Proofs.Document.Edits
import LineEditor.Proofs.Surface.Selecting

/-!
# The selection through changes of the focus

What is selected is kept in one of two places. While the surface has the focus this is the surface,
and else it is the document, which waits for the focus to hand the selection over. Gaining the focus
moves it to the surface and losing the focus takes it back, so wherever it is, it can be asked for.
The one event by which it gets lost is a gain of focus shortly after a pointer was pressed: the
press has set the selection of the surface, and the one that waits is given up.

Which selection was made last, whether the surface has the focus, and when a pointer was pressed, is
all told by the events alone. They are listed the latest one first.
-/

namespace LineEditor

variable {d : Document} {b : Bounds} {now : Nat}

/-! ## Events -/

/-- What can happen to the focus of a document and to its selection. -/
inductive FocusEvent where
  /-- Bounds are selected. -/
  | select (b : Bounds)
  /-- The surface gains the focus. -/
  | gain (now : Nat)
  /-- The surface loses the focus. -/
  | lose
  /-- A pointer is pressed. -/
  | press (now : Nat)

namespace FocusEvent

variable (f : Focus)

/-- Whether the surface has the focus after events. -/
def hasFocus : List FocusEvent → Bool
  | [] => f.isFocused
  | gain _ :: _ => true
  | lose :: _ => false
  | select _ :: earlier => hasFocus earlier
  | press _ :: earlier => hasFocus earlier

/-- When a pointer was pressed last. -/
def lastPress? : List FocusEvent → Option Nat
  | [] => f.pressed
  | press now :: _ => some now
  | select _ :: earlier => lastPress? earlier
  | gain _ :: earlier => lastPress? earlier
  | lose :: earlier => lastPress? earlier

/-- What was selected last. -/
def lastSelect? : List FocusEvent → Option Bounds
  | [] => none
  | select b :: _ => some b
  | gain _ :: earlier => lastSelect? earlier
  | lose :: earlier => lastSelect? earlier
  | press _ :: earlier => lastSelect? earlier

/-- The focus is lost only by a surface that has it. -/
def LosesOnlyHad : List FocusEvent → Prop
  | [] => True
  | lose :: earlier => hasFocus f earlier ∧ LosesOnlyHad earlier
  | select _ :: earlier => LosesOnlyHad earlier
  | gain _ :: earlier => LosesOnlyHad earlier
  | press _ :: earlier => LosesOnlyHad earlier

/-- Since the last selection was made, the focus has been gained shortly after a press, while the
surface was without it and the selection had to wait. -/
def GivesUp : List FocusEvent → Prop
  | [] => False
  | select _ :: _ => False
  | gain now :: earlier =>
    (hasFocus f earlier = false ∧ ∃ t, lastPress? f earlier = some t ∧ now - t < f.window) ∨
      GivesUp earlier
  | lose :: earlier => GivesUp earlier
  | press _ :: earlier => GivesUp earlier

end FocusEvent

namespace Document

open FocusEvent (hasFocus lastPress? lastSelect? LosesOnlyHad GivesUp)

/-- The document after an event. -/
def after (d : Document) : FocusEvent → Document
  | .select b => d.select b
  | .gain now => d.gainFocus now
  | .lose => d.loseFocus
  | .press now => d.press now

/-- The document after events. -/
def afterAll (d : Document) (events : List FocusEvent) : Document :=
  events.foldr (fun e d ↦ d.after e) d

/-- A document as it comes about: put on a surface, it has been through events, and through anything
else that leaves the focus alone. -/
inductive Arises : Document → Prop
  /-- A document is put on a surface. -/
  | start (s : Surface) (config : Config) : Arises (ofSurface s config)
  /-- Something happens to the focus or the selection. -/
  | event {d : Document} (h : Arises d) (e : FocusEvent) : Arises (d.after e)
  /-- Something else happens. -/
  | other {d d' : Document} (h : Arises d) (hfocus : d'.focus = d.focus) : Arises d'

/-! ## What the events tell -/

theorem length_after (d : Document) (e : FocusEvent) : (d.after e).length = d.length := by
  cases e with
  | select b => exact congrArg List.length (d.text_select b)
  | gain now =>
    rw [after, gainFocus]
    split
    · split
      · rfl
      · exact d.surface.length_select _
    · rfl
  | lose => rfl
  | press now => rfl

theorem length_afterAll (d : Document) (events : List FocusEvent) :
    (d.afterAll events).length = d.length := by
  induction events with
  | nil => rfl
  | cons e earlier ih => exact (length_after _ e).trans ih

/-- Selecting changes no more of the focus than what waits. -/
theorem focus_select (d : Document) (b : Bounds) :
    ∃ pending, (d.select b).focus = { d.focus with pending := pending } := by
  unfold select
  split
  · exact ⟨d.focus.pending, rfl⟩
  · exact ⟨some (b.clamp d.length), rfl⟩

/-- Behind a gain of focus nothing waits. -/
theorem focus_gainFocus (d : Document) (now : Nat) :
    (d.gainFocus now).focus = { d.focus with isFocused := true, pending := none } := by
  unfold gainFocus
  split
  · split <;> rfl
  · rfl

/-- The focus is as the events say. -/
theorem focus_afterAll (d : Document) (events : List FocusEvent) :
    (d.afterAll events).focus.isFocused = hasFocus d.focus events ∧
      (d.afterAll events).focus.pressed = lastPress? d.focus events ∧
      (d.afterAll events).focus.window = d.focus.window := by
  induction events with
  | nil => exact ⟨rfl, rfl, rfl⟩
  | cons e earlier ih =>
    change ((d.afterAll earlier).after e).focus.isFocused = _ ∧
      ((d.afterAll earlier).after e).focus.pressed = _ ∧
      ((d.afterAll earlier).after e).focus.window = _
    cases e with
    | select b =>
      obtain ⟨pending, hfocus⟩ := (d.afterAll earlier).focus_select b
      rw [after, hfocus]
      exact ih
    | gain now =>
      rw [after, focus_gainFocus]
      exact ⟨rfl, ih.2⟩
    | lose => exact ⟨rfl, ih.2⟩
    | press now => exact ⟨ih.1, rfl, ih.2.2⟩

/-- Nothing waits for the focus while the surface has it. -/
def WaitsForFocus (d : Document) : Prop := d.focus.isFocused = true → d.focus.pending = none

theorem WaitsForFocus.after (h : d.WaitsForFocus) (e : FocusEvent) : (d.after e).WaitsForFocus := by
  intro hfocused
  cases e with
  | select b =>
    rw [Document.after, select] at hfocused ⊢
    split
    · next hhas => exact h hhas
    · next hhas =>
      rw [if_neg hhas] at hfocused
      exact absurd hfocused hhas
  | gain now => rw [Document.after, focus_gainFocus]
  | lose => exact absurd hfocused Bool.false_ne_true
  | press now => exact h hfocused

theorem WaitsForFocus.afterAll (h : d.WaitsForFocus) (events : List FocusEvent) :
    (d.afterAll events).WaitsForFocus := by
  induction events with
  | nil => exact h
  | cons e earlier ih => exact ih.after e

theorem Arises.waitsForFocus (h : d.Arises) : d.WaitsForFocus := by
  induction h with
  | start s config => exact fun _ ↦ rfl
  | event _ e ih => exact ih.after e
  | other _ hfocus ih =>
    unfold WaitsForFocus
    rw [hfocus]
    exact ih

/-! ## Where the selection is kept -/

/-- The selection is in its place: in the surface if it has the focus, and else in the document. -/
def Keeps (d : Document) (b : Bounds) : Prop :=
  if d.focus.isFocused then d.surface.selection = some b else d.focus.pending = some b

namespace Keeps

theorem of_focused (hfocused : d.focus.isFocused = true) (h : d.surface.selection = some b) :
    d.Keeps b := by
  rw [Keeps, if_pos hfocused]
  exact h

theorem of_unfocused (hfocused : d.focus.isFocused = false) (h : d.focus.pending = some b) :
    d.Keeps b := by
  rw [Keeps, if_neg (by rw [hfocused]; exact Bool.false_ne_true)]
  exact h

/-- A selection that is in its place is the one that is told. -/
theorem selection_eq (h : d.Keeps b) (hfits : b.clamp d.length = b) : d.selection = b := by
  unfold Keeps at h
  rw [selection]
  split at h
  · next hfocused => simp only [if_pos hfocused, h, Option.getD_some, hfits]
  · next hfocused => simp only [if_neg hfocused, h, Option.some_or, Option.getD_some, hfits]

/-- Bounds that are selected are put in the place that they belong to. -/
theorem select (d : Document) (b : Bounds) : (d.select b).Keeps (b.clamp d.length) := by
  rw [Document.select]
  split
  · next hfocused =>
    refine of_focused hfocused ?_
    rw [Surface.selection_select]
    exact congrArg some (b.clamp_clamp d.length)
  · next hfocused => exact of_unfocused (Bool.eq_false_iff.mpr hfocused) rfl

/-- A surface that loses the focus hands its selection back. -/
theorem loseFocus (h : d.Keeps b) (hfocused : d.focus.isFocused = true) :
    d.loseFocus.Keeps b := by
  rw [Keeps, if_pos hfocused] at h
  exact of_unfocused rfl h

/-- A surface that gains the focus is handed the selection, unless it is given up. One that has the
focus already has the selection, too. -/
theorem gainFocus (h : d.Keeps b) (hfits : b.clamp d.length = b) (hwaits : d.WaitsForFocus)
    (hlate : d.focus.isFocused = false → d.focus.isRecent now = false) :
    (d.gainFocus now).Keeps b := by
  have hgained : (d.gainFocus now).focus.isFocused = true := by rw [focus_gainFocus]
  refine of_focused hgained ?_
  unfold Keeps at h
  split at h
  · next hfocused =>
    rw [Document.gainFocus, hwaits hfocused]
    exact h
  · next hfocused =>
    have hrecent := hlate (Bool.eq_false_iff.mpr hfocused)
    rw [Document.gainFocus, h]
    simp only [hrecent, Bool.false_eq_true, if_false]
    rw [Surface.selection_select]
    exact congrArg some hfits

end Keeps

/-- A press is recent if the time since then is in the window. -/
theorem isRecent_eq_false_iff (f : Focus) (now : Nat) :
    f.isRecent now = false ↔ ¬ ∃ t, f.pressed = some t ∧ now - t < f.window := by
  rw [Focus.isRecent]
  cases f.pressed with
  | none => simp
  | some t => simp

/-- The last selection stays in one of the two places until it is given up. -/
theorem keeps_afterAll (hd : d.WaitsForFocus) {events : List FocusEvent}
    (hloses : LosesOnlyHad d.focus events) (hselect : lastSelect? events = some b)
    (hkept : ¬ GivesUp d.focus events) : (d.afterAll events).Keeps (b.clamp d.length) := by
  induction events with
  | nil => exact absurd hselect nofun
  | cons e earlier ih =>
    obtain ⟨hfocus, hpressed, hwindow⟩ := d.focus_afterAll earlier
    have hlength := d.length_afterAll earlier
    change ((d.afterAll earlier).after e).Keeps (b.clamp d.length)
    cases e with
    | select b' =>
      obtain rfl := Option.some.inj hselect
      rw [← hlength]
      exact .select _ b'
    | gain now =>
      have hnotUp := not_or.mp hkept
      have hfits : (b.clamp d.length).clamp (d.afterAll earlier).length = b.clamp d.length := by
        rw [hlength, Bounds.clamp_clamp]
      refine (ih hloses hselect hnotUp.2).gainFocus hfits (hd.afterAll earlier) fun hwithout ↦ ?_
      rw [isRecent_eq_false_iff, hpressed, hwindow]
      exact fun hrecent ↦ hnotUp.1 ⟨hfocus ▸ hwithout, hrecent⟩
    | lose =>
      obtain ⟨hhad, hearlier⟩ := hloses
      exact (ih hearlier hselect hkept).loseFocus (hfocus.trans hhad)
    | press now => exact ih hloses hselect hkept

/-- **The last selection is the one told.** On any surface, whenever the focus is gained and lost
and pointers are pressed, the selection of a document is the one made last, cut to the text. It does
not matter whether the surface has the focus. The exception is a selection that had to wait for the
focus when the focus was gained shortly after a press. -/
theorem selection_afterAll (hd : d.Arises) {events : List FocusEvent}
    (hloses : LosesOnlyHad d.focus events) (hselect : lastSelect? events = some b)
    (hkept : ¬ GivesUp d.focus events) : (d.afterAll events).selection = b.clamp d.length := by
  refine (keeps_afterAll hd.waitsForFocus hloses hselect hkept).selection_eq ?_
  rw [length_afterAll, Bounds.clamp_clamp]

/-- Structured content, in which inverted bounds past the end are selected without the focus. It is
gained a second after a press, pressed shortly before it is gained once more, and lost. -/
theorem selection_afterAll_content :
    let d := ofSurface (.ofContent (.leaf (.text "ab".toList) (.leaf .lineBreak .nil))) {}
    let events : List FocusEvent :=
      [.lose, .gain 1010, .press 1005, .gain 1000, .select ⟨2, 9⟩, .press 0]
    LosesOnlyHad d.focus events ∧ ¬ GivesUp d.focus events ∧
      (d.afterAll events).focus.isFocused = false ∧ (d.afterAll events).selection = ⟨2, 3⟩ := by
  intro d events
  have hloses : LosesOnlyHad d.focus events := ⟨rfl, trivial⟩
  have hkept : ¬ GivesUp d.focus events := by
    rintro (⟨hwithout, -⟩ | ⟨-, t, ht, hrecent⟩ | h)
    · exact absurd hwithout (by decide)
    · obtain rfl := Option.some.inj ht
      exact absurd hrecent (by decide)
    · exact h
  exact ⟨hloses, hkept, rfl, selection_afterAll (.start _ _) hloses rfl hkept⟩

end Document

end LineEditor
