import LineEditor.Proofs.Document.Runs
import LineEditor.Proofs.Edit.Least

/-!
# What observers are told

A document tells its observers of every edit: of those it makes, before and after, and of those that
the host has made, after. What an observer is told is enough to have the text without looking at it.
An observer that starts from the text at which it was added, and makes every edit that it hears of
when it has been made, stands at the text of the document.

The edits told are the ones that happen. Where a text is replaced by one that begins or ends alike,
the edit is less than what was asked for, and where nothing changes there is none.
-/

namespace LineEditor

namespace Notice

variable {o : Nat} {t : Text} {l l' : List Notice}

/-- The notice is about an edit. -/
def isEdited : Notice → Bool
  | edited .. => true
  | assigned .. => false

/-- The notice tells an observer of an edit. -/
def isTo (o : Nat) : Notice → Bool
  | edited observer .. => observer = o
  | assigned .. => false

/-- The edit that an observer hears of when it has been made. -/
def made? (o : Nat) : Notice → Option Edit
  | edited observer .after _ e => if observer = o then some e else none
  | edited _ .before _ _ | assigned .. => none

/-- Where an observer gets to from a text by making every edit that it hears of. -/
def follow (o : Nat) (notices : List Notice) (t : Text) : Text :=
  (notices.filterMap (made? o)).foldl (fun t e ↦ e.apply t) t

theorem follow_append : follow o (l ++ l') t = follow o l' (follow o l t) := by
  rw [follow, List.filterMap_append, List.foldl_append]
  rfl

/-! ## One edit told to everybody -/

section

variable (o : Nat) (observers : List Nat) (phase : Phase) (kind : EditKind) (e : Edit)

theorem filter_isEdited_map :
    (observers.map (edited · phase kind e)).filter isEdited
      = observers.map (edited · phase kind e) :=
  List.filter_eq_self.mpr fun n hn ↦ by
    obtain ⟨observer, -, rfl⟩ := List.mem_map.mp hn
    rfl

theorem filter_isTo_map :
    (observers.map (edited · phase kind e)).filter (isTo o)
      = List.replicate (observers.count o) (edited o phase kind e) := by
  have hisTo : isTo o ∘ (edited · phase kind e) = (· == o) := rfl
  rw [List.filter_map, hisTo, List.filter_beq, List.map_replicate]

/-- Before an edit is made there is nothing to be made yet. -/
theorem follow_map_before : follow o (observers.map (edited · .before kind e)) t = t := by
  have hnone : (observers.map (edited · .before kind e)).filterMap (made? o) = [] :=
    List.filterMap_eq_nil_iff.mpr fun n hn ↦ by
      obtain ⟨observer, -, rfl⟩ := List.mem_map.mp hn
      rfl
  rw [follow, hnone]
  rfl

variable {o observers}

/-- An observer that is told of an edit once makes it once. -/
theorem follow_map_after (ho : observers.count o = 1) :
    follow o (observers.map (edited · .after kind e)) t = e.apply t := by
  have hmade : ∀ l : List Nat, (l.map (edited · .after kind e)).filterMap (made? o)
      = List.replicate (l.count o) e := by
    intro l
    induction l with
    | nil => rfl
    | cons observer l ih =>
      rw [List.map_cons, List.filterMap_cons, ih, List.count_cons]
      by_cases h : observer = o <;> simp [h, made?, List.replicate_succ]
  rw [follow, hmade, ho]
  rfl

end

end Notice

namespace Document

variable {o : Nat} {d d' d₁ d₂ d₃ : Document} {told told' told₁ told₂ told₃ : List Notice}

/-! ## Keeping an observer posted -/

/-- From a text and what was told, one gets to another text and what has been told since, and
whoever follows gets there, too. -/
structure Posted (o : Nat) (d : Document) (told : List Notice) (d' : Document)
    (told' : List Notice) : Prop where
  /-- The surface is still flat. -/
  flat : d'.surface.IsFlat
  /-- The observers are the same. -/
  observers : d'.observers = d.observers
  /-- What has been told since leads from text to text. -/
  follow : ∃ new, told' = told ++ new ∧ Notice.follow o new d.text = d'.text

theorem Posted.trans (h : Posted o d₁ told₁ d₂ told₂) (h' : Posted o d₂ told₂ d₃ told₃) :
    Posted o d₁ told₁ d₃ told₃ := by
  obtain ⟨new, rfl, hnew⟩ := h.follow
  obtain ⟨new', rfl, hnew'⟩ := h'.follow
  refine ⟨h'.flat, h'.observers.trans h.observers, new ++ new', List.append_assoc _ _ _, ?_⟩
  rw [Notice.follow_append, hnew, hnew']

/-- Where nothing is told nothing needs to be followed. -/
theorem Posted.of_text_eq (hflat : d'.surface.IsFlat) (hobservers : d'.observers = d.observers)
    (htext : d'.text = d.text) : Posted o d told d' told :=
  ⟨hflat, hobservers, [], (List.append_nil _).symm, htext.symm⟩

/-- The edits that observers are still to be told of. -/
def untold (d : Document) : List Notice := d.notices.filter Notice.isEdited

/-- An observer that is told of every edit once is kept posted by what happens to a document. -/
def KeepsPosted (o : Nat) (d d' : Document) : Prop :=
  d.surface.IsFlat → d.observers.count o = 1 → Posted o d d.untold d' d'.untold

theorem KeepsPosted.trans (h : d₁.KeepsPosted o d₂) (h' : d₂.KeepsPosted o d₃) :
    d₁.KeepsPosted o d₃ := fun hflat ho ↦
  have hposted := h hflat ho
  hposted.trans (h' hposted.flat (hposted.observers ▸ ho))

/-- An observer is kept posted if the text and what is told stay the same. -/
theorem KeepsPosted.of_text_eq (hflat : d.surface.IsFlat → d'.surface.IsFlat)
    (hobservers : d'.observers = d.observers) (huntold : d'.untold = d.untold)
    (htext : d'.text = d.text) : d.KeepsPosted o d' := fun hd _ ↦ by
  rw [huntold]
  exact .of_text_eq (hflat hd) hobservers htext

/-- Nothing but the history, groups, ranges, marks, options, the status and the focus differ. -/
theorem KeepsPosted.of_surface_eq (hsurface : d'.surface = d.surface)
    (hobservers : d'.observers = d.observers) (huntold : d'.untold = d.untold) :
    d.KeepsPosted o d' :=
  .of_text_eq (fun hd ↦ hsurface ▸ hd) hobservers huntold (congrArg Surface.text hsurface)

theorem KeepsPosted.refl (o : Nat) (d : Document) : d.KeepsPosted o d := .of_surface_eq rfl rfl rfl

/-! ## The ways to edit -/

/-- What is told of an edit that has been made. -/
theorem notices_settle (d : Document) (kind : EditKind) (e : Edit) :
    (d.settle kind e).notices = d.notices ++ d.observers.map (.edited · .after kind e) := rfl

/-- What is told of an edit that replaces a text. -/
theorem notices_replace {start stop : Nat} {piece : Text} {kind : EditKind} {e : Edit}
    (he : (d.replace start stop piece kind).1 = some e) :
    (d.replace start stop piece kind).2.notices
      = d.notices ++ (d.observers.map (.edited · .before kind e)
        ++ d.observers.map (.edited · .after kind e)) := by
  rw [replace_of_some he, ← List.append_assoc]
  rfl

theorem keepsPosted_replace (o : Nat) (d : Document) (start stop : Nat) (piece : Text)
    (kind : EditKind) : d.KeepsPosted o (d.replace start stop piece kind).2 := by
  cases he : (d.replace start stop piece kind).1 with
  | none =>
    rw [replace_of_none he]
    exact .refl o d
  | some e =>
    intro hflat ho
    have hleads := (makes_replace hflat start stop piece kind).leads e he
    refine ⟨isFlat_replace hflat _ _ _ _, by rw [replace_of_some he]; rfl,
      d.observers.map (.edited · .before kind e) ++ d.observers.map (.edited · .after kind e),
      ?_, ?_⟩
    · rw [untold, notices_replace he, List.filter_append, List.filter_append,
        Notice.filter_isEdited_map, Notice.filter_isEdited_map]
      rfl
    · rw [Notice.follow_append, Notice.follow_map_before, Notice.follow_map_after _ _ ho,
        hleads.apply_eq]

theorem keepsPosted_absorb (o : Nat) (d : Document) {s : Surface} (hs : s.IsFlat) (kind : EditKind)
    (caret : Option Nat) : d.KeepsPosted o (d.absorb s kind caret).2 := by
  intro hflat ho
  have hmakes := d.makes_absorb s kind caret
  rw [absorb_eq] at hmakes ⊢
  cases he : (d.absorb s kind caret).1 with
  | none =>
    rw [he] at hmakes
    exact .of_text_eq hs rfl (hmakes.text_of_none rfl)
  | some e =>
    rw [he] at hmakes
    refine ⟨hs, rfl, _, ?_, (Notice.follow_map_after kind e ho).trans (hmakes.leads e rfl).apply_eq⟩
    rw [Option.elim_some, untold, notices_settle, List.filter_append, Notice.filter_isEdited_map]
    rfl

/-! ## The other operations -/

theorem keepsPosted_moveTo (o : Nat) (d : Document) (id : RangeId) (b : Bounds) :
    d.KeepsPosted o (d.moveTo id b) := .of_surface_eq rfl rfl rfl

theorem keepsPosted_openGroup (o : Nat) (d : Document) : d.KeepsPosted o d.openGroup := by
  unfold openGroup
  split <;> exact .of_surface_eq rfl rfl rfl

theorem keepsPosted_closeGroup (o : Nat) (d : Document) : d.KeepsPosted o d.closeGroup := by
  unfold closeGroup
  split <;> exact .of_surface_eq rfl rfl rfl

theorem keepsPosted_clearHistory (o : Nat) (d : Document) : d.KeepsPosted o d.clearHistory :=
  .of_surface_eq rfl rfl rfl

theorem keepsPosted_select (o : Nat) (d : Document) (b : Bounds) :
    d.KeepsPosted o (d.select b) := by
  refine .of_text_eq (fun hd ↦ isFlat_select hd b) ?_ ?_ (d.text_select b)
  all_goals
    unfold select
    split <;> rfl

/-- Whatever the history is taken to be, replaying an edit is telling of it. -/
theorem keepsPosted_replay (o : Nat) (d : Document) (history : History) (kind : EditKind)
    (e : Edit) : d.KeepsPosted o ({ d with history := history }.replay kind e).2 :=
  have hhistory : d.KeepsPosted o { d with history := history } := .of_surface_eq rfl rfl rfl
  (hhistory.trans (keepsPosted_replace o _ _ _ _ _)).trans (keepsPosted_select o _ _)

/-- A way to step through the history that keeps observers posted. -/
def StepKeepsPosted (o : Nat) (step : Document → Option (Bounds × Document)) : Prop :=
  ∀ d p, step d = some p → d.KeepsPosted o p.2

theorem stepKeepsPosted_undo? (o : Nat) : StepKeepsPosted o undo? := by
  intro d p hp
  obtain ⟨⟨r, history⟩, -, rfl⟩ := Option.map_eq_some_iff.mp hp
  exact keepsPosted_replay o d history _ _

theorem stepKeepsPosted_redo? (o : Nat) : StepKeepsPosted o redo? := by
  intro d p hp
  obtain ⟨⟨r, history⟩, -, rfl⟩ := Option.map_eq_some_iff.mp hp
  exact keepsPosted_replay o d history _ _

/-- What a step through the history keeps is kept if there is none. -/
theorem StepKeepsPosted.getD {step : Document → Option (Bounds × Document)}
    (h : StepKeepsPosted o step) (d : Document) :
    d.KeepsPosted o (((step d).map (·.2)).getD d) := by
  cases hstep : step d with
  | none => exact .refl o d
  | some p => exact h d p hstep

end Document

/-- The host leaves the surface flat. -/
def Operation.StaysFlat (op : Operation) (d : Document) : Prop :=
  match op with
  | editNative _ edit => (edit d.surface).IsFlat
  | absorb s _ _ => s.IsFlat
  | _ => True

namespace Document

variable {o : Nat} {d : Document}

/-- Whatever is done to the text of a document, an observer is kept posted. -/
theorem keepsPosted_perform (o : Nat) (d : Document) {op : Operation} (hop : op.StaysFlat d) :
    d.KeepsPosted o (op.perform d) := by
  cases op with
  | replace start stop piece kind => exact keepsPosted_replace o d _ _ _ _
  | write id piece kind indent =>
    exact (keepsPosted_replace o d _ _ _ _).trans (keepsPosted_moveTo o _ _ _)
  | editNative kind edit => exact keepsPosted_absorb o d hop _ _
  | absorb s kind caret => exact keepsPosted_absorb o d hop _ _
  | openGroup => exact keepsPosted_openGroup o d
  | closeGroup => exact keepsPosted_closeGroup o d
  | clearHistory => exact keepsPosted_clearHistory o d
  | undo => exact (stepKeepsPosted_undo? o).getD d
  | redo => exact (stepKeepsPosted_redo? o).getD d

/-! ## What is told of one edit -/

/-- What an observer is told between two states of a document. -/
def Tells (o : Nat) (d d' : Document) (l : List Notice) : Prop :=
  ∃ new, d'.notices = d.notices ++ new ∧ new.filter (Notice.isTo o) = l

/-- A document tells an observer of the edits it makes and takes over, and of nothing else. -/
structure Informs (d : Document) (o : Nat) : Prop where
  /-- Of what replaces a text it tells before and after, if it changes anything. The edit told is
  the one made, and no other way to splice the old text into the new one is shorter. -/
  replace : ∀ start stop piece kind, let d' := (d.replace start stop piece kind).2
    (d'.text = d.text ∧ d'.notices = d.notices) ∨
      (d'.text ≠ d.text ∧ ∃ e, (d.replace start stop piece kind).1 = some e ∧
        d.Tells o d' [.edited o .before kind e, .edited o .after kind e] ∧
        e.apply d.text = d'.text ∧
        ∀ f : Edit, f.apply d.text = d'.text →
          e.removed.length ≤ f.removed.length ∧ e.inserted.length ≤ f.inserted.length)
  /-- Of what the host has done it tells after, if it changed anything. -/
  absorb : ∀ s kind caret, let d' := (d.absorb s kind caret).2
    (d'.text = d.text ∧ d'.notices = d.notices) ∨
      (d'.text ≠ d.text ∧ ∃ e, (d.absorb s kind caret).1 = some e ∧
        d.Tells o d' [.edited o .after kind e] ∧ e.apply d.text = d'.text)

/-- The edit made in place of a text is reduced. -/
theorem isReduced_replace {start stop : Nat} {piece : Text} {kind : EditKind} {e : Edit}
    (he : (d.replace start stop piece kind).1 = some e) : e.IsReduced := by
  rw [fst_replace] at he
  obtain ⟨f, hf, rfl⟩ := Option.map_eq_some_iff.mp he
  exact (Edit.isReduced_of_between hf).shift _

/-- What is made of a text differs from it. -/
theorem text_replace_ne (hd : d.surface.IsFlat) {start stop : Nat} {piece : Text} {kind : EditKind}
    {e : Edit} (he : (d.replace start stop piece kind).1 = some e) :
    (d.replace start stop piece kind).2.text ≠ d.text := by
  intro heq
  have hleads := (makes_replace hd start stop piece kind).leads e he
  rw [heq] at hleads
  -- else leaving the text alone would be a shorter way
  have hnothing : (Edit.mk 0 [] []).apply d.text = d.text := rfl
  have hreduced := isReduced_replace he
  obtain ⟨hremoved, hinserted⟩ := hreduced.length_le_of_apply_eq hleads hnothing
  refine hreduced.ne ?_
  rw [List.length_eq_zero_iff.mp (Nat.le_zero.mp hremoved),
    List.length_eq_zero_iff.mp (Nat.le_zero.mp hinserted)]

/-- A document on a flat surface tells every observer of what happens to its text. -/
theorem informs (hd : d.surface.IsFlat) (ho : d.observers.count o = 1) : d.Informs o := by
  refine ⟨fun start stop piece kind ↦ ?_, fun s kind caret ↦ ?_⟩
  · cases he : (d.replace start stop piece kind).1 with
    | none =>
      rw [replace_of_none he]
      exact .inl ⟨rfl, rfl⟩
    | some e =>
      have hleads := (makes_replace hd start stop piece kind).leads e he
      refine .inr ⟨text_replace_ne hd he, e, rfl, ⟨_, notices_replace he, ?_⟩, hleads.apply_eq,
        fun f ↦ (isReduced_replace he).length_le_of_apply_eq hleads⟩
      rw [List.filter_append, Notice.filter_isTo_map, Notice.filter_isTo_map, ho]
      rfl
  · have hmakes := d.makes_absorb s kind caret
    rw [absorb_eq] at hmakes ⊢
    cases he : (d.absorb s kind caret).1 with
    | none =>
      rw [he] at hmakes
      exact .inl ⟨hmakes.text_of_none rfl, rfl⟩
    | some e =>
      rw [he] at hmakes
      have hne : s.text ≠ d.text := fun heq ↦ by
        rw [fst_absorb_eq_none_iff.mpr heq.symm] at he
        exact (Option.some_ne_none e).symm he
      refine .inr ⟨hne, e, rfl, ⟨_, notices_settle _ _ _, ?_⟩, (hmakes.leads e rfl).apply_eq⟩
      rw [Notice.filter_isTo_map, ho]
      rfl

end Document

end LineEditor
