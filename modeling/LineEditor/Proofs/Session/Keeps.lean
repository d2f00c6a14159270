import LineEditor.Proofs.Document.Numbers
import LineEditor.Proofs.Document.Telling
import LineEditor.Session

/-!
# What runs keep

A command reads and changes its scene in many small steps. What such steps have in common is stated
as a relation between the scene before and after: `Run.KeepsScene P m` says that `P` holds across
`m` in every scene, whether `m` succeeds or fails. Most of the theory is about the document alone;
`Run.Keeps R m` says that `R` holds between the document before and after.

Most steps touch nothing that the theory is about: they move ranges, set marks, options and
registers, or show something, and no observer is told of an edit. Such steps are *asides*. For a
`SceneFrame`, a relation that holds across asides, and across two steps if it holds across each,
what a command keeps follows from the way it is put together. Whether a global command is running is
noted in the scene too; a `StepFrame` is a relation that asides keep as long as this stays as it is.
The host may hand out a line of input and take a text to store in an aside, but it stays the kind of
host that it is: it *serves* as before.

Many asides do not even move ranges or set marks: a command looks at the scene, shows or asks
something, or remembers what it has searched for. These are *glances*, and a `GlanceFrame` is a
relation that they keep.
-/

namespace LineEditor

/-- The text, its history and its status are left alone, and numbers are given away in order. -/
structure Document.Aside (d d' : Document) : Prop where
  /-- The surface is the same. -/
  surface : d'.surface = d.surface
  /-- The history is the same. -/
  history : d'.history = d.history
  /-- The open group is the same. -/
  group : d'.group = d.group
  /-- The status is the same. -/
  status : d'.status = d.status
  /-- Ranges keep numbers of their own. -/
  apart : d.KeepsApart d'

namespace Document.Aside

variable {d d₁ d₂ d₃ : Document}

theorem refl (d : Document) : d.Aside d := ⟨rfl, rfl, rfl, rfl, .refl d⟩

theorem trans (h : d₁.Aside d₂) (h' : d₂.Aside d₃) : d₁.Aside d₃ :=
  ⟨h'.surface.trans h.surface, h'.history.trans h.history, h'.group.trans h.group,
    h'.status.trans h.status, h.apart.trans h'.apart⟩

theorem text (h : d₁.Aside d₂) : d₂.text = d₁.text := congrArg Surface.text h.surface

/-- Telling observers is an aside. -/
theorem told (d : Document) : d.Aside { d with notices := [] } :=
  ⟨rfl, rfl, rfl, rfl, .of_eq rfl rfl fun _ h ↦ h⟩

theorem moveTo (d : Document) (id : RangeId) (b : Bounds) : d.Aside (d.moveTo id b) :=
  ⟨rfl, rfl, rfl, rfl, .of_eq rfl rfl fun _ h ↦ h⟩

theorem setMark (d : Document) (name : Text) (b : Bounds) : d.Aside (d.setMark name b) :=
  ⟨rfl, rfl, rfl, rfl, d.keepsApart_setMark name b⟩

theorem settleOptions (d : Document) (o : Options) (a : Answer) :
    d.Aside (d.settleOptions o a) := by
  cases a <;> exact ⟨rfl, rfl, rfl, rfl, .of_eq rfl rfl fun _ h ↦ h⟩

end Document.Aside

/-! ## What observers are told -/

/-- What an observer is told in an event. -/
def Event.notice? : Event → Option Notice
  | .noticed n => some n
  | _ => none

/-- What observers have been told of edits. -/
def Scene.passedOn (s : Scene) : List Notice :=
  (s.trace.filterMap Event.notice?).filter Notice.isEdited

/-- What observers have been told of edits, and what they are still to be told. -/
def Scene.told (s : Scene) : List Notice := s.passedOn ++ s.document.untold

/-- What there is to be told is passed on. -/
theorem Scene.told_withDocument (s : Scene) (d : Document) :
    (s.withDocument d).told = s.passedOn ++ d.untold := by
  have hnotices : (d.notices.map Event.noticed).filterMap Event.notice? = d.notices := by
    rw [List.filterMap_map]
    exact List.filterMap_some
  have hpassed : (s.withDocument d).passedOn = s.passedOn ++ d.untold := by
    simp only [passedOn, withDocument, List.filterMap_append, hnotices, List.filter_append,
      Document.untold]
  rw [told, hpassed]
  exact List.append_nil _

/-- An aside that tells observers of no edit. -/
structure Document.Quiet (d d' : Document) : Prop where
  /-- Text, history and status are left alone. -/
  aside : d.Aside d'
  /-- The observers are the same. -/
  observers : d'.observers = d.observers
  /-- They are told of no edit. -/
  untold : d'.untold = d.untold

namespace Document.Quiet

theorem refl (d : Document) : d.Quiet d := ⟨.refl d, rfl, rfl⟩

theorem moveTo (d : Document) (id : RangeId) (b : Bounds) : d.Quiet (d.moveTo id b) :=
  ⟨.moveTo d id b, rfl, rfl⟩

theorem setMark (d : Document) (name : Text) (b : Bounds) : d.Quiet (d.setMark name b) :=
  ⟨.setMark d name b, rfl, rfl⟩

theorem settleOptions (d : Document) (o : Options) (a : Answer) :
    d.Quiet (d.settleOptions o a) := by
  cases a with
  | shown t => exact ⟨.settleOptions d o _, rfl, rfl⟩
  | assigned option value =>
    refine ⟨.settleOptions d o _, rfl, ?_⟩
    simp [Document.settleOptions, Document.untold, Notice.isEdited]

end Document.Quiet

/-- The host answers as before: it asks nobody for input if it asked nobody, and it keeps files on a
disk, or only seems to, if it did. What is on the disk may have changed. -/
structure Host.Serves (h h' : Host) : Prop where
  /-- Nobody is asked who was not asked before. -/
  input : h.input = none → h'.input = none
  /-- A disk stays a disk. -/
  storage : ∀ disk dryRun, h.storage = .disk disk dryRun → ∃ disk', h'.storage = .disk disk' dryRun

namespace Host.Serves

theorem refl (h : Host) : h.Serves h := ⟨id, fun disk _ hdisk ↦ ⟨disk, hdisk⟩⟩

theorem trans {h h' h'' : Host} (hs : h.Serves h') (hs' : h'.Serves h'') : h.Serves h'' := by
  refine ⟨hs'.input ∘ hs.input, fun disk dryRun hdisk ↦ ?_⟩
  obtain ⟨disk', hdisk'⟩ := hs.storage disk dryRun hdisk
  exact hs'.storage disk' dryRun hdisk'

/-- A storage takes what is written. -/
theorem write {h : Host} {storage : Storage} {file content : Text} {directory : Option Text}
    (hwrite : h.storage.write? file directory content = some storage) :
    h.Serves { h with storage := storage } := by
  refine ⟨id, fun disk dryRun hdisk ↦ ?_⟩
  rw [hdisk, Storage.write?] at hwrite
  split at hwrite
  · exact ⟨disk, (Option.some.inj hwrite).symm⟩
  · obtain ⟨disk', -, hstorage⟩ := Option.map_eq_some_iff.mp hwrite
    exact ⟨disk', hstorage.symm⟩

end Host.Serves

/-- Nothing happens to the text, and observers are told of no edit. -/
structure Scene.Aside (s s' : Scene) : Prop where
  /-- The text of the document, its history and its status are left alone. -/
  document : s.document.Aside s'.document
  /-- The range to work at is the same. -/
  range : s'.range = s.range
  /-- The observers are the same. -/
  observers : s'.document.observers = s.document.observers
  /-- They have been told the same. -/
  told : s'.told = s.told
  /-- The host answers as before. -/
  host : s.host.Serves s'.host

namespace Scene.Aside

variable {s s' : Scene} {d : Document}

/-- What leaves the document alone, and the trace of what its observers are told. -/
theorem of_eq (hdocument : s'.document = s.document) (hrange : s'.range = s.range)
    (htold : s'.told = s.told) (hhost : s.host.Serves s'.host) : s.Aside s' :=
  ⟨hdocument ▸ .refl _, hrange, by rw [hdocument], htold, hhost⟩

theorem refl (s : Scene) : s.Aside s := .of_eq rfl rfl rfl (.refl s.host)

theorem trans {s'' : Scene} (h : s.Aside s') (h' : s'.Aside s'') : s.Aside s'' :=
  ⟨h.document.trans h'.document, h'.range.trans h.range, h'.observers.trans h.observers,
    h'.told.trans h.told, h.host.trans h'.host⟩

theorem note (s : Scene) {e : Event} (he : e.notice? = none) : s.Aside (s.note e) := by
  refine .of_eq rfl rfl ?_ (.refl s.host)
  simp only [Scene.told, Scene.passedOn, Scene.note, List.filterMap_append, List.filterMap_cons, he,
    List.filterMap_nil, List.append_nil]

theorem withDocument (h : s.document.Quiet d) : s.Aside (s.withDocument d) := by
  refine ⟨h.aside.trans (.told d), rfl, h.observers, ?_, .refl s.host⟩
  rw [told_withDocument, h.untold]
  rfl

end Scene.Aside

/-- All that happens is that something is shown, asked or searched for. -/
structure Scene.Glance (s s' : Scene) : Prop where
  /-- The document is the same. -/
  document : s'.document = s.document
  /-- The range to work at is the same. -/
  range : s'.range = s.range
  /-- The registers are the same. -/
  registers : s'.session.registers = s.session.registers
  /-- The last substitution is the same. -/
  lastSubstitution : s'.session.lastSubstitution = s.session.lastSubstitution
  /-- A global command is running if it was. -/
  inGlobal : s'.session.inGlobal = s.session.inGlobal
  /-- Observers have been told the same. -/
  told : s'.told = s.told
  /-- The host answers as before. -/
  host : s.host.Serves s'.host

namespace Scene.Glance

variable {s s' s'' : Scene}

theorem refl (s : Scene) : s.Glance s := ⟨rfl, rfl, rfl, rfl, rfl, rfl, .refl s.host⟩

theorem trans (h : s.Glance s') (h' : s'.Glance s'') : s.Glance s'' :=
  ⟨h'.document.trans h.document, h'.range.trans h.range, h'.registers.trans h.registers,
    h'.lastSubstitution.trans h.lastSubstitution, h'.inGlobal.trans h.inGlobal,
    h'.told.trans h.told, h.host.trans h'.host⟩

theorem aside (h : s.Glance s') : s.Aside s' := .of_eq h.document h.range h.told h.host

theorem note (s : Scene) {e : Event} (he : e.notice? = none) : s.Glance (s.note e) :=
  ⟨rfl, rfl, rfl, rfl, rfl, (Scene.Aside.note s he).told, .refl s.host⟩

end Scene.Glance

/-! ## Frames -/

/-- A relation between states of a document that can be followed step by step. -/
class Frame (R : Document → Document → Prop) : Prop where
  /-- It holds across asides. -/
  aside : ∀ {d d' : Document}, d.Aside d' → R d d'
  /-- It holds across two steps if it holds across each. -/
  trans : ∀ {d₁ d₂ d₃ : Document}, R d₁ d₂ → R d₂ d₃ → R d₁ d₃

instance : Frame Document.Aside := ⟨id, Document.Aside.trans⟩

/-- A relation between scenes that can be followed glance by glance. -/
class GlanceFrame (P : Scene → Scene → Prop) : Prop where
  /-- It holds across glances. -/
  glance : ∀ {s s' : Scene}, s.Glance s' → P s s'
  /-- It holds across two steps if it holds across each. -/
  trans : ∀ {s₁ s₂ s₃ : Scene}, P s₁ s₂ → P s₂ s₃ → P s₁ s₃

/-- A relation between scenes that can be followed step by step, as long as no global command starts
or ends. -/
class StepFrame (P : Scene → Scene → Prop) : Prop where
  /-- It holds across asides that leave it at that. -/
  step : ∀ {s s' : Scene}, s.Aside s' → s'.session.inGlobal = s.session.inGlobal → P s s'
  /-- It holds across two steps if it holds across each. -/
  trans : ∀ {s₁ s₂ s₃ : Scene}, P s₁ s₂ → P s₂ s₃ → P s₁ s₃

/-- A relation between scenes that can be followed step by step. -/
class SceneFrame (P : Scene → Scene → Prop) : Prop where
  /-- It holds across asides. -/
  aside : ∀ {s s' : Scene}, s.Aside s' → P s s'
  /-- It holds across two steps if it holds across each. -/
  trans : ∀ {s₁ s₂ s₃ : Scene}, P s₁ s₂ → P s₂ s₃ → P s₁ s₃

instance {P : Scene → Scene → Prop} [StepFrame P] : GlanceFrame P :=
  ⟨fun h ↦ StepFrame.step h.aside h.inGlobal, StepFrame.trans⟩

instance : GlanceFrame Scene.Glance := ⟨id, .trans⟩

instance : SceneFrame Scene.Aside := ⟨id, .trans⟩

instance {P : Scene → Scene → Prop} [SceneFrame P] : StepFrame P :=
  ⟨fun h _ ↦ SceneFrame.aside h, SceneFrame.trans⟩

/-- A relation between the documents of two scenes. -/
abbrev Scene.On (R : Document → Document → Prop) (s s' : Scene) : Prop := R s.document s'.document

instance {R : Document → Document → Prop} [Frame R] : SceneFrame (Scene.On R) :=
  ⟨fun h ↦ Frame.aside h.document, Frame.trans⟩

/-- A relation holds across a change of the document that is quiet. -/
theorem StepFrame.quiet {P : Scene → Scene → Prop} [StepFrame P] {s : Scene} {d : Document}
    (h : s.document.Quiet d) : P s (s.withDocument d) := step (.withDocument h) rfl

namespace Run

variable {R : Document → Document → Prop} {P : Scene → Scene → Prop} {α β : Type}

/-- The relation holds between the scene before a run and after it. -/
def KeepsScene (P : Scene → Scene → Prop) (m : Run α) : Prop := ∀ s, P s (m.run s).2

/-- It holds between any two scenes of which a run leads from one to the other. -/
theorem KeepsScene.of_run {m : Run α} {s s' : Scene} {r : Except Error α} (h : KeepsScene P m)
    (hrun : m.run s = (r, s')) : P s s' := by
  have hkeeps := h s
  rwa [hrun] at hkeeps

/-- The relation holds between the document before a run and after it. -/
abbrev Keeps (R : Document → Document → Prop) (m : Run α) : Prop := KeepsScene (Scene.On R) m

theorem run_bind (m : Run α) (f : α → Run β) (s : Scene) :
    (m >>= f).run s = match m.run s with
      | (.ok a, s') => (f a).run s'
      | (.error e, s') => (.error e, s') := by
  change (ExceptT.bindCont f (m.run s).1).run (m.run s).2 = _
  rcases m.run s with ⟨⟨⟩ | ⟨⟩, s'⟩ <;> rfl

/-- Runs put together succeed if each of them does. -/
theorem run_bind_eq_ok {m : Run α} {f : α → Run β} {s s' : Scene} {b : β} :
    (m >>= f).run s = (.ok b, s') ↔
      ∃ a s₁, m.run s = (.ok a, s₁) ∧ (f a).run s₁ = (.ok b, s') := by
  rw [run_bind]
  generalize m.run s = r
  rcases r with ⟨e | a, s₁⟩
  · refine iff_of_false (fun h ↦ ?_) fun ⟨_, _, h, _⟩ ↦ ?_
    · cases h
    · cases h
  · refine ⟨fun h ↦ ⟨a, s₁, rfl, h⟩, fun ⟨_, _, hm, h⟩ ↦ ?_⟩
    cases hm
    exact h

/-- An aside behind a run leaves the document as the run has left it. -/
theorem aside_run_bind {m : Run α} {f : α → Run β} (hf : ∀ a, Keeps Document.Aside (f a))
    (s : Scene) : (m.run s).2.document.Aside ((m >>= f).run s).2.document := by
  rw [run_bind]
  rcases m.run s with ⟨e | a, s'⟩
  · exact .refl _
  · exact hf a s'

/-- A run that starts by looking at the document knows in which state it is. -/
theorem keeps_document_bind {f : Document → Run β}
    (h : ∀ s : Scene, P s ((f s.document).run s).2) : KeepsScene P (Run.document >>= f) := h

/-- So does one that starts by looking at the scene. -/
theorem keeps_get_bind {f : Scene → Run β} (h : ∀ s : Scene, P s ((f s).run s).2) :
    KeepsScene P (get >>= f) := h

theorem keeps_ite {p : Prop} [Decidable p] {m m' : Run α} (h : KeepsScene P m)
    (h' : KeepsScene P m') : KeepsScene P (if p then m else m') := by
  split
  · exact h
  · exact h'

theorem keeps_modifyDocument {f : Document → Document}
    (h : ∀ s : Scene, P s (s.withDocument (f s.document))) : KeepsScene P (modifyDocument f) := h

theorem keeps_modifyAt {f : Document → RangeId → Document}
    (h : ∀ s : Scene, P s (s.withDocument (f s.document s.range))) : KeepsScene P (modifyAt f) := h

section

variable [GlanceFrame P]

/-! ## Putting runs together -/

theorem keeps_pure (a : α) : KeepsScene P (pure a : Run α) := fun s ↦ GlanceFrame.glance (.refl s)

theorem keeps_throw (e : Error) : KeepsScene P (throw e : Run α) :=
  fun s ↦ GlanceFrame.glance (.refl s)

theorem keeps_get : KeepsScene P (get : Run Scene) := fun s ↦ GlanceFrame.glance (.refl s)

/-- From a given scene, a run is followed by another one, unless it fails. -/
theorem holds_bind {m : Run α} {f : α → Run β} {s : Scene} (hm : P s (m.run s).2)
    (hf : ∀ a, KeepsScene P (f a)) : P s ((m >>= f).run s).2 := by
  rw [run_bind]
  generalize m.run s = r at hm
  rcases r with ⟨e | a, s'⟩
  · exact hm
  · exact GlanceFrame.trans hm (hf a s')

theorem keeps_bind {m : Run α} {f : α → Run β} (hm : KeepsScene P m)
    (hf : ∀ a, KeepsScene P (f a)) : KeepsScene P (m >>= f) := fun s ↦ holds_bind (hm s) hf

/-- A run may be preceded by another one. -/
theorem keeps_guard {p : Prop} [Decidable p] {m : Run PUnit} {f : PUnit → Run β}
    (hm : KeepsScene P m) (hf : ∀ a, KeepsScene P (f a)) :
    KeepsScene P (if p then m >>= f else f ⟨⟩) := keeps_ite (keeps_bind hm hf) (hf ⟨⟩)

/-- What each run of a list keeps, all of them keep. -/
theorem keeps_forM {f : α → Run Unit} (h : ∀ a, KeepsScene P (f a)) (l : List α) :
    KeepsScene P (l.forM f) := by
  induction l with
  | nil => exact keeps_pure _
  | cons a l ih => exact keeps_bind (h a) fun _ ↦ ih

/-- What each result of a list keeps, all of them keep. -/
theorem keeps_filterMapM {f : α → Run (Option β)} (h : ∀ a, KeepsScene P (f a)) (l : List α) :
    KeepsScene P (l.filterMapM f) := by
  -- the loop carries the results found so far
  have hloop : ∀ (l : List α) (bs : List β), KeepsScene P (List.filterMapM.loop f l bs) := by
    intro l
    induction l with
    | nil => exact fun bs ↦ keeps_pure _
    | cons a l ih =>
      intro bs
      refine keeps_bind (h a) fun o ↦ ?_
      cases o with
      | none => exact ih bs
      | some b => exact ih (b :: bs)
  exact hloop l []

/-! ## Steps -/

theorem keeps_document : KeepsScene P document := fun s ↦ GlanceFrame.glance (.refl s)

theorem keeps_text : KeepsScene P text := fun s ↦ GlanceFrame.glance (.refl s)

theorem keeps_options : KeepsScene P options := fun s ↦ GlanceFrame.glance (.refl s)

theorem keeps_session : KeepsScene P session := fun s ↦ GlanceFrame.glance (.refl s)

/-- What was searched for is remembered. -/
theorem keeps_searched (pattern : Text) :
    KeepsScene P (modifySession fun s ↦ { s with lastSearch := some pattern }) :=
  fun _ ↦ GlanceFrame.glance ⟨rfl, rfl, rfl, rfl, rfl, rfl, .refl _⟩

theorem keeps_note {e : Event} (he : e.notice? = none) : KeepsScene P (note e) :=
  fun s ↦ GlanceFrame.glance (.note s he)

theorem keeps_display (t : Text) : KeepsScene P (display t) := keeps_note rfl

theorem keeps_displayLines (ls : List Text) : KeepsScene P (displayLines ls) :=
  keeps_ite (keeps_pure ()) (keeps_display _)

theorem keeps_orFail (r : Except Error α) : KeepsScene P (orFail r) := by
  cases r with
  | ok a => exact keeps_pure a
  | error e => exact keeps_throw e

theorem keeps_refuse (e : ParseError) : KeepsScene P (refuse e : Run α) := keeps_throw _

end

section

variable [StepFrame P]

theorem keeps_modifySession {f : Session → Session} (hf : ∀ s, (f s).inGlobal = s.inGlobal) :
    KeepsScene P (modifySession f) :=
  fun s ↦ StepFrame.step (.of_eq rfl rfl rfl (.refl s.host)) (hf s.session)

theorem keeps_moveToLines (first last : Nat) : KeepsScene P (moveToLines first last) :=
  keeps_modifyAt fun s ↦ StepFrame.quiet (.moveTo s.document s.range _)

theorem keeps_moveToLine (n : Nat) : KeepsScene P (moveToLine n) := keeps_moveToLines n n

theorem keeps_bookmark (name : Text) : KeepsScene P (bookmark name) :=
  keeps_modifyAt fun s ↦ StepFrame.quiet (.setMark s.document name _)

end

end Run

end LineEditor
