import LineEditor.Proofs.Options
import LineEditor.Session.Listing

/-!
# Calls to options in a scene

A call about options runs in a scene like any other command: it may be refused, it may show
something, or it sets an option, of which everybody who wants to know is told at once. In a scene
whose document has just been opened all options are well kept, since the settings it starts with
are made by calls as well, and calls keep them so. The patterns of paragraphs and sections can
therefore be read as such at any time.
-/

namespace LineEditor

variable {s : Scene} {n : Nat}

/-! ## Paragraphs and sections -/

namespace Bounds

variable {setting : Setting}

theorem named_paragraph (setting : Setting) (b : Bounds) (args : List BoundsArgument) :
    named setting b "paragraph".toList args =
      extendToPattern setting.text setting.options.paragraphs args b := by
  cases args <;> rfl

theorem named_section (setting : Setting) (b : Bounds) (args : List BoundsArgument) :
    named setting b "section".toList args =
      extendToPattern setting.text setting.options.sections args b := by
  cases args <;> rfl

theorem exists_extendToPattern {source : Text} (h : Options.isPattern source) (t : Text)
    (args : List BoundsArgument) (b : Bounds) :
    ∃ b', extendToPattern t source args b = .ok b' := by
  obtain ⟨m, hm⟩ := Option.isSome_iff_exists.mp h
  simp [extendToPattern, hm]

/-- With well-kept options the paragraph around any bounds can be told. -/
theorem exists_named_paragraph (h : setting.options.IsWellKept) (b : Bounds)
    (args : List BoundsArgument) : ∃ b', named setting b "paragraph".toList args = .ok b' := by
  rw [named_paragraph]
  exact exists_extendToPattern (h .paragraphs) setting.text args b

/-- With well-kept options the section around any bounds can be told. -/
theorem exists_named_section (h : setting.options.IsWellKept) (b : Bounds)
    (args : List BoundsArgument) : ∃ b', named setting b "section".toList args = .ok b' := by
  rw [named_section]
  exact exists_extendToPattern (h .sections) setting.text args b

end Bounds

/-! ## Calls -/

namespace Run

variable {r : Options → Except OptionError (Options × Answer)} {o : Options}

theorem run_document_bind {β : Type} (f : Document → Run β) (s : Scene) :
    (document >>= f).run s = (f s.document).run s := rfl

/-- A request that is refused leaves the scene as it is. -/
theorem run_request_of_error {e : OptionError} (h : r s.document.options = .error e) :
    (request r).run s = (.error (.option e), s) := by
  have hrequest : s.document.request r = .error e := by rw [Document.request, h]; rfl
  rw [request, run_document_bind, hrequest]
  rfl

/-- A request that shows something is settled, and what it shows is answered. -/
theorem run_request_of_shown {t : Text} (h : r s.document.options = .ok (o, .shown t)) :
    (request r).run s =
      (.ok (some t), s.withDocument (s.document.settleOptions o (.shown t))) := by
  have hrequest : s.document.request r =
      .ok (some t, s.document.settleOptions o (.shown t)) := by rw [Document.request, h]; rfl
  rw [request, run_document_bind, hrequest]
  rfl

/-- A request that sets an option is settled and answered with nothing. -/
theorem run_request_of_assigned {option : OptionName} {value : OptionValue}
    (h : r s.document.options = .ok (o, .assigned option value)) :
    (request r).run s =
      (.ok none, s.withDocument (s.document.settleOptions o (.assigned option value))) := by
  have hrequest : s.document.request r =
      .ok (none, s.document.settleOptions o (.assigned option value)) := by
    rw [Document.request, h]; rfl
  rw [request, run_document_bind, hrequest]
  rfl

end Run

namespace Scene

/-- The scene with a document that has just been put on a surface; of assignments to its options
`n` observers are told. -/
def opening (s : Scene) (surface : Surface) (config : Config) (n : Nat) : Scene :=
  { s with document := { Document.ofSurface surface config with optionObservers := n } }

/-- The scene after calls, one after the other. -/
def afterCalls (s : Scene) (calls : List OptionCall) : Scene :=
  calls.foldl (fun s call ↦ ((Run.request call.request).run s).2) s

/-- What a call may come to in a scene where `n` observers are told of assignments. If it is refused
or shows something, nothing changes. Otherwise the one option that it names has a value, all others
have kept theirs, and each observer has been told of the value once. -/
def Settles (call : OptionCall) (n : Nat) (s : Scene) : Except Error (Option Text) × Scene → Prop
  | (.error _, s') => s' = s
  | (.ok (some _), s') => s' = s
  | (.ok none, s') =>
    ∃ option, call.Names option ∧ (∀ other, call.Names other → other = option) ∧
      (∀ other, other ≠ option →
        s'.document.options.get other = s.document.options.get other) ∧
      s' =
        { s with
          document := { s.document with options := s'.document.options }
          trace := s.trace ++ List.replicate n
            (.noticed (.assigned option (s'.document.options.get option))) }

/-- The options of a document are well kept, and `n` observers have been told of all that was
assigned to them. -/
structure KeepsOptions (n : Nat) (s : Scene) : Prop where
  /-- The options are well kept. -/
  isWellKept : s.document.options.IsWellKept
  /-- There are as many observers. -/
  observers : s.document.optionObservers = n
  /-- They have been told. -/
  told : s.document.notices = []

/-- Showing something of the options changes nothing. -/
theorem withDocument_shown (h : s.document.notices = []) (t : Text) :
    s.withDocument (s.document.settleOptions s.document.options (.shown t)) = s := by
  have hsame : s.document.settleOptions s.document.options (.shown t) = s.document := rfl
  rw [hsame, withDocument, h, List.map_nil, List.append_nil, ← h]

/-- An assignment changes the options, and its observers are told of it. -/
theorem withDocument_assigned (h : s.document.notices = []) (o : Options) (option : OptionName)
    (value : OptionValue) :
    s.withDocument (s.document.settleOptions o (.assigned option value)) =
      { s with
        document := { s.document with options := o }
        trace := s.trace ++
          List.replicate s.document.optionObservers (.noticed (.assigned option value)) } := by
  simp only [withDocument, Document.settleOptions, h, List.nil_append, List.map_replicate]

theorem keepsOptions_opening (s : Scene) (surface : Surface) (config : Config) (n : Nat) :
    KeepsOptions n (s.opening surface config n) :=
  ⟨config.options.isWellKept_seed Options.isWellKept_default, rfl, rfl⟩

/-- A call settles, and options stay well kept. -/
theorem KeepsOptions.settles (h : KeepsOptions n s) (call : OptionCall) :
    s.Settles call n ((Run.request call.request).run s) ∧
      KeepsOptions n ((Run.request call.request).run s).2 := by
  obtain ⟨hkept, hobservers, htold⟩ := h
  cases hrequest : call.request s.document.options with
  | error e =>
    rw [Run.run_request_of_error hrequest]
    exact ⟨rfl, hkept, hobservers, htold⟩
  | ok answer =>
    obtain ⟨o', a⟩ := answer
    rcases OptionCall.request_cases hrequest with ⟨rfl, t, rfl⟩ | ⟨option, hnames, value, hset, rfl⟩
    · rw [Run.run_request_of_shown hrequest, withDocument_shown htold]
      exact ⟨rfl, hkept, hobservers, htold⟩
    · rw [Run.run_request_of_assigned hrequest, withDocument_assigned htold, hobservers,
        ← Options.get_of_set hset]
      exact ⟨⟨option, hnames, fun _ ↦ hnames.unique, fun _ ↦ Options.get_of_set_of_ne hset, rfl⟩,
        hkept.set hset, hobservers, htold⟩

/-- Calls keep options well kept. -/
theorem KeepsOptions.afterCalls (h : KeepsOptions n s) (calls : List OptionCall) :
    KeepsOptions n (s.afterCalls calls) := by
  induction calls generalizing s with
  | nil => exact h
  | cons call calls ih => exact ih (h.settles call).2

/-- A value that the kind of an option admits can be set, and then it is the value of the option. -/
theorem exists_run_set {option : OptionName} {value : OptionValue}
    (h : option.kind.Admits value) (s : Scene) :
    ∃ s', (Run.request (OptionCall.set option value).request).run s = (.ok none, s') ∧
      s'.document.options.get option = value := by
  obtain ⟨o', hset⟩ := (Options.exists_set_iff s.document.options option value).mpr h
  have hrequest : (OptionCall.set option value).request s.document.options =
      .ok (o', .assigned option value) := by
    rw [OptionCall.request, Options.assign, hset]
    rfl
  exact ⟨_, Run.run_request_of_assigned hrequest, Options.get_of_set hset⟩

/-- **Options are kept well.** Whatever settings a document starts with and whatever calls are made,
its options have values of their kinds, and so the paragraph and the section around any bounds can
be told. A further call changes nothing if it is refused or shows something. Otherwise it sets the
one option that it names, and each observer is told of the value once. No value that the kind of an
option admits is refused. -/
theorem options_kept (s : Scene) (surface : Surface) (config : Config) (n : Nat)
    (calls : List OptionCall) :
    let s' := (s.opening surface config n).afterCalls calls
    (∀ option : OptionName, option.kind.Admits (s'.document.options.get option)) ∧
      (∀ b args,
        (∃ b', Bounds.named s'.document.setting b "paragraph".toList args = .ok b') ∧
          ∃ b', Bounds.named s'.document.setting b "section".toList args = .ok b') ∧
      (∀ call : OptionCall, s'.Settles call n ((Run.request call.request).run s')) ∧
      ∀ (option : OptionName) (value : OptionValue), option.kind.Admits value →
        ∃ s'', (Run.request (OptionCall.set option value).request).run s' = (.ok none, s'') ∧
          s''.document.options.get option = value := by
  intro s'
  have hkeeps : KeepsOptions n s' := (keepsOptions_opening s surface config n).afterCalls calls
  exact ⟨hkeeps.isWellKept, fun b args ↦ ⟨Bounds.exists_named_paragraph hkeeps.isWellKept b args,
    Bounds.exists_named_section hkeeps.isWellKept b args⟩, fun call ↦ (hkeeps.settles call).1,
    fun _ _ hadmits ↦ exists_run_set hadmits s'⟩

end Scene
end LineEditor
