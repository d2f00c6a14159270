import LineEditor.Cli
import LineEditor.Proofs.Session.Lines

/-!
# Ranges with numbers of their own, in scenes

Commands work at one range of the document, and they set marks around everything they do. Whatever
commands are run, the range stays the same one and no mark gets its number. So a mark never takes
the range away from under a command.
-/

namespace LineEditor

/-- Commands let ranges keep numbers of their own by the way they edit. -/
theorem Document.Edited.keepsApart {d d' : Document} (h : d.Edited d') : d.KeepsApart d' := by
  induction h with
  | quiet h => exact h.aside.apart
  | replace d start stop piece kind => exact keepsApart_replace d start stop piece kind
  | trans _ _ ih ih' => exact ih.trans ih'

/-- So they do by all the ways in which they handle documents. -/
theorem Document.Handled.keepsApart {d d' : Document} (h : d.Handled d') : d.KeepsApart d' := by
  induction h with
  | edited h => exact h.keepsApart
  | setStatus d status => exact .of_eq rfl rfl fun _ h ↦ h
  | clearHistory d => exact .of_eq rfl rfl fun _ h ↦ h
  | openGroup d => exact keepsApart_openGroup d
  | closeGroup d => exact keepsApart_closeGroup d
  | undo h => exact keepsApart_undo? h
  | redo h => exact keepsApart_redo? h
  | trans _ _ ih ih' => exact ih.trans ih'

namespace Scene

variable {s : Scene}

/-- The range to work at has a number of its own. -/
def IsApart (s : Scene) : Prop := s.document.IsApart s.range

/-- So has every mark. -/
structure IsNumbered (s : Scene) : Prop where
  /-- No mark has the number of the range to work at. -/
  range : s.IsApart
  /-- No two marks have the same number. -/
  document : s.document.IsNumbered

/-- The range stays the same, and keeps a number of its own. -/
structure KeepsApart (s s' : Scene) : Prop where
  /-- The range to work at is the same. -/
  range : s'.range = s.range
  /-- Ranges keep numbers of their own. -/
  document : s.document.KeepsApart s'.document

instance : SceneFrame KeepsApart :=
  ⟨fun h ↦ ⟨h.range, h.document.apart⟩,
    fun h h' ↦ ⟨h'.range.trans h.range, h.document.trans h'.document⟩⟩

instance : LineFrame KeepsApart := ⟨fun h ↦ ⟨rfl, h.keepsApart.trans (.of_eq rfl rfl fun _ h ↦ h)⟩⟩

theorem KeepsApart.isApart {s' : Scene} (h : s.KeepsApart s') (hs : s.IsApart) : s'.IsApart := by
  rw [IsApart, h.range]
  exact h.document.apart s.range hs

theorem KeepsApart.isNumbered {s' : Scene} (h : s.KeepsApart s') (hs : s.IsNumbered) :
    s'.IsNumbered := ⟨h.isApart hs.range, h.document.numbered hs.document⟩

/-- After a run that keeps numbers apart, the range has one of its own. -/
theorem IsApart.of_run {α : Type} {m : Run α} {r : Except Error α} {s' : Scene} (hs : s.IsApart)
    (hm : Run.KeepsScene KeepsApart m) (h : m.run s = (r, s')) : s'.IsApart :=
  (hm.of_run h).isApart hs

/-- Whatever lines of commands are run, the range keeps a number of its own. -/
theorem isApart_performAll (hs : s.IsApart) (lines : List Text) :
    (Cli.performAll s lines).2.IsApart :=
  (holds_performAll (P := KeepsApart) s lines).isApart hs

/-- And so do the marks. -/
theorem isNumbered_performAll (hs : s.IsNumbered) (lines : List Text) :
    (Cli.performAll s lines).2.IsNumbered :=
  (holds_performAll (P := KeepsApart) s lines).isNumbered hs

/-- The program starts with a range that has one. -/
theorem isApart_initial (a : Cli.Arguments) (c : Config) (disk : Disk) (t : Text) :
    (Cli.initial a c disk t).IsApart := by
  unfold Cli.initial
  cases a.file with
  | none => exact ⟨Nat.zero_lt_one, nofun, nofun⟩
  | some file => exact ⟨Nat.zero_lt_one, nofun, nofun⟩

/-- It starts without marks. -/
theorem isNumbered_initial (a : Cli.Arguments) (c : Config) (disk : Disk) (t : Text) :
    (Cli.initial a c disk t).IsNumbered := by
  refine ⟨isApart_initial a c disk t, ?_⟩
  unfold Cli.initial
  cases a.file with
  | none => exact ⟨nofun, nofun, nofun⟩
  | some file => exact ⟨nofun, nofun, nofun⟩

end Scene

end LineEditor
