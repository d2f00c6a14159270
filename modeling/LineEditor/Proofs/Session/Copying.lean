import LineEditor.Proofs.Command.Numbered
import LineEditor.Proofs.Session.Covering
import LineEditor.Proofs.Session.Files

/-!
# Three ways to copy lines

Lines can be copied with one command. They can be yanked and put, and they can be written to a file
and read from it. On their way they take a different form each time: the text of the lines; that
text with a separator behind it, in a register; and in a file with a separator behind it as well,
unless it is the whole text, which is written just as it is. All of these mean the same lines. What
inserting lines does depends on nothing but the surface, so the three ways lead to the same text and
the same range.
-/

namespace LineEditor

open Text (separator)

/-! ## The forms that lines take -/

namespace Text

/-- The separator that was put behind a text is left out again. -/
theorem getD_dropFinal?_append (t : Text) :
    ((t ++ [separator]).dropFinal? separator).getD (t ++ [separator]) = t := by
  simp [dropFinal?]

/-- The lines that are counted make up the text without a separator at its end. -/
theorem linesText_lineCount (t : Text) :
    t.linesText 1 t.lineCount = (t.dropFinal? separator).getD t := by
  obtain ⟨xs, l, hlines⟩ := exists_lines_eq t
  by_cases hlast : t.getLast? = some separator
  · -- the piece behind the last separator is not counted
    obtain ⟨hxs, rfl⟩ := (getLast?_eq_separator_iff hlines).mp hlast
    have hpos : 1 ≤ xs.length := List.length_pos_iff.mpr hxs
    have hcount : t.lineCount = xs.length := by
      rw [lineCount_of_lines_eq hlines, if_pos rfl, Nat.add_zero, Nat.max_eq_left hpos]
    have hrange : t.lineRange 1 t.lineCount = xs := by
      have hcut : t.lines = [] ++ xs ++ [[]] := hlines
      have h := lineRange_of_lines_eq hcut
      rwa [List.length_nil, Nat.zero_add, Nat.zero_add, ← hcount] at h
    have ht : t = unlines xs ++ [separator] := by
      rw [eq_of_lines_eq hlines (List.cons_ne_nil [] []), closed_eq hxs]
      exact List.append_nil _
    rw [linesText, hrange, ht, getD_dropFinal?_append]
  · have hcount : t.lineCount = t.lines.length := by
      rw [lineCount_of_lines_eq hlines, hlines, List.length_append, List.length_singleton]
      split
      · next hl =>
        have hxs : xs = [] := Decidable.byContradiction fun hxs ↦
          hlast ((getLast?_eq_separator_iff hlines).mpr ⟨hxs, hl⟩)
        rw [hxs]
        rfl
      · exact Nat.max_eq_left (Nat.le_add_left 1 _)
    have hrange : t.lineRange 1 t.lineCount = t.lines := by
      have hcut : t.lines = [] ++ t.lines ++ [] := (List.append_nil t.lines).symm
      have h := lineRange_of_lines_eq hcut
      rwa [List.length_nil, Nat.zero_add, Nat.zero_add, ← hcount] at h
    rw [linesText, hrange, unlines_lines, dropFinal?, if_neg hlast]
    rfl

end Text

/-- Lines that are written and read are the same lines. -/
theorem Run.getD_dropFinal?_writtenText {t : Text} {span : Span} (hfirst : 1 ≤ span.first)
    (hlast : span.last ≤ t.lineCount) :
    ((writtenText t span).dropFinal? separator).getD (writtenText t span)
      = t.linesText span.first span.last := by
  unfold writtenText
  split
  · next hwhole =>
    rw [Nat.le_antisymm hwhole.1 hfirst, Nat.le_antisymm hlast hwhole.2, Text.linesText_lineCount]
  · exact Text.getD_dropFinal?_append _

namespace Storage

/-- Whatever is written under a name is read under it. -/
def Returns (storage : Storage) (name : Text) (directory : Option Text) : Prop :=
  ∀ content, ∃ storage', storage.write? name directory content = some storage' ∧
    storage'.read? name directory = some content

theorem returns_shelf (texts : Table Text Text) (name : Text) (directory : Option Text) :
    (shelf texts false).Returns name directory := by
  intro content
  have hwrite : (shelf texts false).write? name directory content = some _ := rfl
  exact ⟨_, hwrite, read?_shelf_of_write? hwrite⟩

end Storage

/-! ## What inserting depends on -/

namespace Document

variable {d d' : Document}

theorem surface_write_congr (h : d'.surface = d.surface) {id id' : RangeId}
    (hbounds : d'.bounds id' = d.bounds id) (piece : Text) (kind : EditKind) (indent : Text) :
    (d'.write id' piece kind indent).2.surface = (d.write id piece kind indent).2.surface := by
  have htext : d'.text = d.text := congrArg Surface.text h
  simp only [write, hbounds, htext]
  exact surface_replace_congr h _ _ _ _

/-- Inserting lines does the same to documents with the same surface. -/
theorem surface_insertLines_congr (h : d'.surface = d.surface) (id id' : RangeId) (n : Nat)
    (body indent : Text) :
    (d'.insertLines id' n body indent).surface = (d.insertLines id n body indent).surface := by
  have htext : d'.text = d.text := congrArg Surface.text h
  have hmoved : ∀ b : Bounds, (d'.moveTo id' b).bounds id' = (d.moveTo id b).bounds id := by
    intro b
    have hlength : d'.surface.length = d.surface.length := congrArg Surface.length h
    rw [bounds, bounds, moveTo, moveTo, Ranges.get_put, Ranges.get_put]
    exact congrArg b.clamp hlength
  unfold insertLines
  rw [htext]
  extract_lets t after
  generalize (if t = [] then _ else _ : Nat × Text) = place
  obtain ⟨offset, chunk⟩ := place
  have hsurface : (d'.moveTo id' (.collapsed offset)).surface
    = (d.moveTo id (.collapsed offset)).surface := h
  have hmoves (d : Document) (id : RangeId) (first last : Nat) :
      (d.moveToLines id first last).surface = d.surface := rfl
  simp only [hmoves]
  exact surface_write_congr hsurface (hmoved _) chunk .command indent

theorem bounds_insertLines_congr (h : d'.surface = d.surface) (id id' : RangeId) (n : Nat)
    (body indent : Text) :
    (d'.insertLines id' n body indent).bounds id' = (d.insertLines id n body indent).bounds id := by
  have htext : d'.text = d.text := congrArg Surface.text h
  have hinserted := congrArg Surface.text (surface_insertLines_congr h id id' n body indent)
  rw [bounds_insertLines, bounds_insertLines, htext]
  exact congrArg (Bounds.ofLines · _ _) hinserted

end Document

/-- Text and range have become what inserting lines behind line `n` makes of them. -/
structure Scene.Inserts (n : Nat) (body : Text) (s s' : Scene) : Prop where
  /-- The text is the one with the lines in it. -/
  text : s'.document.text = (s.document.insertLines s.range n body []).text
  /-- The range is on them. -/
  bounds : s'.document.bounds s'.range = (s.document.insertLines s.range n body []).bounds s.range

namespace Scene.Inserts

variable {n : Nat} {body : Text} {s s₁ s' s'' : Scene}

theorem of_withDocument
    (htext : s'.document.text
      = (s.withDocument ((LineWrite.behind n body []).perform s.document s.range)).document.text)
    (hbounds : s'.document.bounds s'.range
      = (s.withDocument ((LineWrite.behind n body []).perform s.document s.range)).document.bounds
        s.range) : s.Inserts n body s' := by
  have hperform : (LineWrite.behind n body []).perform s.document s.range
    = s.document.insertLines s.range n body [] := rfl
  rw [hperform] at htext hbounds
  generalize hd : s.document.insertLines s.range n body [] = d at htext hbounds
  exact ⟨hd ▸ htext, hd ▸ hbounds⟩

theorem of_surface (h : s₁.Inserts n body s')
    (hsurface : s₁.document.surface = s.document.surface) : s.Inserts n body s' :=
  ⟨h.text.trans (congrArg Surface.text
      (Document.surface_insertLines_congr hsurface s.range s₁.range n body [])),
    h.bounds.trans (Document.bounds_insertLines_congr hsurface s.range s₁.range n body [])⟩

/-- There is one way to insert lines. -/
theorem unique (h : s.Inserts n body s') (h' : s.Inserts n body s'') :
    s''.document.text = s'.document.text ∧
      s''.document.bounds s''.range = s'.document.bounds s'.range :=
  ⟨h'.text.trans h.text.symm, h'.bounds.trans h.bounds.symm⟩

end Scene.Inserts

/-! ## Commands that insert -/

namespace Command

/-- A command for lines `a` to `b`, addressed by their numbers. -/
def onLines (name : CommandName) (a b : Nat) (parameter : Text) : Command :=
  ⟨[.address ⟨.line a, 0⟩, .comma, .address ⟨.line b, 0⟩], some name, false, 1, parameter⟩

/-- A command for line `n`, addressed by its number. -/
def onLine (name : CommandName) (n : Nat) (parameter : Text) : Command :=
  ⟨[.address ⟨.line n, 0⟩], some name, false, 1, parameter⟩

end Command

namespace Run

open Address (lineAt spanBetween)

variable {c : Command} {name : CommandName} {span : Span} {s s₁ s₂ : Scene} {a b k n : Nat}
  {f t body content : Text}

/-- The directory of files, if one is set. -/
def directoryOf (o : Options) : Option Text := (some o.directory).filter (· ≠ [])

/-- A command that ends with inserting lines inserts them. -/
theorem exists_inserts (hs : s.IsApart) (hwalk : name.walksHistory = false)
    (happroach : (approach c).run s = (.ok (some (name, span)), s₁))
    (hdispatch : (dispatch innerLine name c span).run s₁.opened = (.ok (), s₂))
    (hends : EndsWriting (.behind n body []) s₁.opened s₂) :
    ∃ s', (execute c).run s = (.ok (), s') ∧ s.Inserts n body s' := by
  obtain ⟨s', hrun, hmark, -⟩ := exists_run_executeWith hwalk happroach hdispatch
  obtain ⟨htext, hbounds⟩ :=
    bounds_closed_bookmark (isApart_of_dispatch hs happroach hdispatch) hmark
  obtain ⟨s₃, haside, rfl⟩ := hends
  have hinserts : s₃.Inserts n body s' := .of_withDocument htext hbounds
  have happroached : s.Aside s₁ := (keeps_approach c).of_run happroach
  have hsurface : s₃.document.surface = s.document.surface := by
    rw [haside.document.surface, s₁.stays_opened.surface, happroached.document.surface]
  exact ⟨s', hrun, hinserts.of_surface hsurface⟩

/-- Lines are copied behind a line. -/
theorem inserts_copy (hs : s.IsApart) (ha : 1 ≤ a) (hb : 1 ≤ b) (hk : k < Text.countLimit) :
    ∃ s', (execute (.onLines .copy a b (Text.ofNat k))).run s = (.ok (), s') ∧
      s.Inserts (lineAt k 0 s.document.text.lineCount) (s.document.text.linesText
        (spanBetween a b s.document.text).first (spanBetween a b s.document.text).last) s' := by
  obtain ⟨s₁, happroach, happroached⟩ := run_approach_of_resolve
    (c := .onLines .copy a b (Text.ofNat k)) rfl (run_resolve_numbers a b s)
  have htext : s₁.opened.document.text = s.document.text := happroached.stays.text
  have hcopy : (transfer (spanBetween a b s.document.text) (Text.ofNat k) false).run s₁.opened
      = _ := run_copy_eq_ok.mpr
      ⟨_, _, _, Command.addressList_ofNat hk, run_resolve_number k s₁.opened, rfl⟩
  have hfirst : 1 ≤ (spanBetween a b s.document.text).first :=
    Address.one_le_first_spanBetween ha hb
  rw [htext, Nat.max_eq_left hfirst, Nat.max_eq_left Address.first_le_last_spanBetween] at hcopy
  exact exists_inserts hs rfl happroach hcopy ⟨s₁.opened, .refl _, rfl⟩

/-- The text of the unnamed register is put behind a line. -/
theorem inserts_put (hs : s.IsApart)
    (h : s.session.registers.get? none = some (t ++ [separator])) :
    ∃ s', (execute (.onLine .put k [])).run s = (.ok (), s') ∧
      s.Inserts (lineAt k 0 s.document.text.lineCount) t s' := by
  obtain ⟨s₁, happroach, happroached⟩ := run_approach_of_resolve
    (c := .onLine .put k []) rfl (run_resolve_number k s)
  have hregister : s₁.opened.session.registers.get? none = some (t ++ [separator]) := by
    rw [← h, happroached.session]
  exact exists_inserts hs rfl happroach (run_put hregister _ false) ⟨s₁.opened, .refl _, rfl⟩

/-! ## Commands that use the storage -/

theorem run_fileName (hf : Text.trim f ≠ []) (s : Scene) :
    (fileName f).run s = (.ok (Text.trim f), s) := by
  unfold fileName
  extract_lets name
  rw [if_pos hf]
  rfl

/-- Asking the storage is noticed if there is one, which changes nothing else. -/
theorem exists_run_noteRequest (e : Event) (s : Scene) :
    ∃ s', (noteRequest e).run s = (.ok (), s') ∧ s'.document = s.document ∧
      s'.host = s.host := by
  refine ⟨_, run_noteRequest e s, ?_⟩
  split <;> exact ⟨rfl, rfl⟩

theorem exists_run_load
    (h : s.host.storage.read? f (directoryOf s.document.options) = some content) :
    ∃ s', (load f).run s = (.ok content, s') := by
  obtain ⟨s₁, hnote, -, hhost⟩ :=
    exists_run_noteRequest (.read f (directoryOf s.document.options)) s
  have hdirectory : directory.run s = (.ok (directoryOf s.document.options), s) := rfl
  have hget : (get : Run Scene).run s₁ = (.ok s₁, s₁) := rfl
  rw [← hhost] at h
  refine ⟨s₁, ?_⟩
  rw [load, run_bind, hdirectory]
  simp only
  rw [run_bind, hnote]
  simp only
  rw [run_bind, hget]
  simp only [h]
  rfl

/-- What the file holds is inserted behind a line. -/
theorem inserts_read (hs : s.IsApart) (hf : Text.trim f ≠ [])
    (h : s.host.storage.read? (Text.trim f) (directoryOf s.document.options) = some content) :
    ∃ s', (execute (.onLine .read k f)).run s = (.ok (), s') ∧
      s.Inserts (lineAt k 0 s.document.text.lineCount)
        ((content.dropFinal? separator).getD content) s' := by
  obtain ⟨s₁, happroach, happroached⟩ := run_approach_of_resolve
    (c := .onLine .read k f) rfl (run_resolve_number k s)
  have hstorage : s₁.opened.host.storage.read? (Text.trim f)
      (directoryOf s₁.opened.document.options) = some content := by
    rw [happroached.host, happroached.stays.options, h]
  obtain ⟨s₂, hload⟩ := exists_run_load hstorage
  have hcontent : (do load (← fileName f) : Run Text).run s₁.opened = (.ok content, s₂) :=
    run_bind_eq_ok.mpr ⟨_, _, run_fileName hf s₁.opened, hload⟩
  have hread : (read (.single (lineAt k 0 s.document.text.lineCount)) f).run s₁.opened = _ :=
    run_read_eq_ok.mpr ⟨content, s₂, hcontent, rfl⟩
  exact exists_inserts hs rfl happroach hread ⟨s₂, aside_load hcontent, rfl⟩

/-- Lines are yanked. -/
theorem exists_run_yank (ha : 1 ≤ a) (hb : 1 ≤ b) (s : Scene) :
    ∃ s', (execute (.onLines .yank a b [])).run s = (.ok (), s') ∧
      s'.document.surface = s.document.surface ∧
      s'.session.registers.get? none = some (s.document.text.linesText
        (spanBetween a b s.document.text).first (spanBetween a b s.document.text).last
          ++ [separator]) := by
  obtain ⟨s₁, happroach, happroached⟩ := run_approach_of_resolve
    (c := .onLines .yank a b []) rfl (run_resolve_numbers a b s)
  have hopened := happroached.stays
  have hfirst : 1 ≤ (spanBetween a b s.document.text).first :=
    Address.one_le_first_spanBetween ha hb
  obtain ⟨s₂, hyank, hyanked, hregister, -⟩ := run_deleteOrYank hfirst
    (Nat.le_trans hfirst Address.first_le_last_spanBetween) false s₁.opened
  rw [hopened.text] at hregister
  refine ⟨_, run_executeWith rfl happroach hyank, ?_, hregister⟩
  exact s₂.stays_closed.surface.trans (hyanked.surface.trans hopened.surface)

/-- A text that the storage takes is handed to it. -/
theorem exists_run_save {directory : Option Text} {storage : Storage}
    (h : s.host.storage.write? f directory content = some storage) :
    ∃ s', (save f directory content).run s = (.ok (), s') ∧
      s'.document.surface = s.document.surface ∧ s'.document.status = .clean ∧
      s'.document.options = s.document.options ∧ s'.host.storage = storage := by
  let pending : Scene := s.withDocument { s.document with status := .pending }
  have hpending : (setStatus .pending).run s = (.ok (), pending) := rfl
  obtain ⟨s₁, hnote, hdocument, hhost⟩ :=
    exists_run_noteRequest (.write f directory content) pending
  have hget : (get : Run Scene).run s₁ = (.ok s₁, s₁) := rfl
  have hsurface : s₁.document.surface = s.document.surface := by
    rw [hdocument]
    rfl
  have hoptions : s₁.document.options = s.document.options := by
    rw [hdocument]
    rfl
  have hwrite : s₁.host.storage.write? f directory content = some storage := by
    rw [hhost]
    exact h
  rw [save, run_bind, hpending]
  simp only
  rw [run_bind, hnote]
  simp only
  rw [run_bind, hget]
  simp only [hwrite]
  exact ⟨_, rfl, hsurface, rfl, hoptions, rfl⟩

/-- Writing lines is handing them to the storage, and naming the document after the file. -/
theorem run_write {parameter : Text} (hname : (fileName parameter).run s = (.ok f, s))
    (span : Span) :
    (write span parameter).run s = (do
      save f (directoryOf s.document.options) (writtenText s.document.text span)
      if (← options).file = [] then modifyDocument (·.setFile f)
      display (writtenMessage f (writtenText s.document.text span)) : Run Unit).run s := by
  have hdirectory : directory.run s = (.ok (directoryOf s.document.options), s) := rfl
  have htext : text.run s = (.ok s.document.text, s) := rfl
  rw [write, run_bind, hname]
  simp only
  rw [run_bind, hdirectory]
  simp only
  rw [run_bind, htext]

/-- If the storage takes the lines, the document is clean, and nothing else happens to it but that
it may be named. -/
theorem exists_run_write {parameter : Text} {storage : Storage}
    (hname : (fileName parameter).run s = (.ok f, s))
    (h : s.host.storage.write? f (directoryOf s.document.options)
      (writtenText s.document.text span) = some storage) :
    ∃ s', (write span parameter).run s = (.ok (), s') ∧
      s'.document.surface = s.document.surface ∧ s'.document.status = .clean ∧
      directoryOf s'.document.options = directoryOf s.document.options ∧
      s'.host.storage = storage := by
  obtain ⟨s₁, hsave, hsurface, hstatus, hoptions, hstorage⟩ := exists_run_save h
  have hget : options.run s₁ = (.ok s₁.document.options, s₁) := rfl
  have hdirectory : directoryOf s₁.document.options = directoryOf s.document.options := by
    rw [hoptions]
  rw [run_write hname, run_bind, hsave]
  simp only
  rw [run_bind, hget]
  simp only
  by_cases hfile : s₁.document.options.file = []
  · rw [if_pos hfile]
    exact ⟨_, rfl, hsurface, hstatus, hdirectory, hstorage⟩
  · rw [if_neg hfile]
    exact ⟨_, rfl, hsurface, hstatus, hdirectory, hstorage⟩

/-- Lines are written to a file. -/
theorem exists_run_storing (hf : Text.trim f ≠ [])
    (h : s.host.storage.Returns (Text.trim f) (directoryOf s.document.options)) (a b : Nat) :
    ∃ s', (execute (.onLines .write a b f)).run s = (.ok (), s') ∧
      s'.document.surface = s.document.surface ∧
      s'.host.storage.read? (Text.trim f) (directoryOf s'.document.options)
        = some (writtenText s.document.text (spanBetween a b s.document.text)) := by
  obtain ⟨s₁, happroach, happroached⟩ := run_approach_of_resolve
    (c := .onLines .write a b f) rfl (run_resolve_numbers a b s)
  have hopened := happroached.stays
  rw [← happroached.host, ← hopened.options] at h
  obtain ⟨storage, hwrite, hread⟩ :=
    h (writtenText s₁.opened.document.text (spanBetween a b s.document.text))
  obtain ⟨s₂, hrun, hsurface, -, hdirectory, hstorage⟩ :=
    exists_run_write (run_fileName hf s₁.opened) hwrite
  rw [← hdirectory, ← hstorage, hopened.text] at hread
  refine ⟨_, run_executeWith rfl happroach hrun, ?_, ?_⟩
  · exact s₂.stays_closed.surface.trans (hsurface.trans hopened.surface)
  · rw [← s₂.stays_closed.options] at hread
    exact hread

/-- **Three ways to copy lines.** Lines that are copied behind a line, that are yanked and put
there, and that are written to a file and read there again, leave the same text and the same range;
if the range has a number of its own, and the storage gives back what it is given. Nothing is asked
of the numbers but that those of the lines are not 0 and that the last one can be written in digits:
each way cuts them to the lines that are counted. -/
theorem copies_agree (hs : s.IsApart) (ha : 1 ≤ a) (hb : 1 ≤ b) (hk : k < Text.countLimit)
    (hf : Text.trim f ≠ [])
    (hstorage : s.host.storage.Returns (Text.trim f) (directoryOf s.document.options)) :
    ∃ copied put read : Scene,
      (execute (.onLines .copy a b (Text.ofNat k))).run s = (.ok (), copied) ∧
      (do execute (.onLines .yank a b []); execute (.onLine .put k []) : Run Unit).run s
        = (.ok (), put) ∧
      (do execute (.onLines .write a b f); execute (.onLine .read k f) : Run Unit).run s
        = (.ok (), read) ∧
      (put.document.text = copied.document.text ∧
        put.document.bounds put.range = copied.document.bounds copied.range) ∧
      (read.document.text = copied.document.text ∧
        read.document.bounds read.range = copied.document.bounds copied.range) := by
  have hapart {c : Command} {s' : Scene} (hrun : (execute c).run s = (.ok (), s')) :
      s'.IsApart := hs.of_run (keeps_execute c) hrun
  obtain ⟨copied, hcopy, hcopied⟩ := inserts_copy hs ha hb hk
  -- what is in the register is put into the same text
  obtain ⟨s₁, hyank, hsurface₁, hregister⟩ := exists_run_yank ha hb s
  obtain ⟨put, hput, hputs⟩ := inserts_put (k := k) (hapart hyank) hregister
  have htext₁ : s₁.document.text = s.document.text := congrArg Surface.text hsurface₁
  rw [htext₁] at hputs
  -- and what is in the file is too
  obtain ⟨s₂, hwrite, hsurface₂, hstored⟩ := exists_run_storing hf hstorage a b
  obtain ⟨read, hread, hreads⟩ := inserts_read (k := k) (hapart hwrite) hf hstored
  have htext₂ : s₂.document.text = s.document.text := congrArg Surface.text hsurface₂
  rw [htext₂, getD_dropFinal?_writtenText (Address.one_le_first_spanBetween ha hb)
    Address.last_spanBetween_le] at hreads
  exact ⟨copied, put, read, hcopy, run_bind_eq_ok.mpr ⟨(), s₁, hyank, hput⟩,
    run_bind_eq_ok.mpr ⟨(), s₂, hwrite, hread⟩, hcopied.unique (hputs.of_surface hsurface₁),
    hcopied.unique (hreads.of_surface hsurface₂)⟩

/-- The whole of a text, and a shelf to write it to. -/
theorem copies_agree_whole :
    let s : Scene :=
      { Cli.initial {} {} [] "a\n\nb\n".toList with host := { storage := .shelf [] false } }
    ∃ copied put read : Scene,
      (execute (.onLines .copy 1 3 ['0'])).run s = (.ok (), copied) ∧
      (do execute (.onLines .yank 1 3 []); execute (.onLine .put 0 []) : Run Unit).run s
        = (.ok (), put) ∧
      (do execute (.onLines .write 1 3 ['f']); execute (.onLine .read 0 ['f']) : Run Unit).run s
        = (.ok (), read) ∧
      put.document.text = copied.document.text ∧ read.document.text = copied.document.text := by
  intro s
  have hs : s.IsApart := Scene.isApart_initial {} {} [] "a\n\nb\n".toList
  obtain ⟨copied, put, read, hcopy, hput, hread, ⟨hputs, -⟩, hreads, -⟩ := copies_agree
    (a := 1) (b := 3) (k := 0) (f := ['f']) hs (by decide) (by decide) (by decide) (by decide)
    (Storage.returns_shelf _ _ _)
  exact ⟨copied, put, read, hcopy, hput, hread, hputs, hreads⟩

end Run

end LineEditor
