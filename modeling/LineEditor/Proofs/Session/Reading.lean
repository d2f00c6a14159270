import LineEditor.Proofs.Document.Writing
import LineEditor.Proofs.Session.Copying

/-!
# Reading files with other line breaks

A file may have a carriage return in front of every line feed. When its text is inserted, each of
these pairs becomes one separator, and the lines are those of the file without carriage returns; but
before that the line feed at the end is left out, and the carriage return that was in front of it
makes a line break of its own. Nothing comes of that only in front of all lines of a text, where a
separator is put behind the lines, which makes up the pair again.

So a file whose last line is terminated is read with a line more than it has, everywhere but there.
-/

namespace LineEditor

open Text (unlines separator)

namespace Text

variable {t : Text} {front : Prop} [Decidable front]

/-- What comes of the text of a file: its line breaks are turned into separators once the one at its
end is left out. In `front` of the lines of a text, a separator is put behind it first. -/
def readIn (front : Prop) [Decidable front] (t : Text) : Text :=
  let t := t.withoutSeparator
  (if front then t.withoutReturn else t).normalizeBreaks

/-- The line breaks of a file make no difference: no line has a carriage return at its end already,
and the last one is not terminated, or a separator is put behind it. -/
def ReadsAlike (front : Prop) (t : Text) : Prop :=
  ¬ t.HasPair ∧ (t.getLast? ≠ some separator ∨ front)

/-- The last line of the file is not terminated. -/
private theorem readIn_withReturns_of_getLast?_ne (front : Prop) [Decidable front]
    (h : t.getLast? ≠ some separator) :
    ∃ u : Text, (u.HasPair ↔ t.HasPair) ∧ t.readIn front = u.normalizeBreaks ∧
      t.withReturns.readIn front = u.withReturns.normalizeBreaks := by
  rw [readIn, readIn, withoutSeparator_of_getLast?_ne h,
    withoutSeparator_withReturns_of_getLast?_ne h]
  by_cases hfront : front
  · rw [if_pos hfront, if_pos hfront, withoutReturn_withReturns]
    exact ⟨t.withoutReturn, hasPair_withoutReturn, rfl, rfl⟩
  · rw [if_neg hfront, if_neg hfront]
    exact ⟨t, Iff.rfl, rfl, rfl⟩

/-- The last line of the file is terminated, and a separator is put behind it. -/
private theorem readIn_withReturns_of_front (hfront : front) (t : Text) :
    (t ++ [separator]).readIn front ++ [separator] = (t ++ [separator]).normalizeBreaks ∧
      (t ++ [separator]).withReturns.readIn front ++ [separator]
        = (t ++ [separator]).withReturns.normalizeBreaks := by
  rw [readIn, readIn, withoutSeparator_concat, withoutSeparator_withReturns_concat,
    if_pos hfront, if_pos hfront, withReturns_concat_separator, normalizeBreaks_append_separator,
    normalizeBreaks_append_separator]
  exact ⟨rfl, rfl⟩

/-- The last line of the file is terminated, and nothing is put behind it. -/
private theorem readIn_withReturns_of_not_front (hfront : ¬ front) (t : Text) :
    (t ++ [separator]).readIn front = t.normalizeBreaks ∧
      (t ++ [separator]).withReturns.readIn front = t.separateReturns ++ [separator] := by
  rw [readIn, readIn, withoutSeparator_concat, withoutSeparator_withReturns_concat,
    if_neg hfront, if_neg hfront, normalizeBreaks_withReturns_append (by decide)]
  exact ⟨rfl, rfl⟩

/-- The two kinds of line breaks come to the same exactly if they read alike. Otherwise not even the
number of characters is the same. -/
theorem readIn_withReturns (front : Prop) [Decidable front] (t : Text) :
    (t.ReadsAlike front → t.withReturns.readIn front = t.readIn front) ∧
      ((t.withReturns.readIn front).length = (t.readIn front).length → t.ReadsAlike front) := by
  by_cases hlast : t.getLast? = some separator
  · obtain ⟨u, rfl⟩ := List.getLast?_eq_some_iff.mp hlast
    by_cases hfront : front
    · obtain ⟨hread, hreturns⟩ := readIn_withReturns_of_front hfront u
      constructor
      · intro halike
        have hsame := normalizeBreaks_withReturns_of_not_hasPair halike.1
        rwa [← hread, ← hreturns, List.append_cancel_right_eq] at hsame
      · intro hlength
        refine ⟨length_normalizeBreaks_withReturns_eq_iff.mp ?_, .inr hfront⟩
        rw [← hread, ← hreturns, List.length_append, List.length_append, hlength]
    · obtain ⟨hread, hreturns⟩ := readIn_withReturns_of_not_front hfront u
      refine ⟨fun halike ↦ absurd halike.2 (not_or.mpr ⟨fun h ↦ h hlast, hfront⟩), ?_⟩
      intro hlength
      have hle := (length_normalizeBreaks u).1
      rw [hread, hreturns, List.length_append, length_separateReturns, List.length_singleton]
        at hlength
      omega
  · obtain ⟨u, hpair, hread, hreturns⟩ := readIn_withReturns_of_getLast?_ne front hlast
    rw [hread, hreturns, ReadsAlike, ← hpair]
    exact ⟨fun halike ↦ normalizeBreaks_withReturns_of_not_hasPair halike.1,
      fun hlength ↦ ⟨length_normalizeBreaks_withReturns_eq_iff.mp hlength, .inl hlast⟩⟩

/-- Before its line breaks are turned into separators, the text has as many lines either way. -/
theorem length_lines_withoutSeparator_withReturns (t : Text) :
    t.withReturns.withoutSeparator.lines.length = t.withoutSeparator.lines.length := by
  rw [length_lines, length_lines]
  by_cases hlast : t.getLast? = some separator
  · obtain ⟨u, rfl⟩ := List.getLast?_eq_some_iff.mp hlast
    rw [withoutSeparator_withReturns_concat, withoutSeparator_concat, List.count_append,
      count_withReturns]
    rfl
  · rw [withoutSeparator_withReturns_of_getLast?_ne hlast, withoutSeparator_of_getLast?_ne hlast,
      count_withReturns]

/-- Of a file with terminated lines come these lines, and one more if the line feeds have carriage
returns in front and no separator is put behind it. -/
theorem length_lines_readIn (front : Prop) [Decidable front] (hreturn : '\r' ∉ t)
    (hlast : t.getLast? = some separator) :
    (t.readIn front).lines.length = t.count separator ∧
      (t.withReturns.readIn front).lines.length = t.count separator + if front then 0 else 1 := by
  obtain ⟨u, rfl⟩ := List.getLast?_eq_some_iff.mp hlast
  have hpair := not_hasPair_of_not_mem hreturn
  have hpiece : '\r' ∉ u := fun h ↦ hreturn (List.mem_append_left _ h)
  have hcount : (u ++ [separator]).count separator = u.count separator + 1 := List.count_append
  by_cases hfront : front
  · have hlines {v : Text} (hv : v ++ [separator] = u ++ [separator]) :
        v.lines.length = (u ++ [separator]).count separator := by
      rw [List.append_cancel_right hv, length_lines, hcount]
    obtain ⟨hread, hreturns⟩ := readIn_withReturns_of_front hfront u
    rw [normalizeBreaks_withReturns_of_not_hasPair hpair] at hreturns
    rw [normalizeBreaks_of_not_mem hreturn] at hread hreturns
    rw [if_pos hfront]
    exact ⟨hlines hread, hlines hreturns⟩
  · obtain ⟨hread, hreturns⟩ := readIn_withReturns_of_not_front hfront u
    have hsame := normalizeBreaks_of_not_hasPair (not_hasPair_of_not_mem hpiece)
    rw [hread, hreturns, ← hsame, normalizeBreaks_of_not_mem hpiece, if_neg hfront, length_lines,
      length_lines, hcount]
    exact ⟨rfl, rfl⟩

end Text

/-- The lines that come of a file are written. -/
theorem LineWrite.lines_behind_withoutSeparator (n : Nat) (t u : Text) :
    (behind n t.withoutSeparator []).lines u = (t.readIn (n = 0 ∧ u ≠ [])).lines := by
  simp only [lines, Text.readIn, Insertion.written_nil, Insertion.behindLine]
  by_cases hu : u = []
  · rw [if_pos hu, if_neg fun h ↦ h.2 hu]
  · by_cases hn : n = 0
    · rw [if_neg hu, if_pos hn, if_pos ⟨hn, hu⟩]
    · rw [if_neg hu, if_neg hn, if_neg fun h ↦ hn h.1]

namespace Document

variable {d : Document} {id : RangeId} {n : Nat} {t : Text}

/-- Inserting the lines of a file makes the same text for both kinds of line breaks exactly if they
read alike, whatever the surface. -/
theorem text_insertLines_withReturns_iff (d : Document) (id : RangeId) (n : Nat) (t : Text) :
    (d.insertLines id n t.withReturns.withoutSeparator []).text
        = (d.insertLines id n t.withoutSeparator []).text ↔
      t.ReadsAlike (n = 0 ∧ d.text ≠ []) := by
  obtain ⟨hsame, hlength⟩ := Text.readIn_withReturns (n = 0 ∧ d.text ≠ []) t
  constructor
  · intro htext
    have hwritten := LineWrite.length_unlines_of_text_perform_behind htext
    rw [LineWrite.lines_behind_withoutSeparator, LineWrite.lines_behind_withoutSeparator,
      Text.unlines_lines, Text.unlines_lines] at hwritten
    exact hlength hwritten
  · intro halike
    refine LineWrite.text_perform_behind_congr ?_ id
    rw [LineWrite.lines_behind_withoutSeparator, LineWrite.lines_behind_withoutSeparator,
      hsame halike]

/-- Where the text is the same, the range is. -/
theorem bounds_insertLines_withReturns
    (h : (d.insertLines id n t.withReturns.withoutSeparator []).text
      = (d.insertLines id n t.withoutSeparator []).text) :
    (d.insertLines id n t.withReturns.withoutSeparator []).bounds id
      = (d.insertLines id n t.withoutSeparator []).bounds id := by
  rw [bounds_insertLines, bounds_insertLines, h, Text.length_lines_withoutSeparator_withReturns]

/-- As many lines are there as were there and are written. Of an empty text no line stays. -/
theorem length_lines_insertLines (d : Document) (id : RangeId) (n : Nat) (t : Text) :
    (d.insertLines id n t.withoutSeparator []).text.lines.length
      = (if d.text = [] then 0 else d.text.lines.length)
        + (t.readIn (n = 0 ∧ d.text ≠ [])).lines.length := by
  have hlength := LineWrite.length_lines_perform (w := .behind n t.withoutSeparator [])
    Text.isLine_nil id (d := d)
  rw [LineWrite.lines_behind_withoutSeparator] at hlength
  refine hlength.trans ?_
  simp only [LineWrite.before, LineWrite.after]
  by_cases ht : d.text = []
  · simp only [if_pos ht, List.length_nil]
    omega
  · simp only [if_neg ht]
    rw [Nat.add_right_comm, ← List.length_append, List.take_append_drop]

end Document

namespace Run

open Address (lineAt)

variable {s : Scene} {f g t : Text}

/-- **Reading files with other line breaks.** Of two files, the second has a carriage return in
front of each line feed of the first. Reading either behind a line succeeds, on any surface. Text
and range are the same for both exactly if no terminated line of the first file has a carriage
return at its end, and if its last line is not terminated or it is read in front of all lines of a
text. Terminated lines without carriage returns are added as they are counted in the first file;
from the second one comes a line more, unless it is read in front of all lines of a text. An empty
text gives up its line. -/
theorem read_withReturns (hs : s.IsApart) (hf : Text.trim f ≠ []) (hg : Text.trim g ≠ [])
    (hread : s.host.storage.read? (Text.trim f) (directoryOf s.document.options) = some t)
    (hreturns : s.host.storage.read? (Text.trim g) (directoryOf s.document.options)
      = some t.withReturns) (k : Nat) :
    let front := k = 0 ∧ s.document.text ≠ []
    let alike (s₁ s₂ : Scene) := s₂.document.text = s₁.document.text ∧
      s₂.document.bounds s₂.range = s₁.document.bounds s₁.range
    let staying := if s.document.text = [] then 0 else s.document.text.lines.length
    ∃ s₁ s₂, (execute (.onLine .read k f)).run s = (.ok (), s₁) ∧
      (execute (.onLine .read k g)).run s = (.ok (), s₂) ∧
      (alike s₁ s₂ ↔ ¬ t.HasPair ∧ (t.getLast? ≠ some separator ∨ front)) ∧
      ('\r' ∉ t → t.getLast? = some separator →
        s₁.document.text.lines.length = staying + t.count separator ∧
          s₂.document.text.lines.length
            = staying + (t.count separator + if front then 0 else 1)) := by
  intro front alike staying
  obtain ⟨s₁, hrun₁, hinserts₁⟩ := inserts_read (k := k) hs hf hread
  obtain ⟨s₂, hrun₂, hinserts₂⟩ := inserts_read (k := k) hs hg hreturns
  have hfront : lineAt k 0 s.document.text.lineCount = 0 ↔ k = 0 :=
    Address.lineAt_eq_zero_iff s.document.text.one_le_lineCount
  generalize lineAt k 0 s.document.text.lineCount = n at hinserts₁ hinserts₂ hfront
  obtain ⟨htext₁, hbounds₁⟩ := hinserts₁
  obtain ⟨htext₂, hbounds₂⟩ := hinserts₂
  refine ⟨s₁, s₂, hrun₁, hrun₂, ?_, ?_⟩
  · have hiff := s.document.text_insertLines_withReturns_iff s.range n t
    rw [Text.ReadsAlike, hfront] at hiff
    rw [← hiff]
    constructor
    · rintro ⟨htext, -⟩
      exact htext₂.symm.trans (htext.trans htext₁)
    · intro hsame
      exact ⟨htext₂.trans (hsame.trans htext₁.symm), hbounds₂.trans
        ((Document.bounds_insertLines_withReturns hsame).trans hbounds₁.symm)⟩
  · intro hreturn hlast
    obtain ⟨hlines, hmore⟩ :=
      Text.length_lines_readIn (n = 0 ∧ s.document.text ≠ []) hreturn hlast
    have hlength₁ := s.document.length_lines_insertLines s.range n t
    have hlength₂ := s.document.length_lines_insertLines s.range n t.withReturns
    rw [hlines] at hlength₁
    rw [hmore] at hlength₂
    simp only [hfront] at hlength₂
    rw [htext₁, htext₂]
    exact ⟨hlength₁, hlength₂⟩

/-- Two lines, read in front of two others. -/
theorem read_withReturns_in_front :
    let files : Table Text Text := [(['f'], "a\nb\n".toList), (['g'], "a\r\nb\r\n".toList)]
    let s : Scene :=
      { Cli.initial {} {} [] "x\ny".toList with host := { storage := .shelf files false } }
    ∃ s₁ s₂ : Scene, (execute (.onLine .read 0 ['f'])).run s = (.ok (), s₁) ∧
      (execute (.onLine .read 0 ['g'])).run s = (.ok (), s₂) ∧
      s₂.document.text = s₁.document.text ∧ s₁.document.text.lines.length = 4 := by
  intro files s
  have hs : s.IsApart := Scene.isApart_initial {} {} [] "x\ny".toList
  have hreturn : '\r' ∉ "a\nb\n".toList := by decide
  have hlast : "a\nb\n".toList.getLast? = some separator := by decide
  have hne : s.document.text ≠ [] := by decide
  obtain ⟨s₁, s₂, hrun₁, hrun₂, halike, hlines⟩ := read_withReturns (f := ['f']) (g := ['g'])
    (t := "a\nb\n".toList) hs (by decide) (by decide) (by decide +kernel) (by decide +kernel) 0
  have hsame := halike.mpr ⟨Text.not_hasPair_of_not_mem hreturn, .inr ⟨rfl, hne⟩⟩
  obtain ⟨hlength, -⟩ := hlines hreturn hlast
  exact ⟨s₁, s₂, hrun₁, hrun₂, hsame.1, hlength.trans (by decide +kernel)⟩

/-- Behind a line, a line comes of the carriage return at the end. -/
theorem not_read_withReturns :
    let files : Table Text Text := [(['f'], "a\nb\n".toList), (['g'], "a\r\nb\r\n".toList)]
    let s : Scene :=
      { Cli.initial {} {} [] "x\ny".toList with host := { storage := .shelf files false } }
    let after (f : Text) : Text := ((execute (.onLine .read 1 f)).run s).2.document.text
    after ['f'] = "x\na\nb\ny".toList ∧ after ['g'] = "x\na\nb\n\ny".toList ∧
      after ['g'] ≠ after ['f'] := by
  decide +kernel

end Run

end LineEditor
