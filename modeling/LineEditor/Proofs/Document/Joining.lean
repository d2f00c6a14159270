import LineEditor.Proofs.Document.InPlace
import LineEditor.Proofs.Text.Words

/-!
# Lines made into one

Lines are joined from the left: to the text so far, one line after the other is added. What has been
joined is a core in a frame of blanks, and a line that has words of its own exchanges what stands
behind that core: in place of the blanks there comes a space, then the core of the line, and then
the blanks behind that. So the cores come to stand with one space between any two of them, and of
all blanks around them only those in front of the first and behind the last are left. A line of
blanks adds nothing; one that comes first is forgotten when a core comes.
-/

namespace LineEditor

open Text (IsLine join words)

namespace Text

/-- The lines that have words in them. -/
def worded (ls : List Text) : List Text := ls.filter (¬ AllBlank ·)

/-- The blanks that lines joined begin with: those of the first line, if it has words. -/
def leadingOf : List Text → Text
  | [] => []
  | l :: _ => if l.AllBlank then [] else l.leading

/-- The blanks that lines joined end with: those of the last line that has words. -/
def trailingOf (ls : List Text) : Text := (worded ls).getLast?.elim [] trailing

variable {l : Text} {ls : List Text}

theorem worded_cons_of_allBlank (h : l.AllBlank) (ls : List Text) :
    worded (l :: ls) = worded ls := List.filter_cons_of_neg (by simpa using h)

theorem worded_cons (h : ¬ l.AllBlank) (ls : List Text) :
    worded (l :: ls) = l :: worded ls := List.filter_cons_of_pos (by simpa using h)

theorem worded_eq_nil_iff : worded ls = [] ↔ ∀ l ∈ ls, l.AllBlank := by
  simp [worded, List.filter_eq_nil_iff]

theorem allBlank_leadingOf (ls : List Text) : (leadingOf ls).AllBlank := by
  cases ls with
  | nil => exact nofun
  | cons l ls =>
    rw [leadingOf]
    split
    · exact nofun
    · exact allBlank_leading l

theorem allBlank_trailingOf (ls : List Text) : (trailingOf ls).AllBlank := by
  rw [trailingOf]
  cases (worded ls).getLast? with
  | none => exact nofun
  | some l => exact allBlank_trailing l

/-- Words stand in the cores of lines that have any. -/
theorem flatMap_words_worded (ls : List Text) :
    ls.flatMap words = ((worded ls).map trim).flatMap words := by
  induction ls with
  | nil => rfl
  | cons l ls ih =>
    by_cases hl : l.AllBlank
    · rw [worded_cons_of_allBlank hl, List.flatMap_cons, words_of_allBlank hl, ih]
      rfl
    · rw [worded_cons hl, List.flatMap_cons, List.map_cons, List.flatMap_cons, words_trim, ih]

end Text

namespace Document

variable {a b k l first : Text} {ls : List Text}

open Text

/-! ## Joining to what has been joined -/

theorem joinLine_of_allBlank (h : l.AllBlank) (joined : Text) : joinLine joined l = joined := by
  rw [joinLine, trimStart_eq_nil_iff.mpr h]
  exact if_pos rfl

/-- In place of the blanks behind what has been joined there comes a line that has words, with a
space in front of it if there was more than blanks. -/
theorem joinLine_eq (hl : ¬ l.AllBlank) (joined : Text) :
    joinLine joined l
      = (if joined.trimEnd = [] then [] else joined.trimEnd ++ [' '])
        ++ (l.trim ++ l.trailing) := by
  have hline : l.trim ++ l.trailing ≠ [] :=
    List.append_ne_nil_of_left_ne_nil (isCore_trim hl).1.ne_nil _
  rw [joinLine, trimStart_eq hl]
  exact if_neg hline

/-- A line joined to a line is one. -/
theorem isLine_joinLine {joined : Text} (hjoined : IsLine joined) (hl : IsLine l) :
    IsLine (joinLine joined l) := by
  have hline : IsLine l.trimStart := fun h ↦ hl ((List.dropWhile_suffix _).subset h)
  have hend : IsLine joined.trimEnd := fun h ↦ hjoined ((List.rdropWhile_prefix _ joined).subset h)
  have hspace : separator ∉ [' '] := by decide
  rw [joinLine]
  split
  · exact hjoined
  · refine isLine_append ?_ hline
    split
    · exact isLine_nil
    · exact isLine_append hend hspace

/-- Lines of blanks add nothing. -/
theorem foldl_joinLine_worded (ls : List Text) (joined : Text) :
    (worded ls).foldl joinLine joined = ls.foldl joinLine joined := by
  induction ls generalizing joined with
  | nil => rfl
  | cons l ls ih =>
    by_cases hl : l.AllBlank
    · rw [worded_cons_of_allBlank hl, List.foldl_cons, joinLine_of_allBlank hl, ih]
    · rw [worded_cons hl, List.foldl_cons, List.foldl_cons, ih]

/-- The blanks behind the last line are left, or those there were if there is none. -/
private theorem elim_getLast?_cons (l b : Text) (ls : List Text) :
    (l :: ls).getLast?.elim b trailing = ls.getLast?.elim l.trailing trailing := by
  rw [List.getLast?_cons]
  cases ls.getLast? <;> rfl

/-- Lines that have words, joined to a core in a frame of blanks. -/
theorem foldl_joinLine (hk : k.IsCore) (hb : b.AllBlank) (a : Text)
    (h : ∀ l ∈ ls, ¬ l.AllBlank) :
    ls.foldl joinLine (a ++ k ++ b)
      = a ++ join [' '] (k :: ls.map trim) ++ ls.getLast?.elim b trailing := by
  -- the core grows with each line, and the frame in front of it stays
  induction ls generalizing k b with
  | nil => rfl
  | cons l ls ih =>
    obtain ⟨hl, hls⟩ := List.forall_mem_cons.mp h
    obtain ⟨hcore, -⟩ := isCore_trim hl
    have hne : a ++ k ≠ [] := List.append_ne_nil_of_right_ne_nil _ hk.ne_nil
    have hstep : joinLine (a ++ k ++ b) l = a ++ (k ++ [' '] ++ l.trim) ++ l.trailing := by
      rw [joinLine_eq hl, hk.trimEnd_append a hb, if_neg hne]
      simp only [List.append_assoc]
    have hjoin : join [' '] ((k ++ [' '] ++ l.trim) :: ls.map trim)
        = join [' '] (k :: l.trim :: ls.map trim) := by
      rw [join_cons [' '] k (List.cons_ne_nil _ _)]
      cases ls.map trim with
      | nil => rfl
      | cons m ms =>
        rw [join_cons _ _ (List.cons_ne_nil m ms), join_cons _ _ (List.cons_ne_nil m ms)]
        simp only [List.append_assoc]
    rw [List.foldl_cons, hstep, ih (hk.append hcore [' ']) (allBlank_trailing l) hls, hjoin,
      elim_getLast?_cons, List.map_cons]

/-! ## Joined lines -/

/-- Lines joined have their cores with one space between any two of them, in the blanks in front of
the first line, if it has words, and those behind the last line that has words. -/
theorem joinedText_eq (h : worded ls ≠ []) :
    joinedText false ls = leadingOf ls ++ join [' '] ((worded ls).map trim) ++ trailingOf ls := by
  cases ls with
  | nil => exact absurd rfl h
  | cons first rest =>
    have hworded : ∀ l ∈ worded rest, ¬ l.AllBlank := fun l hl ↦ by
      simpa using (List.mem_filter.mp hl).2
    change rest.foldl joinLine first = _
    rw [← foldl_joinLine_worded, leadingOf, trailingOf]
    by_cases hfirst : first.AllBlank
    · -- the first line is forgotten when a line with words comes
      rw [worded_cons_of_allBlank hfirst] at h ⊢
      obtain ⟨l, ls, hls⟩ := List.exists_cons_of_ne_nil h
      rw [hls] at hworded ⊢
      obtain ⟨hl, hworded⟩ := List.forall_mem_cons.mp hworded
      obtain ⟨hcore, -⟩ := isCore_trim hl
      rw [List.foldl_cons, joinLine_eq hl, trimEnd_eq_nil_iff.mpr hfirst, if_pos rfl, if_pos hfirst,
        elim_getLast?_cons, List.map_cons]
      exact foldl_joinLine hcore (allBlank_trailing l) [] hworded
    · obtain ⟨hcore, hframe⟩ := isCore_trim hfirst
      have hrest := foldl_joinLine hcore (allBlank_trailing first) first.leading hworded
      rw [hframe] at hrest
      rw [hrest, if_neg hfirst, worded_cons hfirst, elim_getLast?_cons, List.map_cons]

/-- If no line has words, the first one is left. -/
theorem joinedText_of_worded_eq_nil (h : worded ls = []) : joinedText false ls = ls.headD [] := by
  cases ls with
  | nil => rfl
  | cons first rest =>
    have hrest : worded rest = [] :=
      worded_eq_nil_iff.mpr (List.forall_mem_cons.mp (worded_eq_nil_iff.mp h)).2
    change rest.foldl joinLine first = first
    rw [← foldl_joinLine_worded, hrest]
    rfl

/-- Joining neither adds a word nor loses one, nor are words run together or put in another
order. -/
theorem words_joinedText (ls : List Text) : words (joinedText false ls) = ls.flatMap words := by
  rw [flatMap_words_worded]
  by_cases h : worded ls = []
  · have hfirst : (ls.headD []).AllBlank := by
      cases ls with
      | nil => exact nofun
      | cons l ls => exact worded_eq_nil_iff.mp h l List.mem_cons_self
    rw [joinedText_of_worded_eq_nil h, h, words_of_allBlank hfirst]
    rfl
  · rw [joinedText_eq h, words_append_allBlank (allBlank_trailingOf ls),
      words_append_of_allBlank (allBlank_leadingOf ls), words_join_space]

/-- No line becomes several. -/
theorem isLine_joinedText {verbatim : Bool} (h : ∀ l ∈ ls, IsLine l) :
    IsLine (joinedText verbatim ls) := by
  cases ls with
  | nil => exact isLine_nil
  | cons first rest =>
    obtain ⟨hfirst, hrest⟩ := List.forall_mem_cons.mp h
    cases verbatim with
    | true =>
      refine isLine_append hfirst fun hmem ↦ ?_
      obtain ⟨l, hl, hmem⟩ := List.mem_flatten.mp hmem
      exact hrest l hl hmem
    | false =>
      change IsLine (rest.foldl joinLine first)
      clear h
      induction rest generalizing first with
      | nil => exact hfirst
      | cons l rest ih =>
        obtain ⟨hl, hrest⟩ := List.forall_mem_cons.mp hrest
        exact ih _ (isLine_joinLine hfirst hl) hrest

/-- Joining lines puts the joined one in their place exactly if the edit does not misplace its
text. -/
theorem lines_joinLines_iff {d : Document} {first last : Nat} (hfirst : 1 ≤ first)
    (hle : first ≤ last) (hlast : last ≤ d.text.lines.length) (id : RangeId) (verbatim : Bool) :
    let joined := joinedText verbatim (d.text.lineRange first last)
    (d.joinLines id first last verbatim).text.lines
        = d.text.lines.take (first - 1) ++ [joined] ++ d.text.lines.drop last ↔
      d.PlacesLines first last [joined] := by
  intro joined
  have hjoined : IsLine joined := isLine_joinedText fun _ ↦ isLine_of_mem_lineRange
  have hedit : (d.joinLines id first last verbatim).text
      = (d.edit (.inLines d.text first last) (unlines [joined])).text := rfl
  rw [hedit]
  exact lines_edit_iff hfirst hle hlast (List.cons_ne_nil _ _)
    (List.forall_mem_singleton.mpr hjoined)

end Document

end LineEditor
