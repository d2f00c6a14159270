import LineEditor.Proofs.Document.InPlace
import LineEditor.Proofs.Edit.Least
import LineEditor.Proofs.Surface.Touching
import LineEditor.Proofs.Text.Indent

/-!
# Lines shifted

Lines are shifted to the right by spaces put in front of those that are not empty, and to the left
by columns dropped. What has been put in front is dropped again, whatever the line begins with.

For the text, both are the least edit between the lines as they are and the lines with the spaces.
Either it starts inside the last line that is not empty, so that a character of this line stands in
front of it; or it stops right in front of that line. So text is met on one side, and neither way is
any misplaced. This is different for lines that are shifted to the left by themselves, of which the
last may become empty.
-/

namespace LineEditor

open Text (closed opened unlines separator IsLine MeetsText)

theorem Text.isLine_spaces (n : Nat) : IsLine (List.replicate n ' ') := fun h ↦
  absurd (List.eq_of_mem_replicate h) (by decide)

/-- As many lines are counted in texts of as many pieces, the last of which is empty in both or in
neither. -/
theorem Text.lineCount_congr {t u : Text} (hlength : u.lines.length = t.lines.length)
    (hlast : u.lines.getLast? = some [] ↔ t.lines.getLast? = some []) :
    u.lineCount = t.lineCount := by
  obtain ⟨xs, l, ht⟩ := exists_lines_eq t
  obtain ⟨ys, m, hu⟩ := exists_lines_eq u
  rw [ht, hu, List.length_append, List.length_append] at hlength
  have hsame : ys.length = xs.length := Nat.add_right_cancel hlength
  rw [ht, hu, List.getLast?_concat, List.getLast?_concat, Option.some.injEq, Option.some.injEq]
    at hlast
  rw [lineCount_of_lines_eq ht, lineCount_of_lines_eq hu, hsame]
  simp only [hlast]

/-! ## The least edit -/

theorem Text.MeetsText.append {before after : Text} (h : MeetsText before after) (a b : Text) :
    MeetsText (a ++ before) (after ++ b) := by
  rcases h with ⟨c, hlast, hc⟩ | ⟨c, hhead, hc⟩
  · exact .inl ⟨c, by rw [List.getLast?_append, hlast]; rfl, hc⟩
  · exact .inr ⟨c, by rw [List.head?_append, hhead]; rfl, hc⟩

namespace Edit

variable {e : Edit} {t u a b v w x y before after : Text} {ys ys' es : List Text} {l : Text}
  {n : Nat}

theorem start_of_between (h : between t u = some e) : e.start = commonStart t u := by
  unfold between at h
  split at h
  · exact nomatch h
  · exact congrArg Edit.start (Option.some.inj h).symm

/-- Texts have nothing in common if their first characters differ. -/
theorem commonStart_eq_zero (h : ∀ c, t.head? = some c → u.head? ≠ some c) :
    commonStart t u = 0 := by
  match t, u with
  | [], _ => rfl
  | _ :: _, [] => rfl
  | c :: t, d :: u =>
    have hne : c ≠ d := fun heq ↦ h c rfl (congrArg some heq.symm)
    rw [commonStart, if_neg hne]

/-- Where two texts end alike, and begin with parts that do not, the common end is the same however
these parts are cut off. -/
theorem append_right_unique (h : a ++ x = v ++ y) (h' : b ++ x = w ++ y)
    (hab : commonStart a.reverse b.reverse = 0) (hvw : commonStart v.reverse w.reverse = 0) :
    x = y := by
  have hx : commonStart (a ++ x).reverse (b ++ x).reverse = x.length := by
    rw [List.reverse_append, List.reverse_append, commonStart_append, hab, List.length_reverse,
      Nat.add_zero]
  have hy : commonStart (v ++ y).reverse (w ++ y).reverse = y.length := by
    rw [List.reverse_append, List.reverse_append, commonStart_append, hvw, List.length_reverse,
      Nat.add_zero]
  rw [h, h', hy] at hx
  exact List.append_inj_right' h hx.symm

/-- A line and the same line behind spaces have no more in common than the line. -/
theorem commonStart_spaces_le (hl : IsLine l) (hn : 0 < n) (es : List Text) :
    commonStart (l ++ opened es) (List.replicate n ' ' ++ (l ++ opened es)) ≤ l.length := by
  by_contra hnot
  have hlt := Nat.lt_of_not_le hnot
  have hspaces := Text.isLine_append (Text.isLine_spaces n) hl
  -- behind the line there would be a separator in the one, and a character of the line in the other
  have hsame : (l ++ opened es)[l.length]?
      = (List.replicate n ' ' ++ (l ++ opened es))[l.length]? := by
    rw [← List.getElem?_take_of_lt hlt, take_commonStart, List.getElem?_take_of_lt hlt]
  have hbefore : l.length < (List.replicate n ' ' ++ l).length := by
    rw [List.length_append, List.length_replicate]
    omega
  rw [List.getElem?_append_right (Nat.le_refl _), Nat.sub_self, ← List.append_assoc,
    List.getElem?_append_left hbefore, List.getElem?_eq_getElem hbefore] at hsame
  cases es with
  | nil => exact nomatch hsame
  | cons m es =>
    have hseparator : separator = (List.replicate n ' ' ++ l)[l.length] := Option.some.inj hsame
    exact hspaces (hseparator ▸ List.getElem_mem hbefore)

/-- The last character in front of an edit that starts inside a line is one of that line. -/
theorem meetsText_of_inside (hl : IsLine l) (hx : x <+: l) (hne : x ≠ []) (a after : Text) :
    MeetsText (a ++ x) after := by
  refine .inl ⟨x.getLast hne, ?_, fun hc ↦ hl (hc ▸ hx.subset (List.getLast_mem hne))⟩
  rw [List.getLast?_append, List.getLast?_eq_some_getLast hne]
  rfl

/-- In front of a line, a line ends in the one text, and there is a space in the other. -/
theorem commonStart_closed_spaces {p q : Text} (hp : a ++ p = closed ys) (hn : 0 < n) :
    commonStart p.reverse (q ++ List.replicate n ' ').reverse = 0 := by
  refine commonStart_eq_zero fun c hc hspace ↦ ?_
  rw [List.head?_reverse] at hc hspace
  have hend : (closed ys).getLast? = some c := by
    rw [← hp, List.getLast?_append, hc]
    rfl
  rw [List.getLast?_append, List.getLast?_replicate, if_neg (Nat.ne_of_gt hn)] at hspace
  obtain rfl : ' ' = c := Option.some.inj hspace
  have hsome : ys ≠ [] := by
    rintro rfl
    exact nomatch hend
  rw [Text.closed_eq hsome, List.getLast?_concat] at hend
  exact absurd (Option.some.inj hend) (by decide)

/-- Lines, and lines as many of which the last is behind spaces: an edit between them that leaves
all alone that they have in common meets text. -/
theorem meetsText_of_indented (hlength : ys'.length = ys.length)
    (hle : (closed ys).length ≤ (closed ys').length) (hys : ∀ y ∈ ys, IsLine y)
    (hys' : ∀ y ∈ ys', IsLine y) (hl : IsLine l) (hne : l ≠ []) (hn : 0 < n)
    (ht : t = closed ys ++ (l ++ opened es))
    (hu : u = closed ys' ++ (List.replicate n ' ' ++ (l ++ opened es)))
    (hbefore : before.length = commonStart t u) (hold : t = before ++ v ++ after)
    (hnew : u = before ++ w ++ after) (htail : commonStart v.reverse w.reverse = 0) :
    MeetsText before after := by
  rcases Nat.lt_or_ge (closed ys).length before.length with hlt | hge
  · -- the lines in front are the same, and the edit starts inside the last one
    obtain ⟨z, rfl⟩ : closed ys <+: before :=
      List.prefix_of_prefix_length_le ⟨l ++ opened es, ht.symm⟩
        ⟨v ++ after, by rw [hold, List.append_assoc]⟩ (Nat.le_of_lt hlt)
    have hlines := congrArg Text.lines (hu.symm.trans hnew)
    rw [List.append_assoc, List.append_assoc, Text.lines_closed_append hys',
      Text.lines_closed_append hys] at hlines
    obtain ⟨rfl, -⟩ := List.append_inj hlines hlength
    rw [ht, hu, commonStart_append, List.length_append] at hbefore
    have hle := commonStart_spaces_le hl hn es
    have hz : z ≠ [] := by
      rw [← List.length_pos_iff]
      rw [List.length_append] at hlt
      omega
    rw [hold, List.append_assoc, List.append_assoc] at ht
    have hprefix : z <+: l := List.prefix_of_prefix_length_le
      ⟨v ++ after, List.append_cancel_left ht⟩ (List.prefix_append l (opened es)) (by omega)
    exact meetsText_of_inside hl hprefix hz _ after
  · -- the edit stops in front of the last line
    obtain ⟨p, hp⟩ : before <+: closed ys :=
      List.prefix_of_prefix_length_le ⟨v ++ after, by rw [hold, List.append_assoc]⟩
        ⟨l ++ opened es, ht.symm⟩ hge
    obtain ⟨p', hp'⟩ : before <+: closed ys' :=
      List.prefix_of_prefix_length_le ⟨w ++ after, by rw [hnew, List.append_assoc]⟩
        ⟨_, hu.symm⟩ (Nat.le_trans hge hle)
    rw [hold, ← hp, List.append_assoc, List.append_assoc] at ht
    rw [hnew, ← hp', List.append_assoc, List.append_assoc, ← List.append_assoc p'] at hu
    have hafter := append_right_unique (List.append_cancel_left ht) (List.append_cancel_left hu)
      htail (commonStart_closed_spaces hp hn)
    obtain ⟨c, l, rfl⟩ := List.exists_cons_of_ne_nil hne
    rw [hafter]
    exact .inr ⟨c, rfl, fun hc ↦ hl (hc ▸ List.mem_cons_self)⟩

end Edit

/-! ## Shifted lines -/

namespace Document

variable {d : Document} {xs ys : List Text} {l : Text} {first last width tabsize times : Nat}

theorem shiftLine_right_nil (width tabsize : Nat) : shiftLine true width tabsize [] = [] := rfl

theorem shiftLine_right (hl : l ≠ []) (width tabsize : Nat) :
    shiftLine true width tabsize l = List.replicate width ' ' ++ l := if_neg hl

/-- No line becomes empty, and an empty one stays so. -/
theorem shiftLine_right_eq_nil_iff : shiftLine true width tabsize l = [] ↔ l = [] := by
  by_cases hl : l = []
  · subst hl
    exact iff_of_true (shiftLine_right_nil width tabsize) rfl
  · rw [shiftLine_right hl]
    exact iff_of_false (List.append_ne_nil_of_right_ne_nil _ hl) hl

theorem shiftLine_left (width tabsize : Nat) (l : Text) :
    shiftLine false width tabsize l = l.outdent width tabsize := rfl

/-- A line that is shifted to the right and back is the same. -/
theorem shiftLine_left_right (width tabsize : Nat) (l : Text) :
    shiftLine false width tabsize (shiftLine true width tabsize l) = l := by
  by_cases hl : l = []
  · subst hl
    rfl
  · rw [shiftLine_right hl, shiftLine_left, Text.outdent_replicate_append]

theorem isLine_shiftLine (hl : IsLine l) (right : Bool) (width tabsize : Nat) :
    IsLine (shiftLine right width tabsize l) := by
  cases right with
  | true =>
    by_cases hnil : l = []
    · exact hnil ▸ Text.isLine_nil
    · rw [shiftLine_right hnil]
      exact Text.isLine_append (Text.isLine_spaces width) hl
  | false => exact fun hmem ↦ hl ((Text.outdent_suffix width tabsize l).subset hmem)

theorem length_closed_le_shifted (width tabsize : Nat) (xs : List Text) :
    (closed xs).length ≤ (closed (xs.map (shiftLine true width tabsize))).length := by
  induction xs with
  | nil => exact Nat.le_refl _
  | cons l xs ih =>
    have hl : l.length ≤ (shiftLine true width tabsize l).length := by
      by_cases hnil : l = []
      · rw [hnil]
        exact Nat.zero_le _
      · rw [shiftLine_right hnil, List.length_append]
        exact Nat.le_add_left _ _
    rw [List.map_cons]
    simp only [closed, List.flatMap_cons, List.length_append] at ih ⊢
    omega

/-- Lines are the same shifted to the right, or one of them is the last that is not. -/
theorem shifted_cases (width tabsize : Nat) (ys : List Text) :
    ys.map (shiftLine true width tabsize) = ys ∨
      0 < width ∧ ∃ xs l es, ys = xs ++ l :: es ∧ l ≠ [] ∧
        ys.map (shiftLine true width tabsize)
          = xs.map (shiftLine true width tabsize) ++ (List.replicate width ' ' ++ l) :: es := by
  induction ys with
  | nil => exact .inl rfl
  | cons y ys ih =>
    rcases ih with hsame | ⟨hpos, xs, l, es, rfl, hl, hshifted⟩
    · by_cases hstay : shiftLine true width tabsize y = y
      · exact .inl (by rw [List.map_cons, hstay, hsame])
      · have hy : y ≠ [] := fun hnil ↦ hstay (hnil ▸ rfl)
        have hpos : 0 < width := Nat.pos_of_ne_zero fun hzero ↦ hstay (by
          rw [hzero, shiftLine_right hy]
          rfl)
        exact .inr ⟨hpos, [], y, ys, rfl, hy, by rw [List.map_cons, hsame, shiftLine_right hy]; rfl⟩
    · exact .inr ⟨hpos, y :: xs, l, es, rfl, hl, by rw [List.map_cons, hshifted]; rfl⟩

/-- An edit between lines and the same lines shifted to the right meets text, whichever of them it
leads to. -/
theorem meetsText_of_shifted (hys : ∀ y ∈ ys, IsLine y) {t u before after v w : Text}
    (ht : t = unlines ys) (hu : u = unlines (ys.map (shiftLine true width tabsize)))
    (hne : t ≠ u) (hbefore : before.length = Edit.commonStart t u)
    (hold : t = before ++ v ++ after) (hnew : u = before ++ w ++ after)
    (htail : Edit.commonStart v.reverse w.reverse = 0) : MeetsText before after := by
  rcases shifted_cases width tabsize ys with hsame | ⟨hpos, xs, l, es, rfl, hl, hshifted⟩
  · exact absurd (by rw [ht, hu, hsame]) hne
  · obtain ⟨hxs, hrest⟩ := List.forall_mem_append.mp hys
    rw [Text.unlines_append xs (List.cons_ne_nil l es), Text.unlines_cons] at ht
    rw [hshifted, Text.unlines_append _ (List.cons_ne_nil _ es), Text.unlines_cons,
      List.append_assoc] at hu
    refine Edit.meetsText_of_indented (List.length_map _)
      (length_closed_le_shifted width tabsize xs) hxs ?_ (hrest l List.mem_cons_self) hl hpos ht hu hbefore hold hnew htail
    intro y hy
    obtain ⟨x, hx, rfl⟩ := List.mem_map.mp hy
    exact isLine_shiftLine (hxs x hx) true width tabsize

/-! ## Where the edit is placed -/

/-- An edit between the text of lines and another one is not misplaced if it meets text. -/
theorem placesLines_of_meetsText {new : List Text} (hfirst : 1 ≤ first) (hle : first ≤ last)
    (hlast : last ≤ d.text.lines.length)
    (h : ∀ e before after, Edit.between (d.text.linesText first last) (unlines new) = some e →
      before.length = e.start → d.text.linesText first last = before ++ e.removed ++ after →
      unlines new = before ++ e.inserted ++ after → MeetsText before after) :
    d.PlacesLines first last new := by
  intro f hf
  obtain ⟨e, he, rfl⟩ := Option.map_eq_some_iff.mp hf
  obtain ⟨hne, hbounds⟩ := inLines_lineRange hfirst hle hlast
  obtain ⟨before, after, hbefore, hold, hnew⟩ := Edit.leads_of_between he
  have hmeets := h e before after he hbefore hold hnew
  have htext : d.text = _ := Text.eq_of_lines_eq_append
    (d.text.lines_eq_lineRange hfirst (Nat.le_succ_of_le hle)) hne
  rw [hbounds]
  have hleads := (Edit.leads_of_between he).shift (closed (d.text.lines.take (first - 1)))
    (opened (d.text.lines.drop last))
  rw [Text.linesText, ← htext] at hleads
  obtain ⟨hstart, hstop⟩ := hleads.stretch_call
  have hcut : d.text = closed (d.text.lines.take (first - 1)) ++ before
      ++ (e.removed ++ (after ++ opened (d.text.lines.drop last))) := by
    conv_lhs => rw [htext, ← Text.linesText, hold]
    simp only [List.append_assoc]
  generalize closed (d.text.lines.take (first - 1)) = front at hcut hstart hstop
  generalize opened (d.text.lines.drop last) = back at hcut
  have hfront : (e.shift front.length).start = (front ++ before).length := by
    rw [List.length_append, hbefore, Edit.shift, Nat.add_comm]
  have hback : (e.shift front.length).oldEnd = (front ++ before).length + e.removed.length := by
    rw [Edit.oldEnd, hfront]
    rfl
  refine Surface.not_misplaces_of_meetsText ?_
  rw [hstart, hstop, hfront, hback]
  change MeetsText (d.text.take _) (d.text.drop _)
  rw [hcut, List.take_left, ← List.drop_drop, List.drop_left, List.drop_left]
  exact hmeets.append front back

/-- The edit that shifts lines to the right is not misplaced, whatever the surface. -/
theorem placesLines_shiftLine_right (hfirst : 1 ≤ first) (hle : first ≤ last)
    (hlast : last ≤ d.text.lines.length) (width tabsize : Nat) :
    d.PlacesLines first last
      ((d.text.lineRange first last).map (shiftLine true width tabsize)) := by
  have hlines : ∀ y ∈ d.text.lineRange first last, IsLine y := fun _ ↦ Text.isLine_of_mem_lineRange
  refine placesLines_of_meetsText hfirst hle hlast fun e before after he hbefore hold hnew ↦ ?_
  exact meetsText_of_shifted hlines rfl rfl (Edit.ne_of_between he)
    (hbefore.trans (Edit.start_of_between he)) hold hnew (Edit.isReduced_of_between he).tail

/-- Nor is the edit that shifts them back. -/
theorem placesLines_of_shiftLine_right (hfirst : 1 ≤ first) (hle : first ≤ last)
    (hlast : last ≤ d.text.lines.length) (hys : ∀ y ∈ ys, IsLine y)
    (h : d.text.lineRange first last = ys.map (shiftLine true width tabsize)) :
    d.PlacesLines first last ys := by
  refine placesLines_of_meetsText hfirst hle hlast fun e before after he hbefore hold hnew ↦ ?_
  rw [Text.linesText, h] at he hold
  -- the edit goes from the shifted lines to the others
  exact meetsText_of_shifted hys rfl rfl (Edit.ne_of_between he).symm
    (hbefore.trans ((Edit.start_of_between he).trans (Edit.commonStart_comm _ _))) hnew hold
    ((Edit.commonStart_comm _ _).trans (Edit.isReduced_of_between he).tail)

/-! ## Shifting as commands do -/

/-- By how many columns lines are shifted. -/
def shiftColumns (o : Options) (times : Nat) : Nat := o.shiftwidth.toNat * max times 1

/-- How far tab stops are apart, where 0 counts as 1. -/
def tabStops (o : Options) : Nat := if o.tabsize < 0 then 1 else o.tabsize.toNat

/-- Lines shifted by a command that is given `times` times. -/
def shifted (o : Options) (right : Bool) (times : Nat) (ls : List Text) : List Text :=
  ls.map (shiftLine right (shiftColumns o times) (tabStops o))

theorem isLine_of_mem_shifted {o : Options} {right : Bool} {ls : List Text}
    (h : ∀ l ∈ ls, IsLine l) : ∀ l ∈ shifted o right times ls, IsLine l := by
  intro l hl
  obtain ⟨x, hx, rfl⟩ := List.mem_map.mp hl
  exact isLine_shiftLine (h x hx) _ _ _

theorem shifted_left_right (o : Options) (times : Nat) (ls : List Text) :
    shifted o false times (shifted o true times ls) = ls := by
  rw [shifted, shifted, List.map_map]
  exact List.map_id'' (fun l ↦ shiftLine_left_right _ _ l) ls

/-- Shifting puts the shifted lines in place of the others exactly if the edit does not misplace its
text. -/
theorem lines_shiftLines_iff (hfirst : 1 ≤ first) (hle : first ≤ last)
    (hlast : last ≤ d.text.lines.length) (id : RangeId) (times : Nat) (right : Bool) :
    let new := shifted d.options right times (d.text.lineRange first last)
    (d.shiftLines id first last times right).text.lines
        = d.text.lines.take (first - 1) ++ new ++ d.text.lines.drop last ↔
      d.PlacesLines first last new := by
  intro new
  obtain ⟨hne, -⟩ := inLines_lineRange hfirst hle hlast
  have hnew : new ≠ [] := fun hnil ↦ hne (List.map_eq_nil_iff.mp hnil)
  have hedit : (d.shiftLines id first last times right).text
      = (d.edit (.inLines d.text first last) (unlines new)).text := rfl
  rw [hedit]
  exact lines_edit_iff hfirst hle hlast hnew
    (isLine_of_mem_shifted fun _ ↦ Text.isLine_of_mem_lineRange)

/-- There are as many lines after a shift to the right. -/
theorem lineCount_of_shifted_right {t u : Text} {zs : List Text} {o : Options}
    (ht : t.lines = xs ++ ys ++ zs) (hu : u.lines = xs ++ shifted o true times ys ++ zs) :
    u.lines.length = t.lines.length ∧ u.lineCount = t.lineCount := by
  have hlength : u.lines.length = t.lines.length := by
    rw [ht, hu]
    simp only [shifted, List.length_append, List.length_map]
  refine ⟨hlength, Text.lineCount_congr hlength ?_⟩
  rw [ht, hu]
  simp only [shifted, List.getLast?_append, List.getLast?_map]
  -- the last line may be among those that are shifted
  cases zs.getLast? with
  | some l => exact Iff.rfl
  | none =>
    cases ys.getLast? with
    | some l =>
      simp only [Option.map_some, Option.some_or, Option.none_or, Option.some.injEq]
      exact shiftLine_right_eq_nil_iff
    | none => exact Iff.rfl

theorem options_shiftLines (d : Document) (id : RangeId) (first last times : Nat) (right : Bool) :
    (d.shiftLines id first last times right).options = d.options :=
  d.options_replace _ _ _ _

end Document

end LineEditor
