import LineEditor.Proofs.Document.LineEdits

/-!
# Substituting line by line

A substitution goes through lines one by one, in a text that changes on the way. But it starts with
the last line. What it finds in a line depends on the text up to the end of that line alone; and
whatever it does to a line, the text in front of the line stays as it is, on any surface, even where
what is put in ends up in the wrong place.

So all of it can be worked out on the text as it is in the beginning: which lines have matches, what
comes in their place, and by which edits. The substitution does the same as if all of these were
made at once.
-/

namespace LineEditor

open Text (closed opened unlines)

variable {t u : Text} {n : Nat}

/-! ## A line and the text in front of it -/

namespace Text

theorem line_succ (hn : n < t.lines.length) : t.line (n + 1) = t.lines[n] := by
  rw [line, Nat.add_sub_cancel, List.getD_eq_getElem?_getD, List.getElem?_eq_getElem hn,
    Option.getD_some]

/-- The lines up to a line, and the line itself. -/
theorem take_lines_succ (hn : n < t.lines.length) :
    t.lines.take (n + 1) = t.lines.take n ++ [t.line (n + 1)] := by
  rw [List.take_succ_eq_append_getElem hn, line_succ hn]

/-- A text that has the first lines of another one. -/
theorem lines_eq_of_take (hn : n < t.lines.length)
    (h : u.lines.take (n + 1) = t.lines.take (n + 1)) :
    u.lines = t.lines.take n ++ [t.line (n + 1)] ++ u.lines.drop (n + 1) := by
  rw [← take_lines_succ hn, ← h, List.take_append_drop]

/-- The lines in front are those of the text that they make up. -/
theorem take_lines_of_take_eq {k : Nat} (hk : k ≤ t.lines.length)
    (h : u.take (closed (t.lines.take k)).length = closed (t.lines.take k)) :
    u.lines.take k = t.lines.take k := by
  have hisLine : ∀ l ∈ t.lines.take k, IsLine l := fun l hl ↦
    isLine_of_mem_lines (List.mem_of_mem_take hl)
  have hlines := lines_closed_append hisLine (u.drop (closed (t.lines.take k)).length)
  have htext := u.take_append_drop (closed (t.lines.take k)).length
  rw [h] at htext
  rw [htext] at hlines
  rw [hlines]
  exact List.take_left' (List.length_take_of_le hk)

/-- Lines one after the other. -/
theorem map_line_range' {j k : Nat} (h : k + j ≤ t.lines.length) :
    (List.range' (k + 1) j).map t.line = (t.lines.drop k).take j := by
  induction j generalizing k with
  | zero => rfl
  | succ j ih =>
    have hk : k < t.lines.length := by omega
    rw [List.range'_succ, List.map_cons, ih (by omega), List.drop_eq_getElem_cons hk, line_succ hk,
      List.take_succ_cons]

/-- Lines keep their places in front of others, even if these are none. -/
theorem take_lines_unlines (hn : n < t.lines.length) (ws : List Text) :
    (unlines (t.lines.take (n + 1) ++ ws)).lines.take (n + 1) = t.lines.take (n + 1) := by
  by_cases hws : ws = []
  · have hne : t.lines.take (n + 1) ≠ [] := by
      rw [take_lines_succ hn]
      exact List.append_ne_nil_of_right_ne_nil _ (List.cons_ne_nil _ [])
    rw [hws, List.append_nil, lines_unlines hne fun l hl ↦
      isLine_of_mem_lines (List.mem_of_mem_take hl), List.take_take, Nat.min_self]
  · refine take_lines_of_take_eq hn ?_
    rw [unlines_append _ hws]
    exact List.take_left

end Text

/-- The bounds of a line in any text that begins with the lines up to it. -/
theorem Bounds.inLines_of_take (hn : n < t.lines.length)
    (h : u.lines.take (n + 1) = t.lines.take (n + 1)) :
    inLines u (n + 1) (n + 1) = ⟨(closed (t.lines.take n)).length,
      (closed (t.lines.take n) ++ t.line (n + 1)).length⟩ := by
  have hbounds := inLines_cut (Text.lines_eq_of_take hn h) (List.cons_ne_nil _ [])
  rwa [List.length_take_of_le (Nat.le_of_lt hn)] at hbounds

/-- The text of the line is between them. -/
theorem Bounds.splice_inLines (hn : n < t.lines.length)
    (h : u.lines.take (n + 1) = t.lines.take (n + 1)) :
    let b := inLines t (n + 1) (n + 1)
    b.start ≤ b.stop ∧ b.stop ≤ u.length ∧ u.take b.start = closed (t.lines.take n) ∧
      u.take b.stop = closed (t.lines.take n) ++ t.line (n + 1) ∧
      u.slice b.start b.stop = t.line (n + 1) ∧
      u.drop b.stop = opened (u.lines.drop (n + 1)) := by
  have hlines := Text.lines_eq_of_take hn h
  rw [List.append_assoc] at hlines
  obtain ⟨hle, hstop⟩ := Text.length_le_of_lines_eq hlines
  have hend := Text.take_end_of_lines_eq hlines
  simp only [Bounds.inLines_of_take hn rfl]
  refine ⟨hle, hstop, ?_, hend, ?_, Text.drop_of_lines_eq hlines⟩
  · exact Text.take_start (List.append_assoc _ _ _ ▸ hlines) (List.cons_ne_nil _ [])
  · rw [Text.slice, Nat.max_eq_right hle, hend, List.drop_left]

namespace Surface

variable {s : Surface} {cs cs' : List Call}

theorem calls_append : s.calls (cs ++ cs') = (s.calls cs).calls cs' := List.foldl_append

theorem throughout_append {P : Surface → Call → Prop} :
    s.Throughout P (cs ++ cs') ↔ s.Throughout P cs ∧ (s.calls cs).Throughout P cs' := by
  induction cs generalizing s with
  | nil => exact (true_and _).to_iff.symm
  | cons c cs ih =>
    simp only [List.cons_append, Throughout, ih, and_assoc]
    rfl

theorem throughout_of_isFlat (hs : s.IsFlat) (cs : List Call) :
    s.Throughout (fun s c ↦ ¬ s.Misplaces c) cs :=
  (throughout_congr (fun _ _ ↦ obeys_iff) s cs).mp (throughout_obeys_of_isFlat hs cs)

end Surface

/-- Nothing behind a region is looked at. -/
theorem Search.replace_congr {m : Matcher} {region : Bounds} {template : Text}
    {all backward magic : Bool} (hle : region.start ≤ region.stop) (ht : region.stop ≤ t.length)
    (hu : region.stop ≤ u.length) (h : u.take region.stop = t.take region.stop) :
    replace m u region template all backward magic
      = replace m t region template all backward magic := by
  unfold replace
  rw [h, Nat.min_eq_left (Nat.le_trans hle ht), Nat.min_eq_left (Nat.le_trans hle hu)]

/-- What is replaced has been found. -/
theorem Search.pos_of_replace {m : Matcher} {t template piece : Text} {region : Bounds}
    {all backward magic : Bool} {n : Nat}
    (h : Search.replace m t region template all backward magic = some (piece, n)) : 0 < n := by
  unfold Search.replace at h
  extract_lets hay start found found' at h
  split at h
  · exact absurd h nofun
  · next hfound =>
    obtain ⟨-, rfl⟩ := Prod.mk.inj (Option.some.inj h)
    exact List.length_pos_iff.mpr fun hnil ↦ hfound (by rw [hnil]; rfl)

namespace Document

/-! ## What a substitution comes to -/

namespace Replacement

/-- What comes in place of line `n` of a text, and how many matches that replaces; `none` if there
is no match in the line. -/
def inLine? (r : Replacement) (t : Text) (n : Nat) : Option (Text × Nat) :=
  Search.replace r.matcher t (.inLines t n n) r.template r.all false r.magic

/-- The text of line `n` afterwards. -/
def lineAfter (r : Replacement) (t : Text) (n : Nat) : Text :=
  ((r.inLine? t n).map Prod.fst).getD (t.line n)

/-- The edit of line `n`, if there is anything to edit. -/
def edit? (r : Replacement) (t : Text) (n : Nat) : Option Edit :=
  (r.inLine? t n).bind fun found ↦
    (Edit.between (t.line n) found.1).map (·.shift (Bounds.inLines t n n).start)

/-- The calls to the surface by which lines are edited, one after the other. -/
def calls (r : Replacement) (t : Text) (ns : List Nat) : List Surface.Call :=
  (ns.filterMap (r.edit? t)).map Edit.call

variable (r : Replacement)

theorem calls_cons (t : Text) (n : Nat) (ns : List Nat) :
    r.calls t (n :: ns) = (r.edit? t n).toList.map Edit.call ++ r.calls t ns := by
  simp only [calls, List.filterMap_cons]
  cases r.edit? t n <;> rfl

/-- Where there are no matches, no calls are made. -/
theorem calls_eq_nil {ns : List Nat} (h : ∀ n ∈ ns, r.inLine? t n = none) : r.calls t ns = [] := by
  have hedits : ns.filterMap (r.edit? t) = [] := List.filterMap_eq_nil_iff.mpr fun n hn ↦ by
    rw [edit?, h n hn, Option.bind_none]
  rw [calls, hedits, List.map_nil]

/-- What comes in place of a line is the same in any text that begins with the lines up to it. -/
theorem inLine?_of_take (hn : n < t.lines.length)
    (h : u.lines.take (n + 1) = t.lines.take (n + 1)) :
    r.inLine? u (n + 1) = r.inLine? t (n + 1) := by
  obtain ⟨hle, hstop, -, htake, -⟩ := Bounds.splice_inLines hn h
  obtain ⟨-, hstop', -, htake', -⟩ := Bounds.splice_inLines hn (rfl : t.lines.take (n + 1) = _)
  have hbounds : Bounds.inLines u (n + 1) (n + 1) = Bounds.inLines t (n + 1) (n + 1) := by
    rw [Bounds.inLines_of_take hn h, Bounds.inLines_of_take hn rfl]
  rw [inLine?, inLine?, hbounds]
  exact Search.replace_congr hle hstop' hstop (htake.trans htake'.symm)

end Replacement

/-! ## One line -/

variable {r : Replacement} {d : Document} {piece : Text}

/-- What comes in place of a line is put there by the edit between the two. -/
theorem fst_edit_line (hn : n < t.lines.length)
    (h : d.text.lines.take (n + 1) = t.lines.take (n + 1)) (piece : Text) :
    let b := Bounds.inLines t (n + 1) (n + 1)
    (d.replace b.start b.stop piece .command).1
      = (Edit.between (t.line (n + 1)) piece).map (·.shift b.start) := by
  intro b
  obtain ⟨hle, hstop, -, -, hslice, -⟩ := Bounds.splice_inLines hn h
  have hclamp : (Bounds.mk b.start b.stop).clamp d.length = b := Bounds.clamp_of_le hle hstop
  rw [fst_replace, hclamp, hslice]

namespace Substituted

variable {s : Substituted}

/-- Replacing in a line goes by the text that the substitution began with. -/
theorem step_of_none (hn : n < t.lines.length)
    (h : s.document.text.lines.take (n + 1) = t.lines.take (n + 1))
    (hfound : r.inLine? t (n + 1) = none) : s.step r (n + 1) (n + 1) = s := by
  rw [← r.inLine?_of_take hn h, Replacement.inLine?] at hfound
  simp only [step, hfound]

theorem step_of_some {k : Nat} (hn : n < t.lines.length)
    (h : s.document.text.lines.take (n + 1) = t.lines.take (n + 1))
    (hfound : r.inLine? t (n + 1) = some (piece, k)) :
    s.step r (n + 1) (n + 1) = ⟨s.document.edit (.inLines t (n + 1) (n + 1)) piece, s.count + k,
      s.line?.or (some (n + 1))⟩ := by
  have hbounds : Bounds.inLines s.document.text (n + 1) (n + 1)
      = Bounds.inLines t (n + 1) (n + 1) := by
    rw [Bounds.inLines_of_take hn h, Bounds.inLines_of_take hn rfl]
  rw [← r.inLine?_of_take hn h, Replacement.inLine?, hbounds] at hfound
  simp only [step, hbounds, hfound]

/-- The lines in front stay as they are, on any surface. -/
theorem take_lines_step (hn : n < t.lines.length)
    (h : s.document.text.lines.take (n + 1) = t.lines.take (n + 1)) :
    (s.step r (n + 1) (n + 1)).document.text.lines.take n = t.lines.take n := by
  cases hfound : r.inLine? t (n + 1) with
  | none =>
    have hfront := congrArg (List.take n) h
    rw [List.take_take, List.take_take, Nat.min_eq_left (Nat.le_succ n)] at hfront
    rw [step_of_none hn h hfound, hfront]
  | some found =>
    obtain ⟨hle, hstop, hstart, -⟩ := Bounds.splice_inLines hn h
    have hlength : (Bounds.inLines t (n + 1) (n + 1)).start = (closed (t.lines.take n)).length := by
      rw [Bounds.inLines_of_take hn rfl]
    rw [step_of_some hn h hfound]
    refine Text.take_lines_of_take_eq (Nat.le_of_lt hn) ?_
    rw [← hlength]
    exact (take_text_replace hle hstop found.1 .command).trans hstart

/-- The surface gets the call for the line, if there is one. -/
theorem surface_step (hn : n < t.lines.length)
    (h : s.document.text.lines.take (n + 1) = t.lines.take (n + 1)) :
    (s.step r (n + 1) (n + 1)).document.surface
      = s.document.surface.calls ((r.edit? t (n + 1)).toList.map Edit.call) := by
  cases hfound : r.inLine? t (n + 1) with
  | none =>
    rw [step_of_none hn h hfound, Replacement.edit?, hfound]
    rfl
  | some found =>
    have hedit := fst_edit_line hn h found.1
    rw [step_of_some hn h hfound, Replacement.edit?, hfound, Option.bind_some, ← hedit]
    simp only [edit]
    generalize hb : Bounds.inLines t (n + 1) (n + 1) = b
    cases he : (s.document.replace b.start b.stop found.1 .command).1 with
    | none =>
      rw [replace_of_none he]
      rfl
    | some e =>
      rw [replace_of_some he]
      rfl

/-- If the call does not misplace its text, the line becomes what it is to become. What stands
behind it does not matter. -/
theorem text_step (hn : n < t.lines.length) {ws : List Text}
    (htext : s.document.text = unlines (t.lines.take (n + 1) ++ ws))
    (hplaced : ∀ e, r.edit? t (n + 1) = some e → ¬ s.document.surface.Misplaces e.call) :
    (s.step r (n + 1) (n + 1)).document.text
      = unlines (t.lines.take n ++ r.lineAfter t (n + 1) :: ws) := by
  have h : s.document.text.lines.take (n + 1) = t.lines.take (n + 1) := by
    rw [htext, Text.take_lines_unlines hn]
  have hline : t.lines.take (n + 1) ++ ws = t.lines.take n ++ [t.line (n + 1)] ++ ws := by
    rw [Text.take_lines_succ hn]
  cases hfound : r.inLine? t (n + 1) with
  | none =>
    rw [step_of_none hn h hfound, Replacement.lineAfter, hfound, htext, hline, List.append_assoc]
    rfl
  | some found =>
    obtain ⟨hle, hstop, hstart, -⟩ := Bounds.splice_inLines hn h
    have hedit := fst_edit_line hn h found.1
    have hback : s.document.text.drop (Bounds.inLines t (n + 1) (n + 1)).stop = opened ws := by
      rw [Bounds.inLines_of_take hn rfl, htext, hline,
        Text.unlines_append_append (List.cons_ne_nil _ [])]
      exact List.drop_left
    have hafter := (text_replace_iff hle hstop found.1 .command).mpr fun e he ↦
      hplaced e (by rw [Replacement.edit?, hfound, Option.bind_some, ← hedit, he])
    rw [hstart, hback] at hafter
    rw [step_of_some hn h hfound, Replacement.lineAfter, hfound]
    refine hafter.trans ?_
    have hsplice := Text.unlines_append_append (List.cons_ne_nil found.1 []) (t.lines.take n) ws
    rw [List.append_assoc] at hsplice
    exact hsplice.symm

/-- The line kept is that of the first replacement made. -/
theorem line?_step (hn : n < t.lines.length)
    (h : s.document.text.lines.take (n + 1) = t.lines.take (n + 1)) :
    (s.step r (n + 1) (n + 1)).line?
      = s.line?.or (if (r.inLine? t (n + 1)).isSome then some (n + 1) else none) := by
  cases hfound : r.inLine? t (n + 1) with
  | none =>
    rw [step_of_none hn h hfound]
    exact (Option.or_none).symm
  | some found =>
    rw [step_of_some hn h hfound]
    rfl

/-- There is one as soon as anything is counted. -/
theorem count_eq_zero_iff_step (hs : s.count = 0 ↔ s.line? = none) (first last : Nat) :
    (s.step r first last).count = 0 ↔ (s.step r first last).line? = none := by
  unfold step
  extract_lets t region
  cases hfound : Search.replace r.matcher t region r.template r.all false r.magic with
  | none => exact hs
  | some found =>
    have hpos := Search.pos_of_replace hfound
    refine iff_of_false (Nat.ne_of_gt (Nat.add_pos_right _ hpos)) ?_
    cases s.line? <;> exact Option.some_ne_none _

/-! ## All lines -/

variable {k : Nat}

theorem reverse_range'_succ (n k : Nat) :
    (List.range' (n + 1) (k + 1)).reverse = (n + k + 1) :: (List.range' (n + 1) k).reverse := by
  rw [List.range'_1_concat, List.reverse_append, Nat.add_right_comm]
  rfl

/-- What a substitution has come to after the `k` lines behind line `n`, the last one first, goes by
the text that it began with. -/
theorem foldl_step (hk : n + k ≤ t.lines.length)
    (h : s.document.text.lines.take (n + k) = t.lines.take (n + k)) :
    let ns := (List.range' (n + 1) k).reverse
    let s' := ns.foldl (fun s n ↦ s.step r n n) s
    s'.document.surface = s.document.surface.calls (r.calls t ns) ∧
      s'.line? = s.line?.or (ns.find? fun n ↦ (r.inLine? t n).isSome) := by
  induction k generalizing s with
  | zero => exact ⟨rfl, Option.or_none.symm⟩
  | succ k ih =>
    have hlt : n + k < t.lines.length := hk
    obtain ⟨hsurface, hline⟩ := ih (Nat.le_of_lt hlt) (take_lines_step (r := r) hlt h)
    intro ns s'
    simp only [s', ns, reverse_range'_succ, List.foldl_cons]
    refine ⟨?_, ?_⟩
    · rw [hsurface, surface_step hlt h, ← Surface.calls_append, r.calls_cons]
    · rw [hline, line?_step hlt h, Option.or_assoc, List.find?_cons]
      congr 1
      cases (r.inLine? t (n + k + 1)).isSome <;> rfl

/-- If no call misplaces its text, the lines become what they are to become. -/
theorem text_foldl_step (hk : n + k ≤ t.lines.length) {ws : List Text}
    (htext : s.document.text = unlines (t.lines.take (n + k) ++ ws))
    (hplaced : s.document.surface.Throughout (fun s c ↦ ¬ s.Misplaces c)
      (r.calls t (List.range' (n + 1) k).reverse)) :
    ((List.range' (n + 1) k).reverse.foldl (fun s n ↦ s.step r n n) s).document.text
      = unlines (t.lines.take n ++ (List.range' (n + 1) k).map (r.lineAfter t) ++ ws) := by
  induction k generalizing s ws with
  | zero =>
    rw [List.range'_zero, List.map_nil, List.append_nil]
    exact htext
  | succ k ih =>
    have hlt : n + k < t.lines.length := hk
    have h : s.document.text.lines.take (n + k + 1) = t.lines.take (n + k + 1) := by
      rw [htext]
      exact Text.take_lines_unlines hlt ws
    rw [reverse_range'_succ, r.calls_cons, Surface.throughout_append] at hplaced
    obtain ⟨hplaced, hrest⟩ := hplaced
    rw [← surface_step hlt h] at hrest
    have hstep := text_step hlt htext fun e he ↦ by
      rw [he] at hplaced
      exact hplaced.1
    rw [reverse_range'_succ, List.foldl_cons, ih (Nat.le_of_lt hlt) hstep hrest,
      List.range'_1_concat, List.map_append, Nat.add_right_comm n k 1]
    simp only [List.append_assoc, List.map_cons, List.map_nil, List.singleton_append]

theorem count_eq_zero_iff_foldl_step (hs : s.count = 0 ↔ s.line? = none) (ns : List Nat) :
    (ns.foldl (fun s n ↦ s.step r n n) s).count = 0 ↔
      (ns.foldl (fun s n ↦ s.step r n n) s).line? = none := by
  induction ns generalizing s with
  | nil => exact hs
  | cons n ns ih => exact ih (count_eq_zero_iff_step hs n n)

end Substituted

theorem Substituted.step_eq_or_lt (r : Replacement) (s : Substituted) (first last : Nat) :
    s.step r first last = s ∨ s.count < (s.step r first last).count := by
  unfold Substituted.step
  extract_lets t region
  cases hfound : Search.replace r.matcher t region r.template r.all false r.magic with
  | none => exact .inl rfl
  | some found => exact .inr (Nat.lt_add_of_pos_right (Search.pos_of_replace hfound))

/-- The count only grows from line to line, so it stays the same only if nothing is replaced. -/
theorem Substituted.foldl_step_eq_or_lt (r : Replacement) (ls : List Nat) (s : Substituted) :
    ls.foldl (fun s n ↦ s.step r n n) s = s ∨
      s.count < (ls.foldl (fun s n ↦ s.step r n n) s).count := by
  induction ls generalizing s with
  | nil => exact .inl rfl
  | cons n ls ih =>
    rw [List.foldl_cons]
    rcases s.step_eq_or_lt r n n with hstep | hstep
    · rw [hstep]
      exact ih s
    · rcases ih (s.step r n n) with hrest | hrest
      · rw [hrest]
        exact .inr hstep
      · exact .inr (Nat.lt_trans hstep hrest)

/-- A substitution that counts nothing has replaced nothing. -/
theorem document_substituteLines {r : Replacement} {first last : Nat}
    (h : (d.substituteLines r first last).count = 0) :
    (d.substituteLines r first last).document = d := by
  have hgrown : d.substituteLines r first last = ⟨d, 0, none⟩ ∨
      0 < (d.substituteLines r first last).count := by
    unfold substituteLines
    split
    · exact Substituted.step_eq_or_lt r ⟨d, 0, none⟩ first last
    · exact Substituted.foldl_step_eq_or_lt r _ ⟨d, 0, none⟩
  rcases hgrown with heq | hlt
  · rw [heq]
  · exact absurd h (Nat.ne_of_gt hlt)


/-- There is a line kept exactly if anything is counted. -/
theorem count_substituteLines_eq_zero_iff (d : Document) (r : Replacement) (first last : Nat) :
    (d.substituteLines r first last).count = 0 ↔ (d.substituteLines r first last).line? = none := by
  have hbegin : (Substituted.mk d 0 none).count = 0 ↔ (Substituted.mk d 0 none).line? = none :=
    iff_of_true rfl rfl
  unfold substituteLines
  split
  · exact Substituted.count_eq_zero_iff_step hbegin first last
  · exact Substituted.count_eq_zero_iff_foldl_step hbegin _

/-- **Substituting in one line after the other is substituting in all of them at once.** The calls
to the surface, the count and the line kept can be told from the text that there is in the
beginning; and if no call misplaces its text, each line is replaced as it would be there. -/
theorem substituteLines_eq {first last : Nat} (hmultiline : d.options.multiline = false)
    (hfirst : 1 ≤ first) (hle : first ≤ last + 1) (hlast : last ≤ d.text.lines.length)
    (r : Replacement) :
    let ns := List.range' first (last + 1 - first)
    let made := d.substituteLines r first last
    made.document.surface = d.surface.calls (r.calls d.text ns.reverse) ∧
      made.line? = ns.reverse.find? (fun n ↦ (r.inLine? d.text n).isSome) ∧
      (made.count = 0 ↔ ∀ n ∈ ns, r.inLine? d.text n = none) ∧
      (d.surface.Throughout (fun s c ↦ ¬ s.Misplaces c) (r.calls d.text ns.reverse) →
        made.document.text = unlines (d.text.lines.take (first - 1) ++ ns.map (r.lineAfter d.text)
          ++ d.text.lines.drop last)) := by
  obtain ⟨n, rfl⟩ : ∃ n, first = n + 1 := ⟨first - 1, (Nat.sub_add_cancel hfirst).symm⟩
  obtain ⟨k, rfl⟩ : ∃ k, last = n + k := ⟨last - n, by omega⟩
  have hk : n + k + 1 - (n + 1) = k := by omega
  have hcount := d.count_substituteLines_eq_zero_iff r (n + 1) (n + k)
  have hmade : d.substituteLines r (n + 1) (n + k)
      = (List.range' (n + 1) k).reverse.foldl (fun s n ↦ s.step r n n) ⟨d, 0, none⟩ := by
    rw [substituteLines, hmultiline, hk]
    rfl
  rw [hmade] at hcount
  rw [hk, hmade]
  intro ns made
  obtain ⟨hsurface, hline⟩ := Substituted.foldl_step (r := r) (s := ⟨d, 0, none⟩) hlast rfl
  refine ⟨hsurface, hline, ?_, fun hplaced ↦ ?_⟩
  · have hfound : made.line? = ns.reverse.find? fun n ↦ (r.inLine? d.text n).isSome := hline
    rw [show made.count = 0 ↔ made.line? = none from hcount, hfound, List.find?_eq_none]
    simp only [List.mem_reverse, Bool.not_eq_true, Option.isSome_eq_false_iff,
      Option.isNone_iff_eq_none]
  · refine Substituted.text_foldl_step hlast ?_ hplaced
    rw [List.take_append_drop, Text.unlines_lines]

/-! ## The last replacement -/

namespace Replacement

variable {r : Replacement} {k first last : Nat}

/-- A line in which there is no match stays as it is. -/
theorem lineAfter_of_none (h : r.inLine? t n = none) : r.lineAfter t n = t.line n := by
  rw [lineAfter, h]
  rfl

/-- Line `k` is the last one between two others in which there are matches. -/
structure IsLastHit (r : Replacement) (t : Text) (first last k : Nat) : Prop where
  /-- It is not in front of the first line. -/
  first_le : first ≤ k
  /-- It is not behind the last line. -/
  le_last : k ≤ last
  /-- There is a match in it. -/
  found : r.inLine? t k ≠ none
  /-- There is none in the lines behind it. -/
  none_behind : ∀ n, k < n → n ≤ last → r.inLine? t n = none

/-- The lines in front of it and those behind it. -/
theorem IsLastHit.range'_eq (h : r.IsLastHit t first last k) :
    List.range' first (last + 1 - first)
      = List.range' first (k - first) ++ k :: List.range' (k + 1) (last - k) := by
  have hfirst := h.first_le
  have hlast := h.le_last
  rw [show last + 1 - first = (k - first) + (last - k + 1) by omega, ← List.range'_append_1,
    Nat.add_sub_cancel' hfirst, List.range'_succ]

/-- It is where the first replacement is made. -/
theorem IsLastHit.find?_eq (h : r.IsLastHit t first last k) :
    (List.range' first (last + 1 - first)).reverse.find? (fun n ↦ (r.inLine? t n).isSome)
      = some k := by
  have hbehind : (List.range' (k + 1) (last - k)).reverse.find? (fun n ↦ (r.inLine? t n).isSome)
      = none := by
    rw [List.find?_eq_none]
    intro n hn
    rw [List.mem_reverse, List.mem_range'_1] at hn
    rw [h.none_behind n (by omega) (by omega)]
    exact Bool.false_ne_true
  rw [h.range'_eq, List.reverse_append, List.reverse_cons, List.append_assoc, List.find?_append,
    hbehind, Option.none_or]
  exact List.find?_cons_of_pos (Option.isSome_iff_ne_none.mpr h.found)

/-- As many lines are in front of it afterwards as before, if each becomes one line. -/
theorem IsLastHit.length_front (h : r.IsLastHit t first last k) (hfirst : 1 ≤ first)
    (hlast : last ≤ t.lines.length) :
    (t.lines.take (first - 1) ++ (List.range' first (k - first)).map (r.lineAfter t)).length + 1
      = k := by
  have hfirst' := h.first_le
  have hlast' := h.le_last
  rw [List.length_append, List.length_take, List.length_map, List.length_range']
  omega

/-- If what comes in place of the lines in front of it are single lines, these are followed by the
lines that it has become, and these by the lines that were behind it. -/
theorem IsLastHit.lines_eq (h : r.IsLastHit t first last k)
    (hlast : last ≤ t.lines.length)
    (hone : ∀ n, first ≤ n → n < k → Text.IsLine (r.lineAfter t n)) :
    (unlines (t.lines.take (first - 1)
        ++ (List.range' first (last + 1 - first)).map (r.lineAfter t) ++ t.lines.drop last)).lines
      = t.lines.take (first - 1) ++ (List.range' first (k - first)).map (r.lineAfter t)
        ++ (r.lineAfter t k).lines ++ t.lines.drop k := by
  have hle := h.le_last
  have hbehind : (List.range' (k + 1) (last - k)).map (r.lineAfter t) ++ t.lines.drop last
      = t.lines.drop k := by
    have hsame : ∀ n ∈ List.range' (k + 1) (last - k), r.lineAfter t n = t.line n := by
      intro n hn
      rw [List.mem_range'_1] at hn
      exact lineAfter_of_none (h.none_behind n (by omega) (by omega))
    have hdrop : t.lines.drop last = (t.lines.drop k).drop (last - k) := by
      rw [List.drop_drop, Nat.add_sub_cancel' hle]
    rw [List.map_congr_left hsame, Text.map_line_range' (by omega), hdrop, List.take_append_drop]
  generalize hA : t.lines.take (first - 1) ++ (List.range' first (k - first)).map (r.lineAfter t)
    = front
  have hfront : ∀ l ∈ front, Text.IsLine l := by
    intro l hl
    rw [← hA] at hl
    rcases List.mem_append.mp hl with hl | hl
    · exact Text.isLine_of_mem_lines (List.mem_of_mem_take hl)
    · obtain ⟨n, hn, rfl⟩ := List.mem_map.mp hl
      rw [List.mem_range'_1] at hn
      exact hone n hn.1 (by omega)
  have hsplit : t.lines.take (first - 1)
      ++ (List.range' first (last + 1 - first)).map (r.lineAfter t) ++ t.lines.drop last
        = front ++ [r.lineAfter t k] ++ t.lines.drop k := by
    rw [h.range'_eq, List.map_append, List.map_cons, ← hbehind, ← hA]
    simp only [List.append_assoc, List.cons_append, List.nil_append]
  have hlines := (r.lineAfter t k).lines_ne_nil
  have htext : unlines (front ++ [r.lineAfter t k] ++ t.lines.drop k)
      = unlines (front ++ (r.lineAfter t k).lines ++ t.lines.drop k) := by
    rw [Text.unlines_append_append (List.cons_ne_nil _ []), Text.unlines_append_append hlines,
      Text.unlines_lines]
    rfl
  rw [hsplit, htext]
  refine Text.lines_unlines (List.append_ne_nil_of_left_ne_nil
    (List.append_ne_nil_of_right_ne_nil _ hlines) _) fun l hl ↦ ?_
  rcases List.mem_append.mp hl with hl | hl
  · rcases List.mem_append.mp hl with hl | hl
    · exact hfront l hl
    · exact Text.isLine_of_mem_lines hl
  · exact Text.isLine_of_mem_lines (List.mem_of_mem_drop hl)

end Replacement

/-- The lines of a range that has been put on one line. -/
theorem lines_moveToLines_self {d : Document} {k : Nat} (hpos : 1 ≤ k)
    (hk : k ≤ d.text.lines.length) (id : RangeId) : (d.moveToLines id k k).lines id = (k, k) := by
  obtain ⟨n, rfl⟩ : ∃ n, k = n + 1 := ⟨k - 1, (Nat.sub_add_cancel hpos).symm⟩
  have hcut := Text.lines_eq_of_take hk rfl
  rw [List.append_assoc] at hcut
  have hlines := lines_moveToLines hcut id
  rwa [List.length_take_of_le (Nat.le_of_lt hk)] at hlines

end Document

/-- Whether the first line that has come in place of another one is counted: an empty line behind
which there is nothing is not, unless it is alone. -/
theorem Text.min_lineCount_of_lines_eq {front back : List Text} {piece : Text}
    (h : u.lines = front ++ piece.lines ++ back) :
    min (front.length + 1) u.lineCount
      = if piece = [] ∧ back = [] ∧ front ≠ [] then front.length else front.length + 1 := by
  by_cases hback : back = []
  · obtain ⟨ys, l, hpiece⟩ := piece.exists_lines_eq
    rw [hback, List.append_nil, hpiece, ← List.append_assoc] at h
    have hcount := lineCount_of_lines_eq h
    rw [List.length_append] at hcount
    by_cases hnil : piece = []
    · -- then the piece is one line, which is empty
      subst hnil
      obtain ⟨rfl, rfl⟩ : ys = [] ∧ l = [] := by
        have hone : ([] : List Text) ++ [[]] = ys ++ [l] := hpiece
        obtain ⟨hys, hl⟩ := List.append_inj' hone rfl
        exact ⟨hys.symm, (List.cons.inj hl).1.symm⟩
      rw [if_pos rfl, List.length_nil] at hcount
      by_cases hfront : front = []
      · rw [if_neg fun h ↦ h.2.2 hfront, hcount, hfront, List.length_nil]
        rfl
      · have hpos := List.length_pos_iff.mpr hfront
        rw [if_pos ⟨rfl, hback, hfront⟩]
        omega
    · have hpos : 1 ≤ ys.length + if l = [] then 0 else 1 := by
        by_cases hl : l = []
        · have hys : ys ≠ [] := fun hys ↦ hnil <| by
            rw [← piece.unlines_lines, hpiece, hys, hl]
            rfl
          exact Nat.le_add_right_of_le (List.length_pos_iff.mpr hys)
        · rw [if_neg hl]
          exact Nat.le_add_left 1 _
      rw [if_neg fun h ↦ hnil h.1]
      omega
  · have hle := length_le_lineCount h hback
    have hpos := List.length_pos_iff.mpr piece.lines_ne_nil
    rw [List.length_append] at hle
    rw [if_neg fun h ↦ hback h.2.1]
    omega

end LineEditor
