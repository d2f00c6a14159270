import LineEditor.Bounds.Line
import LineEditor.Text.Indent

/-!
# Texts as lists of lines

Splitting a text into its lines and putting lines together are inverse to each other, as long as no
line holds a separator. So what an edit of whole lines does can be said about the list of lines. The
offsets that lines start and end at are found by counting separators; here they are worked out from
the lines in front. A text that is cut somewhere in its list of lines has the form

```text
closed before ++ unlines lines ++ opened behind,
```

where the lines before have their separators behind them, and the lines behind in front of them.
-/

namespace LineEditor.Text

variable {t u l : Text} {xs ys zs : List Text} {n : Nat}

/-! ## Lines and texts -/

/-- The text is within one line. -/
def IsLine (l : Text) : Prop := separator ∉ l

/-- The lines, each with the separator behind it. -/
def closed (ls : List Text) : Text := ls.flatMap (· ++ [separator])

/-- The lines, each with the separator in front of it. -/
def opened (ls : List Text) : Text := ls.flatMap (separator :: ·)

theorem isLine_nil : IsLine [] := List.not_mem_nil

theorem isLine_append {m : Text} (hl : IsLine l) (hm : IsLine m) : IsLine (l ++ m) := fun h ↦
  (List.mem_append.mp h).elim hl hm

/-- Spaces and tabs are no separators. -/
theorem isLine_indentation (l : Text) : IsLine l.indentation := fun h ↦
  absurd (List.all_eq_true.mp List.all_takeWhile separator h) (by decide)

@[simp] theorem closed_append (xs ys : List Text) : closed (xs ++ ys) = closed xs ++ closed ys :=
  List.flatMap_append

theorem closed_singleton (l : Text) : closed [l] = l ++ [separator] := List.append_nil _

theorem unlines_cons (l : Text) (ls : List Text) : unlines (l :: ls) = l ++ opened ls := by
  induction ls generalizing l with
  | nil => exact (List.append_nil l).symm
  | cons m ls ih =>
    change l ++ [separator] ++ unlines (m :: ls) = l ++ opened (m :: ls)
    rw [ih m, List.append_assoc]
    rfl

theorem unlines_append (xs : List Text) (hys : ys ≠ []) :
    unlines (xs ++ ys) = closed xs ++ unlines ys := by
  induction xs with
  | nil => rfl
  | cons l xs ih =>
    have hne : xs ++ ys ≠ [] := List.append_ne_nil_of_right_ne_nil _ hys
    have hcons : unlines (l :: (xs ++ ys)) = l ++ [separator] ++ unlines (xs ++ ys) :=
      join_cons _ _ hne
    rw [List.cons_append, hcons, ih, ← List.append_assoc]
    rfl

theorem unlines_append_opened (hxs : xs ≠ []) (ys : List Text) :
    unlines (xs ++ ys) = unlines xs ++ opened ys := by
  obtain ⟨l, ls, rfl⟩ := List.exists_cons_of_ne_nil hxs
  rw [List.cons_append, unlines_cons, unlines_cons, opened, List.flatMap_append, List.append_assoc]
  rfl

/-- Lines with a separator behind each are the text they make with one more separator. -/
theorem closed_eq (hxs : xs ≠ []) : closed xs = unlines xs ++ [separator] := by
  have h : unlines (xs ++ [[]]) = closed xs ++ [] := unlines_append xs (List.cons_ne_nil [] [])
  rw [← List.append_nil (closed xs), ← h]
  exact unlines_append_opened hxs [[]]

/-- A text in its three parts. -/
theorem unlines_append_append (hys : ys ≠ []) (xs zs : List Text) :
    unlines (xs ++ ys ++ zs) = closed xs ++ unlines ys ++ opened zs := by
  rw [List.append_assoc, unlines_append xs (List.append_ne_nil_of_left_ne_nil hys zs),
    unlines_append_opened hys, List.append_assoc]

theorem lines_ne_nil (t : Text) : t.lines ≠ [] := splitAt_ne_nil separator t

/-- Every text has a last line. -/
theorem exists_lines_eq (t : Text) : ∃ xs l, t.lines = xs ++ [l] :=
  ⟨_, _, (List.dropLast_concat_getLast (lines_ne_nil t)).symm⟩

theorem lines_cons_separator (t : Text) : lines (separator :: t) = [] :: lines t := by
  rw [lines, splitAt, if_pos rfl]
  rfl

/-- A character that is no separator belongs to the first line. -/
theorem lines_cons {c : Char} (hc : c ≠ separator) (ht : t.lines = l :: xs) :
    lines (c :: t) = (c :: l) :: xs := by
  change splitAt separator t = l :: xs at ht
  rw [lines, splitAt, if_neg hc, ht]

theorem lines_append_separator (hl : IsLine l) (t : Text) :
    lines (l ++ separator :: t) = l :: lines t := by
  induction l with
  | nil => exact lines_cons_separator t
  | cons c l ih =>
    obtain ⟨hc, hl⟩ := List.ne_and_not_mem_of_not_mem_cons hl
    exact lines_cons hc.symm (ih hl)

theorem lines_of_isLine (hl : IsLine l) : l.lines = [l] := by
  induction l with
  | nil => rfl
  | cons c l ih =>
    obtain ⟨hc, hl⟩ := List.ne_and_not_mem_of_not_mem_cons hl
    exact lines_cons hc.symm (ih hl)

theorem isLine_of_mem_lines (h : l ∈ lines t) : IsLine l := by
  induction t generalizing l with
  | nil => exact List.mem_singleton.mp h ▸ isLine_nil
  | cons c t ih =>
    obtain ⟨m, ms, ht⟩ := List.exists_cons_of_ne_nil (lines_ne_nil t)
    change lines t = m :: ms at ht
    have hm : IsLine m := ih (ht ▸ List.mem_cons_self)
    have hms : ∀ l ∈ ms, IsLine l := fun l hl ↦ ih (ht ▸ List.mem_cons_of_mem m hl)
    by_cases hc : c = separator
    · rw [hc, lines_cons_separator, ht] at h
      rcases List.mem_cons.mp h with rfl | h
      · exact isLine_nil
      · exact ih (ht ▸ h)
    · rw [lines_cons hc ht] at h
      rcases List.mem_cons.mp h with rfl | h
      · exact List.not_mem_cons_of_ne_of_not_mem (Ne.symm hc) hm
      · exact hms l h

theorem isLine_of_mem_lineRange {first last : Nat} (h : l ∈ t.lineRange first last) : IsLine l :=
  isLine_of_mem_lines (List.mem_of_mem_drop (List.mem_of_mem_take h))

/-- Putting lines together and splitting the text gives the lines back. -/
theorem lines_unlines (hne : xs ≠ []) (hxs : ∀ l ∈ xs, IsLine l) : (unlines xs).lines = xs := by
  induction xs with
  | nil => exact absurd rfl hne
  | cons l ls ih =>
    obtain ⟨hl, hls⟩ := List.forall_mem_cons.mp hxs
    cases ls with
    | nil => exact lines_of_isLine hl
    | cons m ms =>
      have hunlines : unlines (l :: m :: ms) = l ++ separator :: unlines (m :: ms) := by
        rw [unlines_cons, unlines_cons]
        rfl
      rw [hunlines, lines_append_separator hl, ih (List.cons_ne_nil m ms) hls]

/-- A separator at the end opens one more piece. -/
theorem lines_append_singleton (t : Text) : lines (t ++ [separator]) = t.lines ++ [[]] := by
  have hunlines : unlines (t.lines ++ [[]]) = t ++ [separator] := by
    rw [unlines_append_opened (lines_ne_nil t), unlines_lines]
    rfl
  rw [← hunlines, lines_unlines (List.append_ne_nil_of_right_ne_nil _ (List.cons_ne_nil [] []))]
  intro l hl
  rcases List.mem_append.mp hl with hl | hl
  · exact isLine_of_mem_lines hl
  · exact List.mem_singleton.mp hl ▸ isLine_nil

/-- Behind closed lines the lines start again. -/
theorem lines_closed_append (hxs : ∀ l ∈ xs, IsLine l) (t : Text) :
    lines (closed xs ++ t) = xs ++ t.lines := by
  have hunlines : unlines (xs ++ t.lines) = closed xs ++ t := by
    rw [unlines_append xs (lines_ne_nil t), unlines_lines]
  rw [← hunlines]
  refine lines_unlines (List.append_ne_nil_of_right_ne_nil xs (lines_ne_nil t)) ?_
  exact List.forall_mem_append.mpr ⟨hxs, fun _ ↦ isLine_of_mem_lines⟩

/-! ## Where lines start -/

private theorem lineStart?_cons {c : Char} (hc : c ≠ separator) (t : Text) (n : Nat) :
    lineStart? (c :: t) (n + 2) = (lineStart? t (n + 2)).map (· + 1) := by
  rw [lineStart?, if_neg hc]

/-- Behind a line the numbers of lines start again. -/
theorem lineStart?_append_separator (hl : IsLine l) (t : Text) (n : Nat) :
    lineStart? (l ++ separator :: t) (n + 2)
      = (lineStart? t (n + 1)).map (· + (l.length + 1)) := by
  induction l with
  | nil => rw [List.nil_append, lineStart?, if_pos rfl, List.length_nil]
  | cons c l ih =>
    obtain ⟨hc, hl⟩ := List.ne_and_not_mem_of_not_mem_cons hl
    rw [List.cons_append, lineStart?_cons hc.symm, ih hl, Option.map_map]
    rfl

theorem lineStart?_of_isLine (hl : IsLine l) (n : Nat) : lineStart? l (n + 2) = none := by
  induction l with
  | nil => rfl
  | cons c l ih =>
    obtain ⟨hc, hl⟩ := List.ne_and_not_mem_of_not_mem_cons hl
    rw [lineStart?_cons hc.symm, ih hl, Option.map_none]

/-- Behind lines the numbers of lines start again. -/
theorem lineStart?_closed_append (hxs : ∀ l ∈ xs, IsLine l) (t : Text) (n : Nat) :
    lineStart? (closed xs ++ t) (xs.length + n + 1)
      = (lineStart? t (n + 1)).map (· + (closed xs).length) := by
  induction xs with
  | nil => simp [closed]
  | cons l ls ih =>
    obtain ⟨hl, hls⟩ := List.forall_mem_cons.mp hxs
    have hclosed : closed (l :: ls) ++ t = l ++ separator :: (closed ls ++ t) := by
      simp [closed]
    have hlength : (closed (l :: ls)).length = (closed ls).length + (l.length + 1) := by
      rw [closed, List.flatMap_cons, List.length_append, List.length_append, Nat.add_comm]
      rfl
    rw [hclosed, List.length_cons, show ls.length + 1 + n + 1 = ls.length + n + 2 by omega,
      lineStart?_append_separator hl, ih hls, Option.map_map, hlength]
    congr 1
    funext k
    simp only [Function.comp_apply, Nat.add_assoc]

/-- The line behind lines starts where they end. -/
theorem lineStart?_closed (hxs : ∀ l ∈ xs, IsLine l) (t : Text) :
    lineStart? (closed xs ++ t) (xs.length + 1) = some (closed xs).length := by
  have h := lineStart?_closed_append hxs t 0
  rw [Nat.add_zero, Nat.zero_add, lineStart?_one, Option.map_some, Nat.zero_add] at h
  exact h

theorem lineEndFrom_opened (hl : IsLine l) (u : Text) (zs : List Text) :
    lineEndFrom (u ++ l ++ opened zs) u.length = (u ++ l).length := by
  have hend : ((l ++ opened zs).takeWhile (· ≠ separator)) = l := by
    rw [List.takeWhile_append_of_pos fun c hc ↦ by
      rw [decide_eq_true_eq]
      rintro rfl
      exact hl hc]
    cases zs <;> simp [opened]
  rw [lineEndFrom, List.append_assoc, List.drop_left, hend, List.length_append]

theorem lineEndFrom_le_length (h : n ≤ t.length) : t.lineEndFrom n ≤ t.length := by
  have hline := (List.takeWhile_prefix (· ≠ separator) (l := t.drop n)).length_le
  rw [List.length_drop] at hline
  unfold lineEndFrom
  omega

theorem lineEnd_le_length (t : Text) (n : Nat) : t.lineEnd n ≤ t.length := by
  unfold lineEnd
  cases hstart : t.lineStart? (max n 1) with
  | none => exact Nat.le_refl _
  | some start => exact lineEndFrom_le_length (lineStart?_le_length hstart)

/-- Going back from within a line leads to its start. -/
theorem lineStartFrom_within (hl : IsLine l) (xs : List Text) (t : Text) :
    lineStartFrom (closed xs ++ l ++ t) (closed xs ++ l).length = (closed xs).length := by
  have hback : ((closed xs ++ l).reverse.takeWhile (· ≠ separator)) = l.reverse := by
    have hclosed : (closed xs).reverse.takeWhile (· ≠ separator) = [] := by
      rcases xs.eq_nil_or_concat with rfl | ⟨ys, m, rfl⟩
      · rfl
      · simp [List.concat_eq_append, closed_append, closed_singleton]
    rw [List.reverse_append, List.takeWhile_append_of_pos fun c hc ↦ ?_, hclosed, List.append_nil]
    rw [decide_eq_true_eq]
    rintro rfl
    exact hl (List.mem_reverse.mp hc)
  rw [lineStartFrom, List.take_left]
  simp only [hback, List.length_reverse, List.length_append, Nat.add_sub_cancel]

/-- Where lines end a line starts. -/
theorem lineStartFrom_closed (xs : List Text) (t : Text) :
    lineStartFrom (closed xs ++ t) (closed xs).length = (closed xs).length := by
  have h := lineStartFrom_within isLine_nil xs t
  rwa [List.append_nil] at h

/-! ## Counting -/

theorem count_of_isLine (hl : IsLine l) : l.count separator = 0 := List.count_eq_zero.mpr hl

theorem length_le_length_closed (xs : List Text) : xs.length ≤ (closed xs).length := by
  induction xs with
  | nil => exact Nat.le_refl 0
  | cons l xs ih =>
    have hcons : closed (l :: xs) = l ++ [separator] ++ closed xs := rfl
    rw [hcons, List.length_append, List.length_append, List.length_singleton, List.length_cons]
    omega

theorem count_closed (hxs : ∀ l ∈ xs, IsLine l) : (closed xs).count separator = xs.length := by
  induction xs with
  | nil => rfl
  | cons l ls ih =>
    obtain ⟨hl, hls⟩ := List.forall_mem_cons.mp hxs
    have hclosed : closed (l :: ls) = l ++ separator :: closed ls := by simp [closed]
    rw [hclosed, List.count_append, List.count_cons_self, count_of_isLine hl, ih hls,
      List.length_cons, Nat.zero_add]

/-- The offsets within a line have its number. -/
theorem lineAt_closed (hxs : ∀ l ∈ xs, IsLine l) (hl : IsLine l) (t : Text) :
    lineAt (closed xs ++ l ++ t) (closed xs ++ l).length = xs.length + 1 := by
  rw [lineAt, List.take_left, List.count_append, count_closed hxs, count_of_isLine hl]

/-- A text whose last piece is not empty does not end with a separator. -/
theorem getLast?_ne_separator (hl : IsLine l) (hne : l ≠ []) (t : Text) :
    (t ++ l).getLast? ≠ some separator := by
  rw [List.getLast?_append, List.getLast?_eq_some_getLast hne, Option.some_or, Ne,
    Option.some.injEq]
  exact fun hlast ↦ hl (hlast ▸ List.getLast_mem hne)

theorem count_opened {c : Char} (hc : c ≠ separator) (ls : List Text) :
    (opened ls).count c = (unlines ls).count c := by
  cases ls with
  | nil => rfl
  | cons l ls =>
    rw [unlines_cons]
    exact List.count_cons_of_ne hc.symm

/-- A character that is no separator is counted line by line. -/
theorem count_unlines_append {c : Char} (hc : c ≠ separator) (xs ys : List Text) :
    (unlines (xs ++ ys)).count c = (unlines xs).count c + (unlines ys).count c := by
  by_cases hxs : xs = []
  · rw [hxs]
    exact (Nat.zero_add _).symm
  · rw [unlines_append_opened hxs, List.count_append, count_opened hc]

/-- The number of lines counts the last piece of the text only if it is not empty. -/
theorem lineCount_closed (hxs : ∀ l ∈ xs, IsLine l) (hl : IsLine l) :
    lineCount (closed xs ++ l) = max (xs.length + if l = [] then 0 else 1) 1 := by
  have hcount : (closed xs ++ l).count separator = xs.length := by
    rw [List.count_append, count_closed hxs, count_of_isLine hl, Nat.add_zero]
  rw [lineCount, hcount]
  by_cases hnil : l = []
  · have hlast : ¬ (closed xs ++ l ≠ [] ∧ (closed xs ++ l).getLast? ≠ some separator) := by
      rintro ⟨hne, hlast⟩
      rcases xs.eq_nil_or_concat with rfl | ⟨ys, m, rfl⟩
      · exact hne (by rw [hnil]; rfl)
      · exact hlast (by simp [hnil, List.concat_eq_append, closed_append, closed_singleton])
    simp only [if_neg hlast, if_pos hnil]
  · have hlast : closed xs ++ l ≠ [] ∧ (closed xs ++ l).getLast? ≠ some separator :=
      ⟨List.append_ne_nil_of_right_ne_nil _ hnil, getLast?_ne_separator hl hnil _⟩
    simp only [if_pos hlast, if_neg hnil]

/-! ## Cuts -/

/-- A text that is cut in its list of lines. -/
theorem eq_of_lines_eq (h : t.lines = xs ++ ys) (hys : ys ≠ []) : t = closed xs ++ unlines ys := by
  rw [← unlines_append xs hys, ← h, unlines_lines]

theorem forall_isLine_append (h : t.lines = xs ++ ys) :
    (∀ l ∈ xs, IsLine l) ∧ ∀ l ∈ ys, IsLine l :=
  List.forall_mem_append.mp fun _ hl ↦ isLine_of_mem_lines (h ▸ hl)

/-- The lines behind a cut start where those in front of it end. -/
theorem lineStart?_of_lines_eq (h : t.lines = xs ++ ys) (hys : ys ≠ []) :
    t.lineStart? (xs.length + 1) = some (closed xs).length := by
  rw [eq_of_lines_eq h hys]
  exact lineStart?_closed (forall_isLine_append h).1 _

/-- Behind the last line no line starts. -/
theorem lineStart?_of_length_lt (h : t.lines.length < n) : t.lineStart? n = none := by
  obtain ⟨xs, l, hlines⟩ := exists_lines_eq t
  obtain ⟨hxs, hl⟩ := forall_isLine_append hlines
  rw [hlines, List.length_append, List.length_singleton] at h
  obtain ⟨k, rfl⟩ := Nat.exists_eq_add_of_lt h
  have hnone := lineStart?_closed_append hxs l (k + 1)
  rw [lineStart?_of_isLine (hl l List.mem_cons_self), Option.map_none] at hnone
  rw [eq_of_lines_eq hlines (List.cons_ne_nil l [])]
  change (closed xs ++ l).lineStart? (xs.length + 1 + k + 1) = none
  rwa [Nat.add_assoc xs.length 1 k, Nat.add_comm 1 k]

theorem lineStart?_length_lines (t : Text) : t.lineStart? (t.lines.length + 1) = none :=
  lineStart?_of_length_lt (Nat.lt_succ_self _)

/-- A text ends with a separator if its last piece is empty and there are others. -/
theorem getLast?_eq_separator_iff (h : t.lines = xs ++ [l]) :
    t.getLast? = some separator ↔ xs ≠ [] ∧ l = [] := by
  obtain ⟨-, hl⟩ := forall_isLine_append h
  have ht : t = closed xs ++ l := eq_of_lines_eq h (List.cons_ne_nil l [])
  by_cases hnil : l = []
  · rcases xs.eq_nil_or_concat with rfl | ⟨ys, m, rfl⟩
    · rw [ht, hnil]
      exact ⟨nofun, fun h ↦ absurd rfl h.1⟩
    · simp [ht, hnil, closed_append, closed_singleton]
  · rw [ht]
    exact ⟨fun hlast ↦ absurd hlast (getLast?_ne_separator (hl l List.mem_cons_self) hnil _),
      fun h ↦ absurd h.2 hnil⟩

/-- The number of lines, by the last piece of the text. -/
theorem lineCount_of_lines_eq (h : t.lines = xs ++ [l]) :
    t.lineCount = max (xs.length + if l = [] then 0 else 1) 1 := by
  obtain ⟨hxs, hl⟩ := forall_isLine_append h
  rw [eq_of_lines_eq h (List.cons_ne_nil l [])]
  exact lineCount_closed hxs (hl l List.mem_cons_self)

/-- Only an empty text has a line that is counted though it is the last piece and empty. -/
theorem lineCount_of_ne_nil (ht : t ≠ []) (h : t.lines = xs ++ [l]) :
    t.lineCount = xs.length + if l = [] then 0 else 1 := by
  rw [lineCount_of_lines_eq h]
  refine Nat.max_eq_left (Nat.one_le_iff_ne_zero.mpr fun hzero ↦ ht ?_)
  obtain ⟨hxs, hl⟩ := Nat.add_eq_zero_iff.mp hzero
  have hnil : l = [] := Decidable.byContradiction fun hne ↦ by
    rw [if_neg hne] at hl
    exact absurd hl (by decide)
  rw [eq_of_lines_eq h (List.cons_ne_nil l []), List.length_eq_zero_iff.mp hxs, hnil]
  rfl

/-- There is one piece of a text more than there are separators. -/
theorem length_lines (t : Text) : t.lines.length = t.count separator + 1 := by
  obtain ⟨xs, l, h⟩ := exists_lines_eq t
  obtain ⟨hxs, hl⟩ := forall_isLine_append h
  have hcount : t.count separator = xs.length := by
    rw [eq_of_lines_eq h (List.cons_ne_nil l [])]
    change (closed xs ++ l).count separator = xs.length
    rw [List.count_append, count_closed hxs, count_of_isLine (hl l List.mem_cons_self),
      Nat.add_zero]
  rw [h, hcount, List.length_append, List.length_singleton]

theorem lineCount_le_length_lines (t : Text) : t.lineCount ≤ t.lines.length := by
  obtain ⟨xs, l, h⟩ := exists_lines_eq t
  rw [lineCount_of_lines_eq h, h, List.length_append, List.length_singleton]
  split <;> omega

/-- At most the last piece is not counted. -/
theorem length_lines_le_lineCount_succ (t : Text) : t.lines.length ≤ t.lineCount + 1 := by
  obtain ⟨xs, l, h⟩ := exists_lines_eq t
  rw [lineCount_of_lines_eq h, h, List.length_append, List.length_singleton]
  split <;> omega

/-- Every offset is in a piece of the text. -/
theorem lineAt_le_length_lines (t : Text) (offset : Nat) : t.lineAt offset ≤ t.lines.length := by
  rw [length_lines, lineAt]
  exact Nat.succ_le_succ ((List.take_sublist offset t).count_le separator)

/-- Where lines have others in front of them, a text that ends with a separator is not empty without
them. -/
theorem unlines_take_append_drop_ne_nil {first last : Nat} (h : t.getLast? = some separator)
    (hfirst : 1 < first) (hlast : last ≤ t.lineCount) :
    unlines (t.lines.take (first - 1) ++ t.lines.drop last) ≠ [] := by
  obtain ⟨ms, l, hlines⟩ := exists_lines_eq t
  obtain ⟨hms, rfl⟩ := (getLast?_eq_separator_iff hlines).mp h
  have hcount := lineCount_of_lines_eq hlines
  have hlength := congrArg List.length hlines
  have hpos := List.length_pos_iff.mpr hms
  rw [if_pos rfl] at hcount
  rw [List.length_append, List.length_singleton] at hlength
  have hdrop : t.lines.drop last ≠ [] := by
    rw [← List.length_pos_iff, List.length_drop]
    omega
  rw [unlines_append _ hdrop, ← List.length_pos_iff, List.length_append]
  have hfront := length_le_length_closed (t.lines.take (first - 1))
  rw [List.length_take] at hfront
  omega

/-- Between texts that end with the same lines, the number of lines differs by that of the others.
-/
theorem lineCount_add_length {ws : List Text} (ht : t ≠ []) (hu : u ≠ [])
    (h : t.lines = xs ++ ys) (h' : u.lines = ws ++ ys) (hys : ys ≠ []) :
    u.lineCount + xs.length = t.lineCount + ws.length := by
  obtain ⟨ms, l, hms⟩ : ∃ ms l, ys = ms ++ [l] := ⟨_, _, (List.dropLast_concat_getLast hys).symm⟩
  rw [hms, ← List.append_assoc] at h h'
  rw [lineCount_of_ne_nil ht h, lineCount_of_ne_nil hu h', List.length_append, List.length_append]
  omega

/-- Lines with more lines behind them are counted. -/
theorem length_le_lineCount (h : t.lines = xs ++ ys) (hys : ys ≠ []) :
    xs.length ≤ t.lineCount := by
  obtain ⟨ms, l, hms⟩ : ∃ ms l, ys = ms ++ [l] := ⟨_, _, (List.dropLast_concat_getLast hys).symm⟩
  rw [hms, ← List.append_assoc] at h
  rw [lineCount_of_lines_eq h, List.length_append]
  omega

/-- So are the last ones, if the text does not end with a separator. -/
theorem length_succ_le_lineCount (h : t.lines = xs ++ [l]) (hl : l ≠ []) :
    xs.length + 1 ≤ t.lineCount := by
  rw [lineCount_of_lines_eq h, if_neg hl]
  exact Nat.le_max_left _ _

/-! ### Around one line -/

/-- A text around one of its lines. -/
theorem eq_of_lines_eq_cons (h : t.lines = xs ++ l :: zs) : t = closed xs ++ l ++ opened zs := by
  rw [eq_of_lines_eq h (List.cons_ne_nil l zs), unlines_cons, List.append_assoc]

theorem length_le_of_lines_eq (h : t.lines = xs ++ l :: zs) :
    (closed xs).length ≤ (closed xs ++ l).length ∧ (closed xs ++ l).length ≤ t.length := by
  have hline := List.prefix_append (closed xs) l
  have hfront := List.prefix_append (closed xs ++ l) (opened zs)
  rw [← eq_of_lines_eq_cons h] at hfront
  exact ⟨hline.length_le, hfront.length_le⟩

theorem take_end_of_lines_eq (h : t.lines = xs ++ l :: zs) :
    t.take (closed xs ++ l).length = closed xs ++ l := by
  rw [eq_of_lines_eq_cons h, List.take_left]

theorem drop_of_lines_eq (h : t.lines = xs ++ l :: zs) :
    t.drop (closed xs ++ l).length = opened zs := by
  rw [eq_of_lines_eq_cons h, List.drop_left]

/-- A line ends where the lines behind it begin. -/
theorem lineEnd_of_lines_eq (h : t.lines = xs ++ l :: zs) :
    t.lineEnd (xs.length + 1) = (closed xs ++ l).length := by
  obtain ⟨-, hl⟩ := forall_isLine_append h
  rw [lineEnd, Nat.max_eq_left (Nat.le_add_left _ _),
    lineStart?_of_lines_eq h (List.cons_ne_nil l zs)]
  simp only
  rw [eq_of_lines_eq_cons h]
  exact lineEndFrom_opened (hl l List.mem_cons_self) _ _

/-! ### Around several lines -/

/-- A text around some of its lines. -/
theorem eq_of_lines_eq_append (h : t.lines = xs ++ ys ++ zs) (hys : ys ≠ []) :
    t = closed xs ++ unlines ys ++ opened zs := by
  rw [← unlines_append_append hys, ← h, unlines_lines]

theorem take_start (h : t.lines = xs ++ ys ++ zs) (hys : ys ≠ []) :
    t.take (closed xs).length = closed xs := by
  rw [eq_of_lines_eq_append h hys, List.append_assoc, List.take_left]

theorem drop_stop (h : t.lines = xs ++ ys ++ zs) (hys : ys ≠ []) :
    t.drop (closed xs ++ unlines ys).length = opened zs := by
  rw [eq_of_lines_eq_append h hys, List.drop_left]

/-- Putting other lines in place of some puts their text in place of the text of these. -/
theorem splice_lines (h : t.lines = xs ++ ys ++ zs) (hys : ys ≠ []) {new : List Text}
    (hnew : new ≠ []) :
    (closed xs).length ≤ (closed xs ++ unlines ys).length ∧
      (closed xs ++ unlines ys).length ≤ t.length ∧
      t.take (closed xs).length ++ unlines new ++ t.drop (closed xs ++ unlines ys).length
        = unlines (xs ++ new ++ zs) := by
  refine ⟨(List.prefix_append _ _).length_le, ?_, ?_⟩
  · rw [eq_of_lines_eq_append h hys]
    exact (List.prefix_append _ _).length_le
  · rw [take_start h hys, drop_stop h hys, unlines_append_append hnew]

/-- The last one of some lines, behind those in front of it. -/
theorem exists_last_of_lines_eq (h : t.lines = xs ++ ys ++ zs) (hys : ys ≠ []) :
    ∃ ks l, t.lines = xs ++ ks ++ l :: zs ∧ (xs ++ ks).length + 1 = xs.length + ys.length ∧
      closed (xs ++ ks) ++ l = closed xs ++ unlines ys := by
  obtain ⟨ks, l, rfl⟩ : ∃ ks l, ys = ks ++ [l] := ⟨_, _, (List.dropLast_concat_getLast hys).symm⟩
  refine ⟨ks, l, ?_, ?_, ?_⟩
  · rw [h, List.append_assoc, List.append_assoc, List.append_assoc]
    rfl
  · rw [List.length_append, List.length_append]
    rfl
  · rw [unlines_append ks (List.cons_ne_nil l []), closed_append, List.append_assoc]
    rfl

/-- Lines end where the lines behind them begin. -/
theorem lineEnd_last (h : t.lines = xs ++ ys ++ zs) (hys : ys ≠ []) :
    t.lineEnd (xs.length + ys.length) = (closed xs ++ unlines ys).length := by
  obtain ⟨ks, l, hlast, hlength, hend⟩ := exists_last_of_lines_eq h hys
  rw [← hlength, lineEnd_of_lines_eq hlast, hend]

/-- What is in a text is in one of its lines, but for the separators. -/
theorem mem_iff_mem_lines {c : Char} (hc : c ≠ separator) : c ∈ t ↔ ∃ l ∈ t.lines, c ∈ l := by
  obtain ⟨l, ls, hlines⟩ := List.exists_cons_of_ne_nil t.lines_ne_nil
  have htext : t = l ++ opened ls := by rw [← unlines_cons, ← hlines, t.unlines_lines]
  rw [hlines, htext]
  simp [opened, hc]

/-! ### Numbers of lines -/

/-- The lines of a cut are those that their numbers address. -/
theorem lineRange_of_lines_eq (h : t.lines = xs ++ ys ++ zs) :
    t.lineRange (xs.length + 1) (xs.length + ys.length) = ys := by
  have htake : xs.length + ys.length + 1 - max (xs.length + 1) 1 = ys.length := by omega
  rw [lineRange, htake, h, Nat.add_sub_cancel, List.append_assoc, List.drop_left, List.take_left]

/-- Lines between numbers, between the lines before and behind them. -/
theorem lines_eq_lineRange {first last : Nat} (hfirst : 1 ≤ first) (hle : first ≤ last + 1) :
    t.lines = t.lines.take (first - 1) ++ t.lineRange first last ++ t.lines.drop last := by
  have hcut : t.lineRange first last = (t.lines.drop (first - 1)).take (last - (first - 1)) := by
    rw [lineRange]
    congr 1
    omega
  have hdrop : t.lines.drop last = (t.lines.drop (first - 1)).drop (last - (first - 1)) := by
    rw [List.drop_drop]
    congr 1
    omega
  rw [List.append_assoc, hcut, hdrop, List.take_append_drop, List.take_append_drop]

/-- The lines between numbers and those that are left are the lines of the text. -/
theorem perm_lineRange {first last : Nat} (hfirst : 1 ≤ first) (hle : first ≤ last + 1) :
    (t.lineRange first last ++ (t.lines.take (first - 1) ++ t.lines.drop last)).Perm t.lines := by
  have hfront : (t.lineRange first last ++ t.lines.take (first - 1)).Perm
      (t.lines.take (first - 1) ++ t.lineRange first last) := List.perm_append_comm
  have hperm := hfront.append_right (t.lines.drop last)
  rwa [← lines_eq_lineRange hfirst hle, List.append_assoc] at hperm

/-- What is not in a text is not in the text of some of its lines. -/
theorem not_mem_linesText {c : Char} (hc : c ≠ separator) (h : c ∉ t) {first last : Nat}
    (hfirst : 1 ≤ first) (hle : first ≤ last + 1) : c ∉ t.linesText first last := by
  rw [← List.count_eq_zero] at h ⊢
  rw [← t.unlines_lines, lines_eq_lineRange hfirst hle, count_unlines_append hc,
    count_unlines_append hc] at h
  rw [linesText]
  omega

theorem length_lineRange {first last : Nat} (hfirst : 1 ≤ first) (hle : first ≤ last + 1)
    (hlast : last ≤ t.lines.length) : (t.lineRange first last).length = last + 1 - first := by
  simp only [lineRange, List.length_take, List.length_drop]
  omega

/-- The lines up to the last one between numbers. -/
theorem take_lines_eq {first last : Nat} (hfirst : 1 ≤ first) (hle : first ≤ last + 1)
    (hlast : last ≤ t.lines.length) :
    t.lines.take last = t.lines.take (first - 1) ++ t.lineRange first last := by
  have hlength := t.length_lineRange hfirst hle hlast
  refine (congrArg (List.take last) (lines_eq_lineRange hfirst hle)).trans (List.take_left' ?_)
  rw [List.length_append, List.length_take]
  omega

theorem line_of_lines_eq (h : t.lines = xs ++ l :: zs) : t.line (xs.length + 1) = l := by
  rw [line, h, Nat.add_sub_cancel, List.getD_eq_getElem?_getD,
    List.getElem?_append_right (Nat.le_refl _), Nat.sub_self]
  rfl

end LineEditor.Text
