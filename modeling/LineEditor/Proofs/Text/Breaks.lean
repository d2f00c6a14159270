import LineEditor.Proofs.Text.Lines

/-!
# Line breaks of other systems

A carriage return becomes a separator where a text is written, unless the line feed behind it is one
already. So the returns that stand alone are what makes the text written have more lines than the
text it was made of.
-/

namespace LineEditor.Text

variable {t : Text} {c : Char}

/-- The number of carriage returns that no line feed follows. -/
def loneReturns : Text → Nat
  | [] => 0
  | '\r' :: '\n' :: rest => loneReturns rest
  | c :: rest => (if c = '\r' then 1 else 0) + loneReturns rest

/-- Only a return that stands alone makes a line more. -/
theorem count_normalizeBreaks (t : Text) :
    (normalizeBreaks t).count separator = t.count separator + loneReturns t := by
  fun_induction normalizeBreaks t with
  | case1 => rfl
  | case2 rest ih =>
    have hpair : List.count separator ('\r' :: '\n' :: rest) = rest.count separator + 1 := by
      rw [List.count_cons_of_ne (by decide)]
      exact List.count_cons_self
    rw [List.count_cons_self, ih, hpair, loneReturns]
    omega
  | case3 c rest hpair ih =>
    rw [loneReturns.eq_3 c rest hpair]
    by_cases hc : c = '\r'
    · subst hc
      rw [if_pos rfl, if_pos rfl, List.count_cons_self, ih, List.count_cons_of_ne (by decide)]
      omega
    · rw [if_neg hc, if_neg hc, Nat.zero_add, List.count_cons, List.count_cons, ih]
      omega

theorem length_lines_normalizeBreaks (t : Text) :
    (normalizeBreaks t).lines.length = t.lines.length + loneReturns t := by
  rw [length_lines, length_lines, count_normalizeBreaks, Nat.add_right_comm]

theorem normalizeBreaks_eq_nil_iff : normalizeBreaks t = [] ↔ t = [] := by
  fun_cases normalizeBreaks t with
  | case1 => exact iff_of_true rfl rfl
  | case2 | case3 => exact iff_of_false (List.cons_ne_nil _ _) (List.cons_ne_nil _ _)

/-- A character that starts no pair is turned by itself. -/
theorem normalizeBreaks_cons (h : c = '\r' → t.head? ≠ some '\n') :
    normalizeBreaks (c :: t) = (if c = '\r' then separator else c) :: normalizeBreaks t :=
  normalizeBreaks.eq_3 c t fun _ hc ht ↦ h hc (ht ▸ rfl)

/-- A separator in front of a text belongs to no line break of it. -/
theorem normalizeBreaks_separator_cons (t : Text) :
    normalizeBreaks (separator :: t) = separator :: normalizeBreaks t :=
  normalizeBreaks_cons fun h ↦ absurd h (by decide)

/-! ## A separator behind a text -/

/-- The text without a carriage return at its end. -/
def withoutReturn (t : Text) : Text := (t.dropFinal? '\r').getD t

theorem withoutReturn_of_not_mem (h : '\r' ∉ t) : t.withoutReturn = t := by
  have hlast : t.getLast? ≠ some '\r' := fun hlast ↦ h (List.mem_of_getLast? hlast)
  rw [withoutReturn, dropFinal?, if_neg hlast, Option.getD_none]

theorem withoutReturn_cons (ht : t ≠ []) (c : Char) :
    withoutReturn (c :: t) = c :: t.withoutReturn := by
  obtain ⟨a, rest, rfl⟩ := List.exists_cons_of_ne_nil ht
  have hlast : (c :: a :: rest).getLast? = (a :: rest).getLast? := rfl
  unfold withoutReturn dropFinal?
  rw [hlast]
  split <;> rfl

theorem withoutReturn_prefix (t : Text) : t.withoutReturn <+: t := by
  unfold withoutReturn dropFinal?
  split
  · exact List.dropLast_prefix t
  · exact List.prefix_rfl

theorem count_withoutReturn (t : Text) : t.withoutReturn.count separator = t.count separator := by
  unfold withoutReturn dropFinal?
  split
  · next hlast =>
    obtain ⟨u, rfl⟩ := List.getLast?_eq_some_iff.mp hlast
    rw [Option.getD_some, List.dropLast_concat, List.count_append]
    rfl
  · rfl

/-- A carriage return at the end makes one line break with a separator behind it. -/
theorem normalizeBreaks_append_separator (t : Text) :
    normalizeBreaks (t ++ [separator]) = normalizeBreaks t.withoutReturn ++ [separator] := by
  fun_induction normalizeBreaks t with
  | case1 => rfl
  | case2 rest ih =>
    have hpair : withoutReturn ('\r' :: '\n' :: rest) = '\r' :: '\n' :: withoutReturn rest := by
      rw [withoutReturn_cons (List.cons_ne_nil _ _)]
      cases rest with
      | nil => rfl
      | cons c rest => rw [withoutReturn_cons (List.cons_ne_nil c rest)]
    rw [hpair, normalizeBreaks, List.cons_append, List.cons_append, normalizeBreaks, ih]
    rfl
  | case3 c rest hpair ih =>
    have hhead : c = '\r' → rest.head? ≠ some '\n' := fun hc h ↦ by
      obtain ⟨u, hu⟩ := List.head?_eq_some_iff.mp h
      exact hpair u hc hu
    by_cases hrest : rest = []
    · by_cases hc : c = '\r'
      · rw [hrest, hc]
        rfl
      · have hlast : withoutReturn [c] = [c] :=
          withoutReturn_of_not_mem fun h ↦ hc (List.mem_singleton.mp h).symm
        rw [hrest, hlast, List.singleton_append, normalizeBreaks_cons fun h ↦ absurd h hc,
          normalizeBreaks_cons fun h ↦ absurd h hc]
        rfl
    · -- what follows the first character still does not start with a line feed
      have happend : (rest ++ [separator]).head? = rest.head? := by
        rw [List.head?_append, List.head?_eq_some_head hrest]
        rfl
      have hnext : (withoutReturn rest).head? = some '\n' → rest.head? = some '\n' := fun h ↦ by
        obtain ⟨u, hu⟩ := withoutReturn_prefix rest
        rw [← hu, List.head?_append, h]
        rfl
      rw [withoutReturn_cons hrest, List.cons_append, normalizeBreaks_cons (happend ▸ hhead), ih,
        normalizeBreaks_cons fun hc h ↦ hhead hc (hnext h), List.cons_append]

/-! ## Line feeds with a carriage return in front -/

/-- The text with a carriage return put in front of every line feed. -/
def withReturns (t : Text) : Text :=
  t.flatMap fun c ↦ if c = separator then ['\r', separator] else [c]

/-- The text with each of its carriage returns turned into a separator. -/
def separateReturns (t : Text) : Text := t.map fun c ↦ if c = '\r' then separator else c

theorem length_separateReturns (t : Text) : t.separateReturns.length = t.length := List.length_map _

/-- There is a line feed right behind a carriage return. -/
def HasPair (t : Text) : Prop := ['\r', separator] <:+: t

theorem hasPair_cons : HasPair (c :: t) ↔ c = '\r' ∧ t.head? = some separator ∨ HasPair t := by
  have hprefix : ['\r', separator] <+: c :: t ↔ c = '\r' ∧ t.head? = some separator := by
    rw [List.cons_prefix_cons, eq_comm]
    refine and_congr_right fun _ ↦ ?_
    cases t with
    | nil => exact iff_of_false (fun h ↦ absurd (List.prefix_nil.mp h) (List.cons_ne_nil _ _)) nofun
    | cons d t => simp [List.cons_prefix_cons, eq_comm]
  rw [HasPair, List.infix_cons_iff, hprefix]
  rfl

theorem not_hasPair_of_not_mem (h : '\r' ∉ t) : ¬ t.HasPair :=
  fun hpair ↦ h (hpair.subset List.mem_cons_self)

/-- A carriage return at the end belongs to no pair. -/
theorem hasPair_withoutReturn : t.withoutReturn.HasPair ↔ t.HasPair := by
  unfold withoutReturn dropFinal?
  split
  · next hlast =>
    obtain ⟨u, rfl⟩ := List.getLast?_eq_some_iff.mp hlast
    rw [Option.getD_some, List.dropLast_concat, HasPair, HasPair, List.infix_concat_iff]
    refine (or_iff_right fun hsuffix ↦ ?_).symm
    obtain ⟨x, hx⟩ := hsuffix
    have hend := congrArg List.getLast? hx
    rw [List.getLast?_append, List.getLast?_concat] at hend
    exact absurd (Option.some.inj hend) (by decide)
  · rfl

/-- A pair becomes one separator; where there is none, the text keeps its length. -/
theorem length_normalizeBreaks (t : Text) :
    (normalizeBreaks t).length ≤ t.length ∧
      ((normalizeBreaks t).length = t.length ↔ ¬ t.HasPair) := by
  fun_induction normalizeBreaks t with
  | case1 => exact ⟨Nat.le_refl 0, iff_of_true rfl (not_hasPair_of_not_mem List.not_mem_nil)⟩
  | case2 rest ih =>
    have hpair : HasPair ('\r' :: '\n' :: rest) := hasPair_cons.mpr (.inl ⟨rfl, rfl⟩)
    have hle := ih.1
    simp only [List.length_cons, hpair, not_true, iff_false]
    omega
  | case3 c rest hnone ih =>
    have hpair : HasPair (c :: rest) ↔ HasPair rest := by
      refine hasPair_cons.trans (or_iff_right fun h ↦ ?_)
      obtain ⟨u, hu⟩ := List.head?_eq_some_iff.mp h.2
      exact hnone u h.1 hu
    rw [hpair, ← ih.2, List.length_cons, List.length_cons]
    exact ⟨Nat.succ_le_succ ih.1, Nat.succ_inj⟩

theorem normalizeBreaks_of_not_hasPair (h : ¬ t.HasPair) :
    normalizeBreaks t = t.separateReturns := by
  induction t with
  | nil => rfl
  | cons c t ih =>
    rw [hasPair_cons, not_or] at h
    rw [normalizeBreaks_cons fun hc ht ↦ h.1 ⟨hc, ht⟩, ih h.2]
    rfl

/-- A text with carriage returns in front of its line feeds does not start with a line feed. -/
private theorem head?_withReturns_append {u : Text} (hu : u.head? ≠ some separator) (t : Text) :
    (t.withReturns ++ u).head? ≠ some separator := by
  cases t with
  | nil => exact hu
  | cons c t =>
    by_cases hc : c = separator
    · subst hc
      exact fun h ↦ absurd (Option.some.inj h) (by decide)
    · simp [withReturns, hc]

/-- Each line feed takes its carriage return along. -/
theorem normalizeBreaks_withReturns_append {u : Text} (hu : u.head? ≠ some separator) (t : Text) :
    normalizeBreaks (t.withReturns ++ u) = t.separateReturns ++ normalizeBreaks u := by
  induction t with
  | nil => rfl
  | cons c t ih =>
    by_cases hc : c = separator
    · subst hc
      exact congrArg (separator :: ·) ih
    · have hcons : withReturns (c :: t) ++ u = c :: (withReturns t ++ u) := by
        simp [withReturns, hc]
      rw [hcons, normalizeBreaks_cons fun _ ↦ head?_withReturns_append hu t, ih]
      rfl

theorem normalizeBreaks_withReturns (t : Text) :
    normalizeBreaks t.withReturns = t.separateReturns := by
  have h := normalizeBreaks_withReturns_append (u := []) nofun t
  rwa [List.append_nil, show normalizeBreaks [] = [] from rfl, List.append_nil] at h

/-- Line breaks of both kinds are turned into the same, but for line feeds that are in a pair
already. -/
theorem normalizeBreaks_withReturns_of_not_hasPair (h : ¬ t.HasPair) :
    normalizeBreaks t.withReturns = normalizeBreaks t := by
  rw [normalizeBreaks_withReturns, normalizeBreaks_of_not_hasPair h]

/-- These are not even turned into as many characters. -/
theorem length_normalizeBreaks_withReturns_eq_iff :
    (normalizeBreaks t.withReturns).length = (normalizeBreaks t).length ↔ ¬ t.HasPair := by
  rw [normalizeBreaks_withReturns, length_separateReturns, eq_comm]
  exact (length_normalizeBreaks t).2

theorem count_withReturns (t : Text) : t.withReturns.count separator = t.count separator := by
  induction t with
  | nil => rfl
  | cons c t ih =>
    have hcons : withReturns (c :: t) = (if c = separator then ['\r', separator] else [c])
        ++ withReturns t := List.flatMap_cons
    have hchar : (if c = separator then ['\r', separator] else [c]).count separator
        = [c].count separator := by
      by_cases hc : c = separator
      · rw [if_pos hc, hc]
        rfl
      · rw [if_neg hc]
    rw [hcons, List.count_append, hchar, ih, ← List.count_append, List.singleton_append]

theorem withoutReturn_concat (t : Text) : withoutReturn (t ++ ['\r']) = t := by
  simp [withoutReturn, dropFinal?]

theorem withoutReturn_concat_of_ne (h : c ≠ '\r') (t : Text) :
    withoutReturn (t ++ [c]) = t ++ [c] := by
  simp [withoutReturn, dropFinal?, h]

theorem withReturns_concat_of_ne (h : c ≠ separator) (t : Text) :
    withReturns (t ++ [c]) = t.withReturns ++ [c] := by
  simp [withReturns, h]

theorem withReturns_concat_separator (t : Text) :
    withReturns (t ++ [separator]) = t.withReturns ++ ['\r'] ++ [separator] := by
  simp [withReturns]

theorem withoutReturn_withReturns (t : Text) :
    t.withReturns.withoutReturn = t.withoutReturn.withReturns := by
  rcases t.eq_nil_or_concat with rfl | ⟨u, c, rfl⟩
  · rfl
  rw [List.concat_eq_append]
  by_cases hreturn : c = '\r'
  · rw [hreturn, withReturns_concat_of_ne (by decide), withoutReturn_concat, withoutReturn_concat]
  rw [withoutReturn_concat_of_ne hreturn]
  by_cases hc : c = separator
  · rw [hc, withReturns_concat_separator, withoutReturn_concat_of_ne (by decide)]
  · rw [withReturns_concat_of_ne hc, withoutReturn_concat_of_ne hreturn]

/-! ## Line breaks of other systems put in -/

/-- What ends a line in the files of one system or another. -/
def lineBreaks : List Text := [[separator], ['\r'], ['\r', separator]]

/-- The text with a line break in place of every separator. -/
def brokenBy (t br : Text) : Text := t.flatMap fun c ↦ if c = separator then br else [c]

theorem brokenBy_separator (t : Text) : t.brokenBy [separator] = t := by
  have hself : (fun c ↦ if c = separator then [separator] else [c]) = fun c : Char ↦ [c] := by
    funext c
    split
    · next hc => rw [hc]
    · rfl
  rw [brokenBy, hself, List.flatMap_singleton']

theorem brokenBy_return (t : Text) :
    t.brokenBy ['\r'] = t.map fun c ↦ if c = separator then '\r' else c := by
  rw [brokenBy, List.map_eq_flatMap]
  congr 1
  funext c
  split <;> rfl

theorem separateReturns_of_not_mem (h : '\r' ∉ t) : t.separateReturns = t := by
  refine (List.map_congr_left fun c hc ↦ if_neg ?_).trans (List.map_id t)
  rintro rfl
  exact h hc

/-- A carriage return in place of each separator is turned back. -/
private theorem normalizeBreaks_brokenBy_return (h : '\r' ∉ t) :
    normalizeBreaks (t.brokenBy ['\r']) = t := by
  have hnone : separator ∉ t.brokenBy ['\r'] := by
    rw [brokenBy_return, List.mem_map]
    rintro ⟨c, -, hc⟩
    split at hc
    · exact absurd hc (by decide)
    · next hne => exact hne hc
  have hpair : ¬ HasPair (t.brokenBy ['\r']) := fun hpair ↦
    hnone (hpair.subset (List.mem_cons_of_mem _ List.mem_cons_self))
  rw [normalizeBreaks_of_not_hasPair hpair, separateReturns, brokenBy_return, List.map_map]
  refine (List.map_congr_left fun c hc ↦ ?_).trans (List.map_id t)
  have hreturn : c ≠ '\r' := fun hreturn ↦ h (hreturn ▸ hc)
  by_cases hsep : c = separator <;> simp [hsep, hreturn]

/-- Whatever line breaks are put into a text, they become its separators again. -/
theorem normalizeBreaks_brokenBy (h : '\r' ∉ t) {br : Text} (hbr : br ∈ lineBreaks) :
    normalizeBreaks (t.brokenBy br) = t := by
  rw [lineBreaks, List.mem_cons, List.mem_cons, List.mem_singleton] at hbr
  rcases hbr with rfl | rfl | rfl
  · rw [brokenBy_separator, normalizeBreaks_of_not_mem h]
  · exact normalizeBreaks_brokenBy_return h
  · exact (normalizeBreaks_withReturns t).trans (separateReturns_of_not_mem h)

/-! ## Without the separator at the end -/

/-- The text without a separator at its end. -/
def withoutSeparator (t : Text) : Text := (t.dropFinal? separator).getD t

theorem withoutSeparator_concat (t : Text) : withoutSeparator (t ++ [separator]) = t := by
  simp [withoutSeparator, dropFinal?]

theorem withoutSeparator_of_getLast?_ne (h : t.getLast? ≠ some separator) :
    t.withoutSeparator = t := by
  rw [withoutSeparator, dropFinal?, if_neg h, Option.getD_none]

/-- A separator at the end leaves its carriage return behind. -/
theorem withoutSeparator_withReturns_concat (t : Text) :
    withoutSeparator (t ++ [separator]).withReturns = t.withReturns ++ ['\r'] := by
  rw [withReturns_concat_separator]
  exact withoutSeparator_concat _

theorem withoutSeparator_withReturns_of_getLast?_ne (h : t.getLast? ≠ some separator) :
    t.withReturns.withoutSeparator = t.withReturns := by
  refine withoutSeparator_of_getLast?_ne ?_
  rcases t.eq_nil_or_concat with rfl | ⟨u, c, rfl⟩
  · nofun
  · rw [List.concat_eq_append, List.getLast?_concat, Ne, Option.some.injEq] at h
    rwa [List.concat_eq_append, withReturns_concat_of_ne h, List.getLast?_concat, Ne,
      Option.some.injEq]

end LineEditor.Text
