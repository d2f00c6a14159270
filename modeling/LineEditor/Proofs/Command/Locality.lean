import LineEditor.Command.Line

/-!
# Reading up to a bar

A command is read by scanners that each answer what they have read and the rest of the text. Every
one of them is *local*: when it stops before a bar, or at it, then on the text that ends there it
reads the same and leaves what stands before the bar. In symbols, with a bar and anything behind
it appended,

```text
scanner (s ++ "|" ++ n) = (a, r ++ "|" ++ n)   implies   scanner s = (a, r).
```

Scanners that never take a bar satisfy the equation for every `s`. For those that may take one, as
part of a pattern, a quotation or a section, the premise says that this one they did not: what they
leave is an end of the text they are given, and an end that holds the bar has all of `n` behind it.

Looking ahead is where this could fail, since the end of the text is not a bar. The letters behind
the pattern of an address are the only place that looks ahead, and they take a bar for a character
that cannot follow flags, as they take the end of the text.
-/

namespace LineEditor

variable {s n r : Text}

/-! ## Ends of a text and the bar -/

/-- What lies behind the bar does not hold the bar. -/
private theorem ne_append_bar_of_suffix {l : Text} (h : l <:+ n) : l ≠ r ++ '|' :: n := by
  rintro rfl
  have := h.length_le
  simp only [List.length_append, List.length_cons] at this
  omega

/-- What starts with the bar leaves nothing before it. -/
private theorem nil_eq_of_eq_append_bar (h : '|' :: n = r ++ '|' :: n) : [] = r :=
  List.append_cancel_right (show [] ++ '|' :: n = r ++ '|' :: n from h)

/-- A text with an end that holds the bar holds it itself. -/
private theorem exists_eq_append_bar {l : Text} (h : r ++ '|' :: n <:+ l) :
    ∃ q : Text, l = q ++ '|' :: n := by
  obtain ⟨p, rfl⟩ := h
  exact ⟨p ++ r, (List.append_assoc _ _ _).symm⟩

/-- A result on the longer text is one on the text before the bar. -/
private theorem ok_of_append {ε α : Type} {l : Text} {a b : α}
    (h : (.ok (a, l ++ '|' :: n) : Except ε (α × Text)) = .ok (b, r ++ '|' :: n)) :
    (.ok (a, l) : Except ε (α × Text)) = .ok (b, r) := by
  rw [Except.ok.injEq, Prod.mk.injEq] at h
  rw [h.1, List.append_cancel_right h.2]

section While

variable {p : Char → Bool}

private theorem takeWhile_append_bar (hp : p '|' = false) :
    (s ++ '|' :: n).takeWhile p = s.takeWhile p := by
  induction s with
  | nil => simp [hp]
  | cons c s ih => simp only [List.cons_append, List.takeWhile_cons, ih]

private theorem dropWhile_append_bar (hp : p '|' = false) :
    (s ++ '|' :: n).dropWhile p = s.dropWhile p ++ '|' :: n := by
  induction s with
  | nil => simp [hp]
  | cons c s ih =>
    simp only [List.cons_append, List.dropWhile_cons, ih]
    split <;> rfl

end While

private theorem trimStart_append_bar :
    Text.trimStart (s ++ '|' :: n) = Text.trimStart s ++ '|' :: n :=
  dropWhile_append_bar (by decide)

/-- Texts are read character by character, a backslash together with the character behind it. -/
@[elab_as_elim]
private theorem escaped_induction {P : Text → Prop} (nil : P []) (final : P ['\\'])
    (escaped : ∀ c t, P t → P ('\\' :: c :: t)) (plain : ∀ c t, c ≠ '\\' → P t → P (c :: t)) :
    ∀ t, P t
  | [] => nil
  | [c] => if hc : c = '\\' then hc ▸ final else plain c [] hc nil
  | c :: d :: t =>
    if hc : c = '\\' then hc ▸ escaped d t (escaped_induction nil final escaped plain t)
    else plain c (d :: t) hc (escaped_induction nil final escaped plain (d :: t))

/-! ## Addresses -/

namespace Address

theorem delimited_cons {d c : Char} (hc : c ≠ '\\') (t : Text) :
    delimited d (c :: t)
      = if c = d then ([], t) else (c :: (delimited d t).1, (delimited d t).2) := by
  rw [delimited]
  · simp [hc]
  · simp [hc]

theorem delimited_escaped (d c : Char) (t : Text) :
    delimited d ('\\' :: c :: t)
      = (if c = d then c :: (delimited d t).1 else '\\' :: c :: (delimited d t).1,
          (delimited d t).2) := by
  simp only [delimited]
  split <;> rfl

/-- A delimited pattern, if the bar is not the delimiter. -/
theorem delimited_of_append {d : Char} {taken : Text} (hd : d ≠ '|')
    (h : delimited d (s ++ '|' :: n) = (taken, r ++ '|' :: n)) : delimited d s = (taken, r) := by
  induction s using escaped_induction generalizing taken with
  | nil =>
    rw [List.nil_append, delimited_cons (by decide), if_neg hd.symm] at h
    exact absurd (congrArg Prod.snd h) (ne_append_bar_of_suffix (delimited_suffix d n))
  | final =>
    -- the backslash takes the bar with it
    rw [List.cons_append, List.nil_append, delimited_escaped] at h
    exact absurd (congrArg Prod.snd h) (ne_append_bar_of_suffix (delimited_suffix d n))
  | escaped c t ih =>
    rw [List.cons_append, List.cons_append, delimited_escaped, Prod.mk.injEq] at h
    rw [delimited_escaped, ih (Prod.ext rfl h.2), ← h.1]
  | plain c t hc ih =>
    rw [List.cons_append, delimited_cons hc] at h
    rw [delimited_cons hc]
    split
    · next hcd =>
      rw [if_pos hcd, Prod.mk.injEq] at h
      rw [h.1, List.append_cancel_right h.2]
    · next hcd =>
      rw [if_neg hcd, Prod.mk.injEq] at h
      rw [ih (Prod.ext rfl h.2), ← h.1]

private theorem isAlpha_bar : Char.isAlpha '|' = false := by decide

private theorem isDigit_bar : Char.isDigit '|' = false := by decide

theorem flags_append_bar : flags (s ++ '|' :: n) = ((flags s).1, (flags s).2 ++ '|' :: n) := by
  simp only [flags, takeWhile_append_bar isAlpha_bar, dropWhile_append_bar isAlpha_bar]
  -- no character of a bar's kind follows flags, and neither does the end of the text
  cases s.dropWhile Char.isAlpha with
  | nil => simp [isDigit_bar, show Text.isBlank '|' = false from by decide]
  | cons c rest => simp only [List.cons_append]; split <;> rfl

/-- A number. -/
theorem number?_append_bar :
    number? (s ++ '|' :: n) = ((number? s).1, (number? s).2 ++ '|' :: n) := by
  simp only [number?, takeWhile_append_bar isDigit_bar, dropWhile_append_bar isDigit_bar]

/-- The bases that no character of their own announces. -/
theorem base?_cons {c : Char} (hc : c ∉ ['%', '.', '$', '\x27']) (t : Text) :
    base? (c :: t) =
      if c = '/' || c = '?' then
        .ok (some (.search (delimited c t).1 (flags (delimited c t).2).1 (c = '?')),
          (flags (delimited c t).2).2)
      else if c = '+' || c = '-' then .ok (some .empty, c :: t)
      else if c.isDigit then
        .ok (some (.line ((number? (c :: t)).1.getD 0)), (number? (c :: t)).2)
      else .ok (none, c :: t) := by
  simp only [List.mem_cons, List.not_mem_nil, or_false, not_or] at hc
  unfold base?
  split
  all_goals simp_all

theorem base?_percent {t : Text} (ht : t.head? ≠ some '%') :
    base? ('%' :: t) = .ok (some .whole, t) := by
  cases t with
  | nil => rfl
  | cons c t => simp_all [base?]

private theorem base?_of_append_cons {c : Char} {b : Option AddressBase}
    (hc : c ∉ ['%', '.', '$', '\x27'])
    (h : base? (c :: s ++ '|' :: n) = .ok (b, r ++ '|' :: n)) :
    base? (c :: s) = .ok (b, r) := by
  rw [List.cons_append, base?_cons hc] at h
  rw [base?_cons hc]
  by_cases hsearch : (c = '/' || c = '?') = true
  · rw [if_pos hsearch] at h ⊢
    obtain ⟨q, hq⟩ := exists_eq_append_bar
      ((Prod.mk.inj (Except.ok.inj h)).2 ▸ flags_suffix (delimited c (s ++ '|' :: n)).2)
    have hd := delimited_of_append (by rintro rfl; simp at hsearch) (Prod.ext rfl hq)
    rw [hq, flags_append_bar] at h
    rw [hd]
    exact ok_of_append h
  · rw [if_neg hsearch] at h ⊢
    by_cases hsign : (c = '+' || c = '-') = true
    · rw [if_pos hsign] at h ⊢
      exact ok_of_append h
    · rw [if_neg hsign] at h ⊢
      by_cases hdigit : c.isDigit = true
      · rw [if_pos hdigit, ← List.cons_append, number?_append_bar] at h
        rw [if_pos hdigit]
        exact ok_of_append h
      · rw [if_neg hdigit] at h ⊢
        exact ok_of_append h

/-- The base of an address. -/
theorem base?_of_append {b : Option AddressBase}
    (h : base? (s ++ '|' :: n) = .ok (b, r ++ '|' :: n)) : base? s = .ok (b, r) := by
  rcases s with _ | ⟨c, s⟩
  · rw [List.nil_append, base?_cons (by decide), if_neg (by decide), if_neg (by decide),
      if_neg (by decide), ← List.nil_append ('|' :: n)] at h
    exact ok_of_append h
  · by_cases hc : c ∈ ['%', '.', '$', '\x27']
    · simp only [List.mem_cons, List.not_mem_nil, or_false] at hc
      rcases hc with rfl | rfl | rfl | rfl
      · by_cases hs : s.head? = some '%'
        · obtain ⟨s, rfl⟩ := List.head?_eq_some_iff.mp hs
          exact ok_of_append h
        · rw [List.cons_append, base?_percent (by cases s <;> simp_all)] at h
          rw [base?_percent hs]
          exact ok_of_append h
      · exact ok_of_append h
      · exact ok_of_append h
      · rcases s with _ | ⟨mark, s⟩
        · -- the quote takes the bar for the name of a mark
          have hrest : n = r ++ '|' :: n := (Prod.mk.inj (Except.ok.inj h)).2
          exact absurd hrest (ne_append_bar_of_suffix List.suffix_rfl)
        · simp only [List.cons_append, base?] at h ⊢
          by_cases hm : Text.isBlank mark = true
          · rw [if_pos hm] at h
            exact nomatch h
          · rw [if_neg hm] at h ⊢
            exact ok_of_append h
    · exact base?_of_append_cons hc h

theorem offsets_append_bar :
    offsets (s ++ '|' :: n) = ((offsets s).1, (offsets s).2 ++ '|' :: n) := by
  fun_induction offsets s with
  | case1 c rest hc digits m sum left hl ih =>
    rw [List.cons_append, offsets, if_pos hc, takeWhile_append_bar isDigit_bar,
      dropWhile_append_bar isDigit_bar, ih, hl]
  | case2 c rest hc => rw [List.cons_append, offsets, if_neg hc]
  | case3 => rw [List.nil_append, offsets, if_neg (by decide)]

theorem scan?_of_append {a : Option Address}
    (h : scan? (s ++ '|' :: n) = .ok (a, r ++ '|' :: n)) : scan? s = .ok (a, r) := by
  unfold scan? at h ⊢
  cases hb : base? (s ++ '|' :: n) with
  | error e => simp [hb, bind, Except.bind] at h
  | ok read =>
    obtain ⟨b, left⟩ := read
    cases b with
    | none =>
      simp only [hb, bind, Except.bind, pure, Except.pure, Except.ok.injEq, Prod.mk.injEq] at h
      obtain ⟨rfl, rfl⟩ := h
      simp only [base?_of_append hb, bind, Except.bind, pure, Except.pure]
    | some b =>
      simp only [hb, bind, Except.bind, pure, Except.pure, Except.ok.injEq, Prod.mk.injEq] at h
      obtain ⟨q, rfl⟩ := exists_eq_append_bar (h.2 ▸ offsets_suffix left)
      rw [offsets_append_bar] at h
      simp only [base?_of_append hb, bind, Except.bind, pure, Except.pure, ← h.1,
        List.append_cancel_right h.2]

end Address

namespace Command

section AddressesFrom

variable {pending : Bool} {t left more : Text} {a : Option Address} {c : Char}

theorem addressesFrom_of_last (ha : Address.scan? (Text.trimStart t) = .ok (a, left))
    (hleft : Text.trimStart left = []) :
    addressesFrom pending t = .ok (addressesFrom.lastAddress pending a, []) := by
  rw [addressesFrom]
  split <;> simp_all
  split <;> simp_all

theorem addressesFrom_of_other (ha : Address.scan? (Text.trimStart t) = .ok (a, left))
    (hleft : Text.trimStart left = c :: more) (hc : separatorToken? c = none) :
    addressesFrom pending t = .ok (addressesFrom.lastAddress pending a, c :: more) := by
  rw [addressesFrom]
  split <;> simp_all
  split <;> simp_all

theorem addressesFrom_of_separator {token : AddressToken}
    (ha : Address.scan? (Text.trimStart t) = .ok (a, left))
    (hleft : Text.trimStart left = c :: more) (hc : separatorToken? c = some token) :
    addressesFrom pending t = (addressesFrom true more).map fun read ↦
      (.address (a.getD ⟨.empty, 0⟩) :: token :: read.1, read.2) := by
  rw [addressesFrom]
  split <;> simp_all
  split <;> simp_all
  cases addressesFrom true more <;> rfl

private theorem addressesFrom_of_error {e : ParseError}
    (ha : Address.scan? (Text.trimStart t) = .error e) : addressesFrom pending t = .error e := by
  rw [addressesFrom]
  split <;> simp_all

private theorem map_eq_ok {α β ε : Type} {f : α → β} {r : Except ε α} {b : β}
    (h : r.map f = .ok b) : ∃ a, r = .ok a ∧ f a = b := by
  cases r with
  | error e => exact nomatch h
  | ok a => exact ⟨a, rfl, Except.ok.inj h⟩

/-- What a list of addresses leaves is left by its first address already. -/
private theorem exists_scan?_of_addressesFrom {rest : Text} {tokens : List AddressToken}
    (h : addressesFrom pending t = .ok (tokens, rest)) :
    ∃ a left, Address.scan? (Text.trimStart t) = .ok (a, left) ∧ rest <:+ left := by
  cases ha : Address.scan? (Text.trimStart t) with
  | error e =>
    rw [addressesFrom_of_error ha] at h
    exact nomatch h
  | ok read =>
    obtain ⟨a, left⟩ := read
    refine ⟨a, left, rfl, ?_⟩
    have hleft : Text.trimStart left <:+ left := List.dropWhile_suffix _
    cases hmore : Text.trimStart left with
    | nil =>
      rw [addressesFrom_of_last ha hmore] at h
      exact (Prod.mk.inj (Except.ok.inj h)).2 ▸ List.nil_suffix
    | cons c more =>
      rw [hmore] at hleft
      cases hc : separatorToken? c with
      | none =>
        rw [addressesFrom_of_other ha hmore hc] at h
        exact (Prod.mk.inj (Except.ok.inj h)).2 ▸ hleft
      | some token =>
        rw [addressesFrom_of_separator ha hmore hc] at h
        obtain ⟨read, hr, hread⟩ := map_eq_ok h
        have hrest : rest <:+ more := (Prod.mk.inj hread).2 ▸ addressesFrom_suffix hr
        exact hrest.trans ((List.suffix_cons c more).trans hleft)

/-- A list of addresses. -/
theorem addressesFrom_of_append {tokens : List AddressToken}
    (h : addressesFrom pending (s ++ '|' :: n) = .ok (tokens, r ++ '|' :: n)) :
    addressesFrom pending s = .ok (tokens, r) := by
  -- the addresses behind a separator are read from a shorter text
  induction hlen : s.length using Nat.strongRecOn generalizing s pending tokens with
  | ind k ih =>
    obtain ⟨a, left, ha, hleft⟩ := exists_scan?_of_addressesFrom h
    obtain ⟨q, rfl⟩ := exists_eq_append_bar hleft
    have hq : Address.scan? (Text.trimStart s) = .ok (a, q) :=
      Address.scan?_of_append (trimStart_append_bar ▸ ha)
    cases hmore : Text.trimStart q with
    | nil =>
      have hbar : Text.trimStart (q ++ '|' :: n) = '|' :: n := by
        rw [trimStart_append_bar, hmore, List.nil_append]
      rw [addressesFrom_of_other ha hbar rfl] at h
      rw [addressesFrom_of_last hq hmore]
      exact ok_of_append h
    | cons c more =>
      have hbar : Text.trimStart (q ++ '|' :: n) = c :: (more ++ '|' :: n) := by
        rw [trimStart_append_bar, hmore, List.cons_append]
      cases hc : separatorToken? c with
      | none =>
        rw [addressesFrom_of_other ha hbar hc] at h
        rw [addressesFrom_of_other hq hmore hc]
        exact ok_of_append h
      | some token =>
        rw [addressesFrom_of_separator ha hbar hc] at h
        obtain ⟨read, hr, hread⟩ := map_eq_ok h
        obtain ⟨rfl, hrest⟩ := Prod.mk.inj hread
        have hlt : more.length < k := by
          have h₁ := (Address.scan?_suffix hq).length_le
          have h₂ : (Text.trimStart s).length ≤ s.length := (List.dropWhile_suffix _).length_le
          have h₃ : (Text.trimStart q).length ≤ q.length := (List.dropWhile_suffix _).length_le
          rw [hmore, List.length_cons] at h₃
          omega
        have hread' := ih more.length hlt (hr.trans (congrArg _ (Prod.ext rfl hrest))) rfl
        rw [addressesFrom_of_separator hq hmore hc, hread']
        rfl

end AddressesFrom

/-! ## Words and parameters -/

theorem word_append_bar :
    word (s ++ '|' :: n) = ((word s).1, (word s).2.1, (word s).2.2 ++ '|' :: n) := by
  cases s with
  | nil => rfl
  | cons c s =>
    simp only [List.cons_append, word]
    rw [← List.cons_append]
    split
    · rw [takeWhile_append_bar (by decide), dropWhile_append_bar (by decide)]
    · split
      · next hc =>
        have hbar : decide ('|' = c) = false := by
          rw [decide_eq_false_iff_not]
          rintro rfl
          simp at hc
        rw [takeWhile_append_bar hbar, dropWhile_append_bar hbar]
      · split <;> rfl

theorem splitBang_append_bar :
    splitBang (s ++ '|' :: n) = ((splitBang s).1, (splitBang s).2 ++ '|' :: n) := by
  rcases s with _ | ⟨c, s⟩
  · rfl
  · by_cases hc : c = '!'
    · rw [hc]
      rfl
    · have hkept : ∀ t : Text, splitBang (c :: t) = (false, c :: t) := by
        intro t
        rw [splitBang]
        exact fun _ h ↦ hc (List.cons.inj h).1
      rw [List.cons_append, hkept, hkept, List.cons_append]

/-- A plain parameter. -/
theorem fromBar_of_append {state : ParameterState}
    (h : fromBar state (s ++ '|' :: n) = r ++ '|' :: n) : fromBar state s = r := by
  fun_induction fromBar state s with
  | case1 state =>
    cases state with
    | plain => exact nil_eq_of_eq_append_bar h
    | plainEscaped | quoted | quotedEscaped =>
      exact absurd h (ne_append_bar_of_suffix (fromBar_suffix _ n))
  | case2 rest => exact List.append_cancel_right h
  | case3 c rest hc ih =>
    rw [List.cons_append, fromBar, if_neg hc] at h
    exact ih h
  | case4 c rest ih | case5 c rest ih | case6 c rest ih => exact ih h

theorem skipReplacement_cons {d c : Char} (hc : c ≠ '\\') (t : Text) :
    skipReplacement d (c :: t)
      = if c = '|' then c :: t else if c = d then t else skipReplacement d t := by
  rw [skipReplacement]
  · simp [hc]
  · simp [hc]

/-- A replacement section. -/
theorem skipReplacement_of_append {d : Char}
    (h : skipReplacement d (s ++ '|' :: n) = r ++ '|' :: n) : skipReplacement d s = r := by
  induction s using escaped_induction with
  | nil => exact nil_eq_of_eq_append_bar h
  | final => exact absurd h (ne_append_bar_of_suffix (skipReplacement_suffix d n))
  | escaped c t ih => exact ih h
  | plain c t hc ih =>
    rw [List.cons_append, skipReplacement_cons hc] at h
    rw [skipReplacement_cons hc]
    split
    · next hbar =>
      rw [if_pos hbar] at h
      exact List.append_cancel_right h
    · next hbar =>
      rw [if_neg hbar] at h
      split
      · next hd =>
        rw [if_pos hd] at h
        exact List.append_cancel_right h
      · next hd =>
        rw [if_neg hd] at h
        exact ih h

theorem fromBarAfterSections_of_append
    (h : fromBarAfterSections (s ++ '|' :: n) = r ++ '|' :: n) : fromBarAfterSections s = r := by
  cases s with
  | nil => exact nil_eq_of_eq_append_bar h
  | cons c s =>
    simp only [List.cons_append, fromBarAfterSections] at h ⊢
    split
    · next hc =>
      rw [if_pos hc] at h
      have hd : c ≠ '|' := by rintro rfl; exact absurd hc (by decide)
      obtain ⟨q, hq⟩ := exists_eq_append_bar (h ▸ fromBar_suffix .plain
        (skipReplacement c (Address.delimited c (s ++ '|' :: n)).2))
      obtain ⟨p, hp⟩ := exists_eq_append_bar (hq ▸ skipReplacement_suffix c
        (Address.delimited c (s ++ '|' :: n)).2)
      rw [hq] at h
      rw [Address.delimited_of_append hd (Prod.ext rfl hp), skipReplacement_of_append (hp ▸ hq)]
      exact fromBar_of_append h
    · next hc =>
      rw [if_neg hc] at h
      exact fromBar_of_append h

theorem afterParameter_of_append {name : Option CommandName}
    (h : afterParameter name (s ++ '|' :: n) = r ++ '|' :: n) : afterParameter name s = r := by
  cases name with
  | none => exact fromBar_of_append h
  | some name =>
    simp only [afterParameter] at h ⊢
    split
    · next hrest => simp [if_pos hrest] at h
    · next hrest =>
      rw [if_neg hrest] at h
      split
      · next hpattern =>
        rw [if_pos hpattern, trimStart_append_bar] at h
        exact fromBarAfterSections_of_append h
      · next hpattern =>
        rw [if_neg hpattern] at h
        exact fromBar_of_append h

/-! ## Commands -/

private theorem segment_append_append (u v t : Text) : segment (u ++ t) (v ++ t) = segment u v := by
  rw [segment, segment, List.length_append, List.length_append, Nat.add_sub_add_right,
    List.take_append_of_le_length (Nat.sub_le _ _)]

theorem finish_of_append {source source' : Text} {addresses : List AddressToken}
    {name : Option CommandName} {spelled : Option Text} {repeats : Nat} {command : Command}
    (h : finish source addresses name spelled repeats (s ++ '|' :: n)
      = .ok (command, r ++ '|' :: n)) :
    finish source' addresses name spelled repeats s = .ok (command, r) := by
  simp only [finish, splitBang_append_bar] at h ⊢
  have hrest : afterParameter name ((splitBang s).2 ++ '|' :: n) = r ++ '|' :: n := by
    split at h
    · exact nomatch h
    · exact (Prod.mk.inj (Except.ok.inj h)).2
  rw [hrest, segment_append_append] at h
  rw [afterParameter_of_append hrest]
  split
  · next hmissing =>
    rw [if_pos hmissing] at h
    exact nomatch h
  · next hmissing =>
    rw [if_neg hmissing] at h
    exact ok_of_append h

/-- A command is read as it is before a bar where the text ends instead. -/
theorem scan_of_append {command : Command}
    (h : scan (s ++ '|' :: n) = .ok (command, r ++ '|' :: n)) : scan s = .ok (command, r) := by
  have hlead : (s ++ '|' :: n).dropWhile (fun c ↦ c = ':' || Text.isBlank c)
      = s.dropWhile (fun c ↦ c = ':' || Text.isBlank c) ++ '|' :: n :=
    dropWhile_append_bar (by decide)
  simp only [scan, hlead] at h ⊢
  split at h
  · exact nomatch h
  · next addresses t ha =>
    cases hw : resolveWord (word t).1 with
    | error e =>
      simp only [hw] at h
      exact nomatch h
    | ok read =>
      obtain ⟨name, spelled⟩ := read
      simp only [hw] at h
      obtain ⟨q, rfl⟩ := exists_eq_append_bar ((finish_suffix h).trans (word_suffix t))
      rw [addressesFrom_of_append ha]
      simp only [word_append_bar] at h hw ⊢
      simp only [hw]
      exact finish_of_append h

end Command

end LineEditor
