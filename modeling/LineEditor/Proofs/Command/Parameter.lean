import LineEditor.Proofs.Command.Segments

/-!
# Quoted parameters

A parameter that is written in quotes may hold anything, so it is the way to hand over any text to a
command: bars, quotes, backslashes, line breaks, and blanks at its ends. Three passes go over it.
The search for the bar that ends the command follows the quotes, as the reader of quoted text does,
so it finds none inside. Trimming takes the blanks outside the quotes only. Reading the quoted text
gives back the text that was written.

But then `\|` is turned into `|`, as in a parameter without quotes, where a bar has to be protected.
In a quoted text it need not be, and a `\|` that stands in the text is changed. So a command is
handed the text that was written exactly if there is no `\|` in it.
-/

namespace LineEditor

namespace Text

/-- The codes of letters. -/
theorem toNat_of_isAlpha {c : Char} (h : c.isAlpha = true) :
    (65 ≤ c.toNat ∧ c.toNat ≤ 90) ∨ (97 ≤ c.toNat ∧ c.toNat ≤ 122) := by
  change (c.isUpper || c.isLower) = true at h
  rcases (Bool.or_eq_true _ _).mp h with hupper | hlower
  · obtain ⟨hA, hZ⟩ : 'A'.val ≤ c.val ∧ c.val ≤ 'Z'.val := of_decide_eq_true hupper
    exact .inl ⟨UInt32.le_iff_toNat_le.mp hA, UInt32.le_iff_toNat_le.mp hZ⟩
  · obtain ⟨ha, hz⟩ := (Bool.and_eq_true _ _).mp hlower
    exact .inr ⟨UInt32.le_iff_toNat_le.mp (of_decide_eq_true ha),
      UInt32.le_iff_toNat_le.mp (of_decide_eq_true hz)⟩

/-- A letter is no blank. -/
theorem isBlank_of_isAlpha {c : Char} (h : c.isAlpha = true) : isBlank c = false := by
  have hletter := toNat_of_isAlpha h
  simp only [isBlank, Bool.or_eq_false_iff, Bool.and_eq_false_iff, decide_eq_false_iff_not]
  omega

/-- The blanks in front of a text that neither starts nor ends with one are all that is trimmed. -/
theorem trim_cons_space {c d : Char} (hc : isBlank c = false) (hd : isBlank d = false) (t : Text) :
    trim (' ' :: c :: t ++ [d]) = c :: t ++ [d] := by
  have hstart : trimStart (' ' :: c :: t ++ [d]) = c :: t ++ [d] := by
    rw [trimStart, List.cons_append, List.dropWhile_cons_of_pos (by decide), List.cons_append,
      List.dropWhile_cons_of_neg (by rw [hc]; exact Bool.false_ne_true)]
  rw [trim, hstart, trimEnd, List.reverse_append, List.reverse_singleton, List.singleton_append,
    List.dropWhile_cons_of_neg (by rw [hd]; exact Bool.false_ne_true), List.reverse_cons,
    List.reverse_reverse]

end Text

namespace Command

/-! ## Protected bars -/

/-- Nothing but a `\|` is turned into anything. -/
theorem unescapeBars_eq_self_iff (t : Text) : unescapeBars t = t ↔ ¬ ['\\', '|'] <:+: t := by
  have hle : ∀ t, (unescapeBars t).length ≤ t.length := by
    intro t
    fun_induction unescapeBars t with
    | case1 rest ih | case2 c rest _ ih => simp only [List.length_cons]; omega
    | case3 => exact Nat.le_refl _
  fun_induction unescapeBars t with
  | case1 rest ih =>
    refine iff_of_false (fun h ↦ ?_) (not_not_intro ⟨[], rest, rfl⟩)
    have hlength := congrArg List.length h
    have hrest := hle rest
    simp only [List.length_cons] at hlength
    omega
  | case2 c rest hbar ih =>
    have hprefix : ¬ ['\\', '|'] <+: c :: rest := by
      rintro ⟨more, h⟩
      obtain ⟨rfl, rfl⟩ := List.cons.inj h
      exact hbar more rfl rfl
    rw [List.cons.injEq, eq_self, true_and, List.infix_cons_iff, not_or, and_iff_right hprefix]
    exact ih
  | case3 => decide

/-! ## Past the quotes -/

private theorem fromBar_quoted_plain {t : Text} (h : ∀ c ∈ t, c ≠ '"' ∧ c ≠ '\\') (rest : Text) :
    fromBar .quoted (t ++ rest) = fromBar .quoted rest := by
  induction t with
  | nil => rfl
  | cons c t ih =>
    obtain ⟨hquote, hslash⟩ := h c List.mem_cons_self
    rw [List.cons_append, fromBar, if_neg hquote, if_neg hslash]
    exact ih fun d hd ↦ h d (List.mem_cons_of_mem c hd)

/-- A character inside the quotes never ends them. -/
private theorem fromBar_encodeChar (c : Char) (rest : Text) :
    fromBar .quoted (Text.Quoted.encodeChar c ++ rest) = fromBar .quoted rest := by
  rcases Text.Quoted.encodeChar_cases c with ⟨h, hc⟩ | ⟨d, more, h, hmore⟩
  · rw [h]
    exact fromBar_quoted_plain (fun e he ↦ List.mem_singleton.mp he ▸ hc) rest
  · -- whatever follows the backslash is passed over with it
    rw [h]
    exact fromBar_quoted_plain hmore rest

/-- The search for a bar passes over a quoted text. -/
theorem fromBar_encode (t rest : Text) :
    fromBar .plain (Text.Quoted.encode t ++ rest) = fromBar .plain rest := by
  have hbody : fromBar .quoted (t.flatMap Text.Quoted.encodeChar ++ '"' :: rest)
      = fromBar .plain rest := by
    induction t with
    | nil => rfl
    | cons c t ih => rw [List.flatMap_cons, List.append_assoc, fromBar_encodeChar, ih]
  rw [← hbody, Text.Quoted.encode, List.append_assoc]
  rfl

/-- What a command is handed of a quoted text. -/
theorem decodeParameter_encode (t : Text) :
    decodeParameter (' ' :: Text.Quoted.encode t) = unescapeBars t := by
  have htrim : Text.trim (' ' :: Text.Quoted.encode t) = Text.Quoted.encode t :=
    Text.trim_cons_space (by decide) (by decide) _
  rw [decodeParameter, htrim, Text.Quoted.decode?_encode, Option.getD_some]

/-! ## Commands -/

theorem segment_append (s rest : Text) : segment (s ++ rest) rest = s := by
  rw [segment, List.length_append, Nat.add_sub_cancel, List.take_left]

/-- The text is one command word, written once. -/
def IsWord (w : Text) : Prop := word w = (w, 1, [])

instance (w : Text) : Decidable (IsWord w) := by unfold IsWord; infer_instance

/-- The words of the table are such words. -/
theorem isWord_of_mem_entries {w : Text} {name : CommandName}
    (h : (w, name) ∈ CommandName.entries) : IsWord w := by
  have hall : ∀ entry ∈ CommandName.entries, IsWord entry.1 := by decide +kernel
  exact hall _ h

variable {w : Text} {name : CommandName}

/-- A command word starts with a letter or is one of the symbols. -/
private abbrev startsWord (c : Char) : Prop := c.isAlpha = true ∨ c ∈ ['<', '>', '&', '~', '=', '#']

private theorem startsWord_ne {c d : Char} (hc : startsWord c)
    (hd : d.isAlpha = false ∧ d ∉ ['<', '>', '&', '~', '=', '#']) : c ≠ d := by
  rintro rfl
  rcases hc with hc | hc
  · exact absurd (hc.symm.trans hd.1) (by decide)
  · exact hd.2 hc

private theorem startsWord_isBlank {c : Char} (hc : startsWord c) : Text.isBlank c = false := by
  rcases hc with hc | hc
  · exact Text.isBlank_of_isAlpha hc
  · simp only [List.mem_cons, List.not_mem_nil, or_false] at hc
    rcases hc with rfl | rfl | rfl | rfl | rfl | rfl <;> rfl

private theorem startsWord_isDigit {c : Char} (hc : startsWord c) : c.isDigit = false := by
  rcases hc with hc | hc
  · have hletter := Text.toNat_of_isAlpha hc
    have hnine : c.toNat ≤ 57 → False := by omega
    simpa [Char.isDigit, UInt32.le_iff_toNat_le] using fun _ ↦ Nat.lt_of_not_le hnine
  · simp only [List.mem_cons, List.not_mem_nil, or_false] at hc
    rcases hc with rfl | rfl | rfl | rfl | rfl | rfl <;> rfl

private theorem IsWord.exists_eq_cons (hw : IsWord w) (hne : w ≠ []) :
    ∃ c t, w = c :: t ∧ startsWord c := by
  obtain ⟨c, t, rfl⟩ := List.exists_cons_of_ne_nil hne
  refine ⟨c, t, rfl, Decidable.byContradiction fun hc ↦ ?_⟩
  simp only [List.mem_cons, List.not_mem_nil, or_false, not_or] at hc
  simp [IsWord, word, hc] at hw

/-- What follows a word behind a space is left. -/
theorem IsWord.word_append (hw : IsWord w) (hne : w ≠ []) (t : Text) :
    word (w ++ ' ' :: t) = (w, 1, ' ' :: t) := by
  obtain ⟨c, more, rfl, hc⟩ := hw.exists_eq_cons hne
  by_cases halpha : c.isAlpha = true
  · rw [IsWord, word, if_pos halpha, Prod.mk.injEq] at hw
    have hletters : ∀ d ∈ c :: more, d.isAlpha = true := by
      intro d hd
      exact List.all_eq_true.mp List.all_takeWhile d (hw.1.symm ▸ hd)
    rw [List.cons_append, word, if_pos halpha, ← List.cons_append,
      List.takeWhile_append_of_pos hletters, List.dropWhile_append_of_pos hletters]
    simp
  · -- a symbol that can be repeated is one word only if it is written once
    have hmore : more = [] := by
      simp only [IsWord, word, if_neg halpha] at hw
      split at hw
      · exact (List.cons.inj (Prod.mk.inj hw).1).2.symm
      · split at hw
        · exact (List.cons.inj (Prod.mk.inj hw).1).2.symm
        · exact absurd (Prod.mk.inj hw).1.symm (List.cons_ne_nil c more)
    subst hmore
    have hspace : c ≠ ' ' := startsWord_ne hc (by decide)
    have hsymbol : c ∈ ['<', '>', '&', '~', '=', '#'] := hc.resolve_left halpha
    simp only [List.mem_cons, List.not_mem_nil, or_false] at hsymbol
    rcases hsymbol with rfl | rfl | rfl | rfl | rfl | rfl <;> rfl

/-- Where a word stands there is no address. -/
theorem IsWord.addressesFrom_append (hw : IsWord w) (hne : w ≠ []) (t : Text) :
    addressesFrom false ((w ++ t).dropWhile fun c ↦ c = ':' || Text.isBlank c)
      = .ok ([], w ++ t) := by
  obtain ⟨c, more, rfl, hc⟩ := hw.exists_eq_cons hne
  have hother : ∀ d ∈ [':', '%', '.', '$', '\x27', '/', '?', '+', '-', ',', ';'], c ≠ d := by
    intro d hd
    refine startsWord_ne hc ?_
    simp only [List.mem_cons, List.not_mem_nil, or_false] at hd
    rcases hd with rfl | rfl | rfl | rfl | rfl | rfl | rfl | rfl | rfl | rfl | rfl <;> decide
  simp only [List.mem_cons, List.not_mem_nil, or_false, forall_eq_or_imp, forall_eq] at hother
  have hscan : ∀ u, Address.scan? (c :: u) = .ok (none, c :: u) := by
    intro u
    rw [Address.scan?, Address.base?_cons (by simp [hother])]
    simp [hother, startsWord_isDigit hc, bind, Except.bind, pure, Except.pure]
  have htrim : ∀ u, Text.trimStart (c :: u) = c :: u := by
    intro u
    simp [Text.trimStart, startsWord_isBlank hc]
  have hlead : (c :: more ++ t).dropWhile (fun c ↦ c = ':' || Text.isBlank c) = c :: more ++ t := by
    simp [hother, startsWord_isBlank hc]
  rw [hlead, List.cons_append]
  have hnone : Address.scan? (Text.trimStart (c :: (more ++ t)))
      = .ok (none, c :: (more ++ t)) := by
    rw [htrim, hscan]
  exact addressesFrom_of_other hnone (htrim _) (by simp [separatorToken?, hother])

/-- A command whose parameter is quoted is read up to the quotes, if a bar or nothing follows. -/
theorem scan_word_quoted {rest : Text} (hw : IsWord w) (hname : CommandName.ofWord? w = some name)
    (hpattern : name.takesPattern = false) (hrest : name.takesRest = false)
    (hbar : fromBar .plain rest = rest) (p : Text) :
    scan (w ++ ' ' :: Text.Quoted.encode p ++ rest)
      = .ok (⟨[], some name, false, 1, unescapeBars p⟩, rest) := by
  have hne : w ≠ [] := by
    rintro rfl
    have hnil : CommandName.ofWord? [] = none := by decide +kernel
    exact absurd (hnil.symm.trans hname) nofun
  have hresolve : resolveWord w = .ok (some name, none) := by
    obtain ⟨c, t, rfl⟩ := List.exists_cons_of_ne_nil hne
    simp only [resolveWord, hname]
  have hafter : afterParameter (some name) (' ' :: Text.Quoted.encode p ++ rest) = rest := by
    rw [afterParameter, if_neg (by simp [hrest]), if_neg (by simp [hpattern])]
    exact (fromBar_encode p rest).trans hbar
  have hparameter : parameterOf (some name) (' ' :: Text.Quoted.encode p) = unescapeBars p := by
    rw [parameterOf, if_neg (by simp [hpattern, hrest]), decodeParameter_encode]
  have hscan : ∀ source, finish source [] (some name) none 1 (' ' :: Text.Quoted.encode p ++ rest)
      = .ok (⟨[], some name, false, 1, unescapeBars p⟩, rest) := by
    intro source
    have hbang : splitBang (' ' :: Text.Quoted.encode p ++ rest)
        = (false, ' ' :: Text.Quoted.encode p ++ rest) := rfl
    rw [finish, hbang, hafter, segment_append, hparameter]
    rfl
  rw [scan, List.append_assoc, hw.addressesFrom_append hne]
  simp only [List.cons_append, hw.word_append hne, hresolve]
  exact hscan _

/-- What is read of a command with a quoted parameter. -/
def quotedCommand (name : CommandName) (p : Text) : Command :=
  ⟨[], some name, false, 1, unescapeBars p⟩

/-- A command word with a quoted text behind it is read as one command, whatever the text is, and
so it is before a bar and more commands. The command is handed the text exactly if no `\|` stands
in it. -/
theorem commands_word_quoted (hw : IsWord w) (hname : CommandName.ofWord? w = some name)
    (hpattern : name.takesPattern = false) (hrest : name.takesRest = false) (p : Text) :
    commands (w ++ ' ' :: Text.Quoted.encode p) = [.ok (quotedCommand name p)] ∧
      (∀ n, commands (w ++ ' ' :: Text.Quoted.encode p ++ '|' :: n)
        = .ok (quotedCommand name p) :: commands n) ∧
      ((quotedCommand name p).parameter = p ↔ ¬ ['\\', '|'] <:+: p) := by
  have hanswer : [.ok (quotedCommand name p)].filter isAnswer = [.ok (quotedCommand name p)] := by
    rw [filter_isAnswer_ok, if_neg (by simp [quotedCommand, isEmpty])]
  refine ⟨?_, fun n ↦ ?_, unescapeBars_eq_self_iff p⟩
  · have hend : fromBar .plain [] = [] := rfl
    have hscan := scan_word_quoted hw hname hpattern hrest hend p
    rw [List.append_nil] at hscan
    rw [commands_of_last hscan, parse_eq_ok hscan]
    exact hanswer
  · have hbar : fromBar .plain ('|' :: n) = '|' :: n := rfl
    have hscan := scan_word_quoted hw hname hpattern hrest hbar p
    rw [commands_of_bar hscan]
    exact congrArg (· ++ commands n) hanswer

/-- Bars, quotes, backslashes, blanks and line breaks are all handed over. -/
theorem commands_append_quoted :
    commands ("append".toList ++ ' ' :: Text.Quoted.encode " |\"\\\n ".toList ++ "|p".toList)
      = .ok ⟨[], some .append, false, 1, " |\"\\\n ".toList⟩ :: commands ['p'] := by
  have hw : IsWord "append".toList := by decide +kernel
  have hname : CommandName.ofWord? "append".toList = some .append := by decide +kernel
  have h := commands_word_quoted hw hname rfl rfl " |\"\\\n ".toList
  have hparameter : quotedCommand .append " |\"\\\n ".toList
      = ⟨[], some .append, false, 1, " |\"\\\n ".toList⟩ := by decide
  rw [← hparameter]
  exact h.2.1 ['p']

/-- A `\|` in the text loses its backslash, though the text is quoted. -/
theorem not_commands_quoted_escaped_bar :
    ∃ c, commands ("a ".toList ++ Text.Quoted.encode "\\|".toList) = [.ok c] ∧
      c.parameter = "|".toList ∧ c.parameter ≠ "\\|".toList := by
  have hw : IsWord "a".toList := by decide +kernel
  have hname : CommandName.ofWord? "a".toList = some .append := by decide +kernel
  have hend : fromBar .plain [] = [] := rfl
  have hscan := scan_word_quoted hw hname rfl rfl hend "\\|".toList
  refine ⟨quotedCommand .append "\\|".toList, ?_, by decide, by decide⟩
  rw [List.append_nil] at hscan
  exact (commands_of_last hscan).trans (by rw [parse_eq_ok hscan]; rfl)

end Command

end LineEditor
