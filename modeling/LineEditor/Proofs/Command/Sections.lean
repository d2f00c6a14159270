import LineEditor.Proofs.Command.Parameter
import LineEditor.Session.Substitute

/-!
# Sections of a substitution

A substitution is written as `s/pattern/replacement/flags`, with any character around the sections
that is no letter, digit or blank and has no other meaning. Where such a line is cut, and where its
sections are, is found out twice: the reader of the line passes over the sections to find the bar
that ends the command, and the command that is handed the parameter, trimmed, takes it apart. The
first passes over a replacement up to a bar, in quotes or not, whereas a pattern may hold one; the
second knows of no bars.

Both agree. A text is *protected* by a backslash before each delimiter in it, and what is protected
is read back, whichever of the two reads it.
-/

namespace LineEditor

/-- Of what ends with no blank, none is trimmed. -/
theorem Text.trimEnd_append_cons {c : Char} (hc : isBlank c = false) (s t : Text) :
    trimEnd (s ++ c :: t) = s ++ c :: trimEnd t := by
  have hback : (s ++ c :: t).reverse = t.reverse ++ c :: s.reverse := by simp
  have hstop : (c :: s.reverse).dropWhile isBlank = c :: s.reverse :=
    List.dropWhile_cons_of_neg (by rw [hc]; exact Bool.false_ne_true)
  rw [trimEnd, trimEnd, hback, List.dropWhile_append, hstop]
  split
  · next hall => simp [List.isEmpty_iff.mp hall]
  · simp

namespace Address

variable {d : Char} {avoided p : Text}

/-- The text can be written between delimiters: it is made of plain characters, which are not to be
avoided, and of characters behind a backslash, which are not the delimiter. -/
inductive IsSection (d : Char) (avoided : Text) : Text → Prop
  /-- Nothing is written. -/
  | nil : IsSection d avoided []
  /-- A plain character, which may be the delimiter. -/
  | plain {c : Char} {t : Text} (hc : c ≠ '\\') (havoided : c ∉ avoided)
    (h : IsSection d avoided t) : IsSection d avoided (c :: t)
  /-- A character behind a backslash. -/
  | escaped {c : Char} {t : Text} (hc : c ≠ d) (h : IsSection d avoided t) :
    IsSection d avoided ('\\' :: c :: t)

/-- The text with a backslash before each plain delimiter. -/
def protect (d : Char) : Text → Text
  | [] => []
  | ['\\'] => ['\\']
  | '\\' :: c :: t => '\\' :: c :: protect d t
  | c :: t => if c = d then '\\' :: c :: protect d t else c :: protect d t

theorem protect_escaped (d c : Char) (t : Text) :
    protect d ('\\' :: c :: t) = '\\' :: c :: protect d t := by rw [protect]

theorem protect_cons {c : Char} (hc : c ≠ '\\') (t : Text) :
    protect d (c :: t) = if c = d then '\\' :: c :: protect d t else c :: protect d t := by
  rw [protect]
  · simp [hc]
  · simp [hc]

/-- A protected text is read back up to the delimiter behind it. -/
theorem delimited_protect (h : IsSection d avoided p) (hd : d ≠ '\\') (rest : Text) :
    delimited d (protect d p ++ d :: rest) = (p, rest) := by
  induction h with
  | nil => rw [protect, List.nil_append, delimited_cons hd, if_pos rfl]
  | @plain c t hc _ _ ih =>
    rw [protect_cons hc]
    split
    · next hcd => rw [List.cons_append, List.cons_append, delimited_escaped, if_pos hcd, ih]
    · next hcd => rw [List.cons_append, delimited_cons hc, if_neg hcd, ih]
  | @escaped c t hc _ ih =>
    rw [protect_escaped, List.cons_append, List.cons_append, delimited_escaped, if_neg hc, ih]

end Address

namespace Command

open Address (IsSection protect protect_cons delimited)

variable {d : Char} {p r f n rest : Text}

/-! ## Where the sections end -/

theorem isDelimiter_spec (hd : isDelimiter d = true) :
    d.isAlpha = false ∧ Text.isBlank d = false ∧ d ≠ '\\' ∧ d ≠ '|' := by
  simp only [isDelimiter, Bool.and_eq_true, Bool.not_eq_true', decide_eq_true_eq] at hd
  obtain ⟨⟨⟨⟨⟨hletter, hblank⟩, hslash⟩, -⟩, hbar⟩, -⟩ := hd
  refine ⟨?_, hblank, hslash, hbar⟩
  rw [Bool.eq_false_iff]
  intro halpha
  have hcode := Text.toNat_of_isAlpha halpha
  have hascii : d.toNat < 128 := by omega
  simp [Unicode.isAlphanumeric, Unicode.isAlphabetic, hascii, halpha] at hletter

/-- A protected replacement is passed over with the delimiter behind it, if no bar ends it. -/
theorem skipReplacement_protect (h : IsSection d ['|'] r) (hd : isDelimiter d = true)
    (rest : Text) : skipReplacement d (protect d r ++ d :: rest) = rest := by
  obtain ⟨-, -, hslash, hbar⟩ := isDelimiter_spec hd
  induction h with
  | nil => rw [protect, List.nil_append, skipReplacement_cons hslash, if_neg hbar, if_pos rfl]
  | @plain c t hc havoided _ ih =>
    rw [protect_cons hc]
    split
    · exact ih
    · next hcd =>
      rw [List.cons_append, skipReplacement_cons hc, if_neg (List.ne_of_not_mem_cons havoided),
        if_neg hcd, ih]
  | @escaped c t hc _ ih => exact ih

/-- The character can stand in the flags of a substitution. -/
def IsFlag (c : Char) : Prop := c ∈ ['g', 'i', 'I'] ∨ c.isDigit = true ∨ Text.isBlank c = true

theorem IsFlag.plain {c : Char} (h : IsFlag c) : c ≠ '|' ∧ c ≠ '"' ∧ c ≠ '\\' := by
  refine ⟨?_, ?_, ?_⟩
  all_goals
    rintro rfl
    revert h
    simp only [IsFlag]
    decide

/-- The search for a bar passes over flags. -/
theorem fromBar_flags (hf : ∀ c ∈ f, IsFlag c) (rest : Text) :
    fromBar .plain (f ++ rest) = fromBar .plain rest := by
  induction f with
  | nil => rfl
  | cons c f ih =>
    obtain ⟨hbar, hquote, hslash⟩ := (hf c List.mem_cons_self).plain
    rw [List.cons_append, fromBar, if_neg hbar, if_neg hquote, if_neg hslash]
    exact ih fun c hc ↦ hf c (List.mem_cons_of_mem _ hc)

/-! ## Reading a substitution -/

/-- The sections of a substitution and its flags, as they are written. -/
def sections (d : Char) (p r f : Text) : Text :=
  d :: (protect d p ++ d :: (protect d r ++ d :: f))

theorem sections_append (d : Char) (p r f rest : Text) :
    sections d p r f ++ rest = sections d p r (f ++ rest) := by
  simp only [sections, List.cons_append, List.append_assoc]

/-- Only blanks behind the flags are trimmed. -/
theorem trim_sections (hd : isDelimiter d = true) (p r f : Text) :
    Text.trim (sections d p r f) = sections d p r (Text.trimEnd f) := by
  have hblank := (isDelimiter_spec hd).2.1
  have hstart : Text.trimStart (sections d p r f) = sections d p r f :=
    List.dropWhile_cons_of_neg (by rw [hblank]; exact Bool.false_ne_true)
  have hend := Text.trimEnd_append_cons hblank (d :: (protect d p ++ d :: protect d r)) f
  rw [Text.trim, hstart]
  simpa only [sections, List.cons_append, List.append_assoc] using hend

/-- The first of the two readers finds the end of the flags. -/
theorem fromBarAfterSections_sections (hd : isDelimiter d = true) (hp : IsSection d [] p)
    (hr : IsSection d ['|'] r) (hf : ∀ c ∈ f, IsFlag c) (rest : Text) :
    fromBarAfterSections (sections d p r f ++ rest) = fromBar .plain rest := by
  have hslash := (isDelimiter_spec hd).2.2.1
  rw [sections_append, sections, fromBarAfterSections, if_pos hd,
    Address.delimited_protect hp hslash, skipReplacement_protect hr hd, fromBar_flags hf]

/-- The second one finds the sections. -/
theorem substitutionOf_sections (hd : isDelimiter d = true) {avoided avoided' : Text}
    (hp : IsSection d avoided p) (hr : IsSection d avoided' r) (f : Text) :
    Run.substitutionOf .substitute (sections d p r f) = do
      let s ← Run.session
      let pattern ← Run.patternOrLast p
      let previous := (s.lastSubstitution.map (·.replacement)).getD []
      return ⟨pattern, Template.resolvePrevious previous (← Run.options).magic r, f⟩ := by
  have hslash := (isDelimiter_spec hd).2.2.1
  have hstart : Text.trimStart (sections d p r f) = sections d p r f :=
    List.dropWhile_cons_of_neg (by rw [(isDelimiter_spec hd).2.1]; exact Bool.false_ne_true)
  have hdelimiter : Run.delimiter? (sections d p r f) = some d := by
    simp only [Run.delimiter?, sections, List.head?_cons, Option.filter_some, if_pos hd]
  simp only [Run.substitutionOf, hstart, hdelimiter]
  simp only [sections, List.drop_succ_cons, List.drop_zero, Address.delimited_protect hp hslash,
    Address.delimited_protect hr hslash]

/-- A substitution is read up to the end of its flags, if a bar or nothing follows. -/
theorem scan_sections (hd : isDelimiter d = true) (hbang : d ≠ '!') (hp : IsSection d [] p)
    (hr : IsSection d ['|'] r) (hf : ∀ c ∈ f, IsFlag c) (hrest : fromBar .plain rest = rest) :
    scan ('s' :: sections d p r f ++ rest)
      = .ok (⟨[], some .substitute, false, 1, sections d p r (Text.trimEnd f)⟩, rest) := by
  obtain ⟨hletter, hblank, -, -⟩ := isDelimiter_spec hd
  have hw : IsWord ['s'] := by decide
  have hname : CommandName.ofWord? ['s'] = some .substitute := by decide +kernel
  have hword : word ('s' :: sections d p r f ++ rest) = (['s'], 1, sections d p r f ++ rest) := by
    simp [word, sections, hletter, show Char.isAlpha 's' = true from rfl]
  have hnobang : splitBang (sections d p r f ++ rest) = (false, sections d p r f ++ rest) := by
    rw [splitBang]
    exact fun _ h ↦ hbang (List.cons.inj h).1
  have hstart : Text.trimStart (sections d p r f ++ rest) = sections d p r f ++ rest :=
    List.dropWhile_cons_of_neg (by rw [hblank]; exact Bool.false_ne_true)
  have hafter : afterParameter (some .substitute) (sections d p r f ++ rest) = rest := by
    change fromBarAfterSections (Text.trimStart (sections d p r f ++ rest)) = rest
    rw [hstart, fromBarAfterSections_sections hd hp hr hf, hrest]
  have hparameter : parameterOf (some .substitute) (sections d p r f)
      = sections d p r (Text.trimEnd f) := trim_sections hd p r f
  have haddresses := hw.addressesFrom_append (List.cons_ne_nil _ _) (sections d p r f ++ rest)
  have hfinish : ∀ source, finish source [] (some .substitute) none 1 (sections d p r f ++ rest)
      = .ok (⟨[], some .substitute, false, 1, sections d p r (Text.trimEnd f)⟩, rest) := by
    intro source
    rw [finish, hnobang, hafter, segment_append, hparameter]
    rfl
  rw [scan, List.cons_append]
  rw [List.singleton_append] at haddresses
  simp only [haddresses]
  rw [List.cons_append] at hword
  simp only [hword, resolveWord, hname]
  exact hfinish _

/-- **A substitution is cut and taken apart where its sections end**, whatever stands in them. Let
the sections be made of plain characters, with no bar in the replacement, and of characters behind
a backslash, other than the delimiter. Written with their plain delimiters protected, and with flags
behind them, they are one command, alone as well as before a bar and anything else; and from its
parameter, from which only blanks behind the flags are trimmed, the command gets back both sections
and the flags. -/
theorem read_substitution (hd : isDelimiter d = true) (hbang : d ≠ '!') (hp : IsSection d [] p)
    (hr : IsSection d ['|'] r) (hf : ∀ c ∈ f, IsFlag c) :
    let line := 's' :: sections d p r f
    let parameter := sections d p r (Text.trimEnd f)
    let c : Command := ⟨[], some .substitute, false, 1, parameter⟩
    (scan line = .ok (c, []) ∧ split line = .ok [line] ∧ commands line = [.ok c]) ∧
      (∀ n, scan (line ++ '|' :: n) = .ok (c, '|' :: n) ∧
        split (line ++ '|' :: n) = (split n).map (line :: ·) ∧
        commands (line ++ '|' :: n) = .ok c :: commands n) ∧
      (∃ rest, delimited d (parameter.drop 1) = (p, rest) ∧
        delimited d rest = (r, Text.trimEnd f)) ∧
      Run.substitutionOf .substitute parameter = do
        let s ← Run.session
        let pattern ← Run.patternOrLast p
        let previous := (s.lastSubstitution.map (·.replacement)).getD []
        return ⟨pattern, Template.resolvePrevious previous (← Run.options).magic r,
          Text.trimEnd f⟩ := by
  intro line parameter c
  have hslash := (isDelimiter_spec hd).2.2.1
  have hlast : scan line = .ok (c, []) := by
    have hscan : scan (line ++ []) = .ok (c, []) := scan_sections hd hbang hp hr hf rfl
    rwa [List.append_nil] at hscan
  have hbar : ∀ n, scan (line ++ '|' :: n) = .ok (c, '|' :: n) :=
    fun n ↦ scan_sections hd hbang hp hr hf rfl
  refine ⟨⟨hlast, ?_, ?_⟩, fun n ↦ ⟨hbar n, ?_, ?_⟩, ?_, substitutionOf_sections hd hp hr _⟩
  · exact split_of_last hlast
  · exact commands_of_scan (congrArg Except.toOption hlast) rfl
  · rw [split_of_bar (hbar n), segment_append]
  · rw [commands_of_bar (hbar n)]
    rfl
  · exact ⟨_, Address.delimited_protect hp hslash _, Address.delimited_protect hr hslash _⟩

/-- Bars, quotes, line breaks and delimiters in the pattern, a protected bar and a quote in the
replacement, and blanks around the flags. -/
theorem read_substitution_bars :
    commands "s/a|\"\n\\/b/\"\\|&/g 2 |p".toList
      = .ok ⟨[], some .substitute, false, 1, "/a|\"\n\\/b/\"\\|&/g 2".toList⟩
        :: commands ['p'] := by
  have hp : IsSection '/' [] "a|\"\n/b".toList :=
    .plain (by decide) nofun (.plain (by decide) nofun (.plain (by decide) nofun
      (.plain (by decide) nofun (.plain (by decide) nofun (.plain (by decide) nofun .nil)))))
  have hr : IsSection '/' ['|'] "\"\\|&".toList :=
    .plain (by decide) (by decide) (.escaped (by decide) (.plain (by decide) (by decide) .nil))
  have hf : ∀ c ∈ "g 2 ".toList, IsFlag c := by simp [IsFlag, Text.isBlank]
  have hd : isDelimiter '/' = true := by decide +kernel
  exact ((read_substitution hd (by decide) hp hr hf).2.1 ['p']).2.2

end Command

end LineEditor
