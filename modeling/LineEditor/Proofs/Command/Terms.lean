import LineEditor.Proofs.Command.Numbered
import LineEditor.Proofs.Command.Sections

/-!
# Terms

What is written of an address is a `Term`: a base, which may be missing, any number of signed
offsets, and blanks around them. Its parts can be told apart because of what may follow each of
them: a sign, a blank, a separator, or nothing. None of these goes on with a number, turns one `%`
into two, or is a letter. The letters behind a pattern are the only part that needs something behind
it: at the end of a text they are taken for a command. And a number behind a sign counts as the
greatest integer if it is greater.
-/

namespace LineEditor

/-- Nothing is left of characters that are all of one kind. -/
theorem Text.dropWhile_eq_nil {p : Char → Bool} {l : Text} (hl : ∀ c ∈ l, p c = true) :
    l.dropWhile p = [] := by
  have hall : (l ++ []).dropWhile p = [] := List.dropWhile_append_of_pos hl
  rwa [List.append_nil] at hall

theorem Text.countOfDigits?_nil : countOfDigits? [] = none := rfl

namespace Address

/-! ## Terms -/

/-- Digits that are read as a number. -/
structure Numeral where
  /-- The digits; there may be zeros in front. -/
  digits : Text
  /-- There is a digit. -/
  ne_nil : digits ≠ []
  /-- There are digits only. -/
  isDigit : ∀ c ∈ digits, c.isDigit = true
  /-- The number is not too large to be read. -/
  lt : Text.digitsValue digits < Text.countLimit

/-- A sign, and a number of lines behind it, if one is written. -/
structure Offset where
  /-- The sign is `+`. -/
  forward : Bool
  /-- The number. -/
  count : Option Numeral

/-- The delimiter of a pattern to search for. -/
def searchDelimiter (backward : Bool) : Char := if backward then '?' else '/'

/-- A base as it is written. -/
inductive Form where
  /-- Nothing is written. -/
  | empty
  /-- The current line, `.`. -/
  | current
  /-- The last line, `$`. -/
  | last
  /-- All lines, `%`. -/
  | whole
  /-- The lines of the range, `%%`. -/
  | currentRange
  /-- The number of a line. -/
  | number (n : Numeral)
  /-- A mark. Its name may be any character but a blank. -/
  | mark (name : Char) (hname : Text.isBlank name = false)
  /-- A pattern between delimiters, and letters of flags. -/
  | search (backward : Bool) (pattern : Text)
    (hpattern : IsSection (searchDelimiter backward) [] pattern) (letters : Text)
    (hletters : ∀ c ∈ letters, c ∈ flagLetters)

/-- An address as it is written. -/
structure Term where
  /-- The blanks in front. -/
  before : Text
  /-- The base. -/
  form : Form
  /-- The offsets. -/
  offsets : List Offset
  /-- The blanks behind. -/
  after : Text
  /-- There are only blanks in front. -/
  isBlank_before : ∀ c ∈ before, Text.isBlank c = true
  /-- There are only blanks behind. -/
  isBlank_after : ∀ c ∈ after, Text.isBlank c = true

/-- The value of the digits. -/
def Numeral.value (n : Numeral) : Nat := Text.digitsValue n.digits

/-- The offset as it is written. -/
def Offset.text (o : Offset) : Text :=
  (if o.forward then '+' else '-') :: o.count.elim [] Numeral.digits

/-- The number of lines to go on, or back if it is negative. A sign alone counts one line, and a
number no more than the greatest integer. -/
def Offset.value (o : Offset) : Int :=
  let n := Text.toInteger (o.count.elim 1 Numeral.value)
  if o.forward then n else -n

/-- What signed numbers come to together. -/
def Offset.total : List Offset → Int
  | [] => 0
  | o :: os => o.value + total os

namespace Form

/-- The base as it is written. -/
def text : Form → Text
  | empty => []
  | current => ['.']
  | last => ['$']
  | whole => ['%']
  | currentRange => ['%', '%']
  | number n => n.digits
  | mark name _ => ['\x27', name]
  | search backward pattern _ letters _ =>
    searchDelimiter backward ::
      (protect (searchDelimiter backward) pattern ++ searchDelimiter backward :: letters)

/-- The base that is meant. -/
def base : Form → AddressBase
  | empty => .empty
  | current => .current
  | last => .last
  | whole => .whole
  | currentRange => .currentRange
  | number n => .line n.value
  | mark name _ => .mark name
  | search backward pattern _ letters _ => .search pattern letters backward

/-- The letters at the end. -/
def letters : Form → Text
  | search _ _ _ letters _ => letters
  | _ => []

end Form

namespace Term

/-- What is written between the blanks, with something behind it. -/
def textFrom (t : Term) (rest : Text) : Text :=
  t.form.text ++ (t.offsets.flatMap Offset.text ++ rest)

/-- The term as it is written. -/
def text (t : Term) : Text := t.before ++ t.textFrom t.after

/-- The address that is meant. -/
def address (t : Term) : Address := ⟨t.form.base, Offset.total t.offsets⟩

/-- Nothing but blanks is written. -/
def IsEmpty (t : Term) : Prop := t.form = .empty ∧ t.offsets = []

/-- The letters of flags at the very end, if that is how the term ends. -/
def lastLetters (t : Term) : Text :=
  if t.offsets = [] ∧ t.after = [] then t.form.letters else []

end Term

/-! ## What may follow -/

/-- The text is at its end, or at a sign, a separator or a blank. -/
def Stops (t : Text) : Prop := ∀ c ∈ t.head?, c ∈ ['+', '-', ',', ';'] ∨ Text.isBlank c = true

variable {rest l : Text}

theorem stops_nil : Stops [] := nofun

theorem stops_of_isBlank_append (hl : ∀ c ∈ l, Text.isBlank c = true) (h : Stops rest) :
    Stops (l ++ rest) := by
  cases l with
  | nil => exact h
  | cons c l =>
    rintro _ ⟨⟩
    exact .inr (hl c List.mem_cons_self)

theorem Stops.spec (h : Stops rest) {c : Char} (hc : c ∈ rest.head?) :
    c.isAlpha = false ∧ c.isDigit = false ∧ c ≠ '%' := by
  rcases h c hc with hsign | hblank
  · simp only [List.mem_cons, List.not_mem_nil, or_false] at hsign
    rcases hsign with rfl | rfl | rfl | rfl <;> decide
  · refine ⟨Bool.eq_false_iff.mpr fun halpha ↦ ?_, Bool.eq_false_iff.mpr fun hdigit ↦ ?_, ?_⟩
    · exact absurd (hblank.symm.trans (Text.isBlank_of_isAlpha halpha)) (by decide)
    · exact absurd (hblank.symm.trans (Text.isBlank_of_isDigit hdigit)) (by decide)
    · exact Text.ne_of_holds hblank rfl

theorem isAlpha_of_mem_flagLetters {c : Char} (h : c ∈ flagLetters) : c.isAlpha = true := by
  have hall : flagLetters.all Char.isAlpha = true := by decide
  exact List.all_eq_true.mp hall c h

/-! ## Parts of a term -/

/-- Letters are flags if something follows them. -/
theorem flags_append (hl : ∀ c ∈ l, c ∈ flagLetters) (h : Stops rest)
    (hrest : l ≠ [] → rest ≠ []) : flags (l ++ rest) = (l, rest) := by
  obtain ⟨htake, hdrop⟩ := Text.while_append (fun c hc ↦ isAlpha_of_mem_flagLetters (hl c hc))
    fun c hc ↦ (h.spec hc).1
  have hall : l.all flagLetters.contains = true := by simpa using hl
  simp only [flags, htake, hdrop, hall, Bool.true_and]
  cases rest with
  | nil =>
    have hnil : l = [] := Decidable.byContradiction fun hne ↦ hrest hne rfl
    rw [hnil]
    rfl
  | cons c rest =>
    have hc := h c rfl
    simp only [List.mem_cons, List.not_mem_nil, or_false] at hc
    refine if_pos ?_
    rcases hc with (rfl | rfl | rfl | rfl) | hblank
    · rfl
    · rfl
    · rfl
    · rfl
    · simp [hblank]

/-- At the end of a text, letters are no flags. -/
theorem flags_eq_nil (hl : ∀ c ∈ l, c ∈ flagLetters) : flags l = ([], l) := by
  have hdrop : l.dropWhile Char.isAlpha = [] :=
    Text.dropWhile_eq_nil fun c hc ↦ isAlpha_of_mem_flagLetters (hl c hc)
  simp [flags, hdrop]

theorem Numeral.countOfDigits?_digits (n : Numeral) :
    Text.countOfDigits? n.digits = some n.value := by
  have hdigits : n.digits ≠ [] ∧ n.digits.all Char.isDigit :=
    ⟨n.ne_nil, List.all_eq_true.mpr n.isDigit⟩
  rw [Text.countOfDigits?, Text.natOfDigits?, if_pos hdigits, Option.filter_some,
    if_pos (decide_eq_true n.lt)]
  rfl

/-- One offset is read. -/
theorem Offset.offsets_append (o : Offset) (h : Stops rest) :
    offsets (o.text ++ rest) = (o.value + (offsets rest).1, (offsets rest).2) := by
  have hstop : ∀ c ∈ rest.head?, c.isDigit = false := fun c hc ↦ (h.spec hc).2.1
  rcases o with ⟨forward, _ | n⟩
  · obtain ⟨htake, hdrop⟩ := Text.while_append (l := []) nofun hstop
    rw [List.nil_append] at htake hdrop
    cases forward with
    | true => simp [Offset.text, Offset.value, offsets, htake, hdrop, Text.countOfDigits?_nil]
    | false => simp [Offset.text, Offset.value, offsets, htake, hdrop, Text.countOfDigits?_nil]
  · obtain ⟨htake, hdrop⟩ := Text.while_append n.isDigit hstop
    cases forward with
    | true => simp [Offset.text, Offset.value, offsets, htake, hdrop, n.countOfDigits?_digits]
    | false => simp [Offset.text, Offset.value, offsets, htake, hdrop, n.countOfDigits?_digits]

theorem stops_offsets (os : List Offset) (h : Stops rest) :
    Stops (os.flatMap Offset.text ++ rest) := by
  cases os with
  | nil => exact h
  | cons o os =>
    rintro _ ⟨⟩
    cases o.forward with
    | true => exact .inl (by decide)
    | false => exact .inl (by decide)

/-- All offsets are read and summed up. -/
theorem offsets_append (os : List Offset) (h : Stops rest)
    (hsign : ∀ c ∈ rest.head?, c ≠ '+' ∧ c ≠ '-') :
    offsets (os.flatMap Offset.text ++ rest) = (Offset.total os, rest) := by
  induction os with
  | nil =>
    cases rest with
    | nil =>
      rw [List.flatMap_nil, List.nil_append, offsets]
      rfl
    | cons c rest =>
      obtain ⟨hplus, hminus⟩ := hsign c rfl
      rw [List.flatMap_nil, List.nil_append, offsets, if_neg (by simp [hplus, hminus])]
      rfl
  | cons o os ih =>
    rw [List.flatMap_cons, List.append_assoc, o.offsets_append (stops_offsets os h), ih,
      Offset.total]

/-- A pattern is read, with the flags behind it. -/
theorem base?_search {backward : Bool} {p : Text}
    (hp : IsSection (searchDelimiter backward) [] p) (rest : Text) :
    base? (searchDelimiter backward ::
        (protect (searchDelimiter backward) p ++ searchDelimiter backward :: rest))
      = .ok (some (.search p (flags rest).1 backward), (flags rest).2) := by
  have hslash : searchDelimiter backward ≠ '\\' := by cases backward <;> decide
  have hread := delimited_protect hp hslash rest
  cases backward with
  | true =>
    rw [searchDelimiter, if_pos rfl] at hread ⊢
    rw [base?_cons (by decide), hread]
    rfl
  | false =>
    rw [searchDelimiter, if_neg Bool.false_ne_true] at hread ⊢
    rw [base?_cons (by decide), hread]
    rfl

/-- The base is read, if letters at its end are followed by something. -/
theorem Form.base?_append (f : Form) (hf : f ≠ .empty) (h : Stops rest)
    (hletters : f.letters ≠ [] → rest ≠ []) : base? (f.text ++ rest) = .ok (some f.base, rest) := by
  cases f with
  | empty => exact absurd rfl hf
  | current | last | currentRange => rfl
  | whole => exact base?_percent fun hpercent ↦ (h.spec hpercent).2.2 rfl
  | mark name hname => simp [text, base, base?, hname]
  | number n =>
    have hnumber := base?_digits_append n.ne_nil n.isDigit fun c hc ↦ (h.spec hc).2.1
    rwa [n.countOfDigits?_digits, Option.getD_some] at hnumber
  | search backward pattern hpattern letters hl =>
    simp only [text, base, List.cons_append, List.append_assoc]
    rw [base?_search hpattern, flags_append hl h hletters]

/-! ## Terms are read -/

theorem Form.exists_text_eq_cons {f : Form} (hf : f ≠ .empty) :
    ∃ c more, f.text = c :: more ∧ Text.isBlank c = false := by
  cases f with
  | empty => exact absurd rfl hf
  | current | last | whole | currentRange | mark => exact ⟨_, _, rfl, rfl⟩
  | number n =>
    obtain ⟨c, more, hdigits⟩ := List.exists_cons_of_ne_nil n.ne_nil
    exact ⟨c, more, hdigits, Text.isBlank_of_isDigit (n.isDigit c (hdigits ▸ List.mem_cons_self))⟩
  | search backward => cases backward <;> exact ⟨_, _, rfl, rfl⟩

theorem Offset.exists_text_eq_cons (o : Offset) :
    ∃ c more, o.text = c :: more ∧ (c = '+' ∨ c = '-') := by
  rcases o with ⟨_ | _, count⟩
  · exact ⟨'-', _, rfl, .inr rfl⟩
  · exact ⟨'+', _, rfl, .inl rfl⟩

theorem Form.isAlpha_of_mem_letters (f : Form) : ∀ c ∈ f.letters, c.isAlpha = true := by
  cases f with
  | search _ _ _ _ hletters => exact fun c hc ↦ isAlpha_of_mem_flagLetters (hletters c hc)
  | _ => nofun

/-- Letters at the end of the text are left. -/
theorem Form.exists_scan?_of_letters (f : Form) (hf : f.letters ≠ []) :
    ∃ a, scan? f.text = .ok (some a, f.letters) := by
  cases f with
  | search backward pattern hpattern letters hl =>
    obtain ⟨c, more, rfl⟩ := List.exists_cons_of_ne_nil hf
    have hc : c.isAlpha = true := isAlpha_of_mem_flagLetters (hl c List.mem_cons_self)
    have hplus : c ≠ '+' := Text.ne_of_holds hc rfl
    have hminus : c ≠ '-' := Text.ne_of_holds hc rfl
    have hoffsets : Address.offsets (c :: more) = (0, c :: more) := by
      rw [Address.offsets, if_neg (by simp [hplus, hminus])]
    rw [scan?, text, base?_search hpattern, flags_eq_nil hl]
    simp only [bind, Except.bind, pure, Except.pure, hoffsets]
    exact ⟨_, rfl⟩
  | _ => exact absurd rfl hf

namespace Term

variable {t : Term}

theorem text_append (t : Term) (rest : Text) :
    t.text ++ rest = t.before ++ t.textFrom (t.after ++ rest) := by
  simp only [text, textFrom, List.append_assoc]

/-- A term that is not empty does not start with a blank behind the blanks in front of it. -/
theorem trimStart_text_append (ht : ¬ t.IsEmpty) (rest : Text) :
    Text.trimStart (t.text ++ rest) = t.textFrom (t.after ++ rest) := by
  obtain ⟨c, more, hcore, hc⟩ :
      ∃ c more, t.textFrom (t.after ++ rest) = c :: more ∧ Text.isBlank c = false := by
    by_cases hf : t.form = .empty
    · obtain ⟨o, os, hos⟩ := List.exists_cons_of_ne_nil fun hos ↦ ht ⟨hf, hos⟩
      obtain ⟨c, more, htext, hc⟩ := o.exists_text_eq_cons
      refine ⟨c, _, by rw [textFrom, hf, hos, List.flatMap_cons, htext]; rfl, ?_⟩
      rcases hc with rfl | rfl <;> rfl
    · obtain ⟨c, more, htext, hc⟩ := Form.exists_text_eq_cons hf
      exact ⟨c, _, by rw [textFrom, htext]; rfl, hc⟩
  rw [text_append, hcore, Text.trimStart, List.dropWhile_append_of_pos t.isBlank_before]
  exact List.dropWhile_cons_of_neg (by rw [hc]; exact Bool.false_ne_true)

/-- Of an empty term nothing is left behind the blanks. -/
theorem trimStart_text_append_of_isEmpty (ht : t.IsEmpty) (rest : Text) :
    Text.trimStart (t.text ++ rest) = Text.trimStart rest := by
  have hblank : ∀ c ∈ t.before ++ t.after, Text.isBlank c = true :=
    List.forall_mem_append.mpr ⟨t.isBlank_before, t.isBlank_after⟩
  have htext : t.text = t.before ++ t.after := by
    rw [text, textFrom, ht.1, ht.2]
    rfl
  rw [htext]
  exact List.dropWhile_append_of_pos hblank

/-- The address of a term is read, if letters at its end are followed by something. -/
theorem scan?_textFrom (ht : ¬ t.IsEmpty) (h : Stops rest)
    (hsign : ∀ c ∈ rest.head?, c ≠ '+' ∧ c ≠ '-')
    (hletters : t.offsets = [] → t.form.letters ≠ [] → rest ≠ []) :
    scan? (t.textFrom rest) = .ok (some t.address, rest) := by
  have hoffsets := Address.offsets_append t.offsets h hsign
  have hbase : base? (t.textFrom rest)
      = .ok (some t.form.base, t.offsets.flatMap Offset.text ++ rest) := by
    by_cases hf : t.form = .empty
    · obtain ⟨o, os, hos⟩ := List.exists_cons_of_ne_nil fun hos ↦ ht ⟨hf, hos⟩
      obtain ⟨c, more, htext, hc⟩ := o.exists_text_eq_cons
      rw [textFrom, hf, hos, List.flatMap_cons, htext]
      rcases hc with rfl | rfl
      · exact base?_cons (by decide) _
      · exact base?_cons (by decide) _
    · refine t.form.base?_append hf (stops_offsets t.offsets h) fun hne ↦ ?_
      cases hos : t.offsets with
      | nil => exact hletters hos hne
      | cons o os => simp [Offset.text]
  rw [scan?, hbase]
  simp only [bind, Except.bind, pure, Except.pure, hoffsets, address]

end Term

end Address

end LineEditor
