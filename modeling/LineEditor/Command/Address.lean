import LineEditor.Error
import LineEditor.Text.Blank
import LineEditor.Text.Numeral

/-!
# Addresses

Addresses say which lines a command works on. An address is a base (a line number, `.`, `$`, `%`,
`%%`, a mark, or the next line that matches a pattern) moved by signed offsets; addresses are
separated by `,` or `;`. A base may be missing, and then the current line is meant.
-/

namespace LineEditor

/-- What an address is measured from. -/
inductive AddressBase where
  /-- The current line, `.`. -/
  | current
  /-- The last line, `$`. -/
  | last
  /-- All lines, `%`. -/
  | whole
  /-- The lines of the range, `%%`. -/
  | currentRange
  /-- The line with a number. -/
  | line (n : Nat)
  /-- The next line, or the one before, that matches a pattern. -/
  | search (pattern flags : Text) (backward : Bool)
  /-- The line of a mark. -/
  | mark (name : Char)
  /-- Nothing, which stands for the current line. -/
  | empty
  deriving DecidableEq, Inhabited

/-- A base and the number of lines to go on from it. -/
structure Address where
  /-- Where counting starts. -/
  base : AddressBase
  /-- How many lines further, or back if negative. -/
  offset : Int := 0
  deriving DecidableEq, Inhabited

/-- A piece of a list of addresses. -/
inductive AddressToken where
  /-- An address. -/
  | address (a : Address)
  /-- Separates addresses. -/
  | comma
  /-- Separates addresses and makes the one before it the current line. -/
  | semicolon
  deriving DecidableEq, Inhabited

namespace Address

/-! ## Scanning -/

/-- The text up to a delimiter that no backslash protects, and what follows the delimiter. A
backslash before a delimiter is dropped, one before another character is kept. -/
def delimited (delimiter : Char) : Text → Text × Text
  | [] => ([], [])
  | ['\\'] => (['\\'], [])
  | '\\' :: c :: rest =>
    let (taken, rest) := delimited delimiter rest
    if c = delimiter then (c :: taken, rest) else ('\\' :: c :: taken, rest)
  | c :: rest =>
    if c = delimiter then ([], rest)
    else
      let (taken, rest) := delimited delimiter rest
      (c :: taken, rest)

/-- The number at the start of a text, `none` if there is none or it is too large. -/
def number? (t : Text) : Option Nat × Text :=
  (Text.countOfDigits? (t.takeWhile Char.isDigit), t.dropWhile Char.isDigit)

/-- The letters of search flags. -/
def flagLetters : List Char := "imsuwbyrxIMSUWBYRX".toList

/-- The flags behind the pattern of an address. Letters are flags only where something other than a
command follows them: a separator, a sign, a digit or a blank. -/
def flags (t : Text) : Text × Text :=
  let letters := t.takeWhile Char.isAlpha
  let rest := t.dropWhile Char.isAlpha
  let followed := match rest with
    | c :: _ =>
      c = ',' || c = ';' || c = '+' || c = '-' || Text.isBlank c || c.isDigit
    | [] => false
  if letters.all flagLetters.contains && followed then (letters, rest) else ([], t)

/-- The base at the start of a text, `none` if there is no address. -/
def base? : Text → Except ParseError (Option AddressBase × Text)
  | '%' :: '%' :: rest => .ok (some .currentRange, rest)
  | '%' :: rest => .ok (some .whole, rest)
  | '.' :: rest => .ok (some .current, rest)
  | '$' :: rest => .ok (some .last, rest)
  | '\x27' :: c :: rest =>
    if Text.isBlank c then .error .missingMarkName else .ok (some (.mark c), rest)
  | ['\x27'] => .error .missingMarkName
  | c :: rest =>
    if c = '/' || c = '?' then
      let (pattern, rest) := delimited c rest
      let (letters, rest) := flags rest
      .ok (some (.search pattern letters (c = '?')), rest)
    else if c = '+' || c = '-' then .ok (some .empty, c :: rest)
    else if c.isDigit then
      let (n, rest) := number? (c :: rest)
      .ok (some (.line (n.getD 0)), rest)
    else .ok (none, c :: rest)
  | [] => .ok (none, [])

/-- The sum of the signed offsets at the start of a text; a sign alone counts one line. -/
def offsets (t : Text) : Int × Text :=
  match t with
  | c :: rest =>
    if c = '+' || c = '-' then
      let digits := rest.takeWhile Char.isDigit
      let n := Text.toInteger ((Text.countOfDigits? digits).getD 1)
      let (sum, rest) := offsets (rest.dropWhile Char.isDigit)
      ((if c = '+' then n else -n) + sum, rest)
    else (0, c :: rest)
  | [] => (0, [])
termination_by t.length
decreasing_by
  have : (rest.dropWhile Char.isDigit).length ≤ rest.length := (List.dropWhile_suffix _).length_le
  simp only [List.length_cons]
  omega

/-- The address at the start of a text, `none` if there is none. -/
def scan? (t : Text) : Except ParseError (Option Address × Text) := do
  match ← base? t with
  | (some base, rest) =>
    let (offset, rest) := offsets rest
    return (some ⟨base, offset⟩, rest)
  | (none, rest) => return (none, rest)

/-! ## What is left is an end of the text -/

theorem delimited_suffix (delimiter : Char) (t : Text) : (delimited delimiter t).2 <:+ t := by
  fun_induction delimited delimiter t with
  | case1 | case2 => simp
  | case3 rest taken left h ih | case4 c rest taken left h hc ih =>
    rw [h] at ih
    exact ih.trans ⟨['\\', _], rfl⟩
  | case5 rest => exact ⟨[_], rfl⟩
  | case6 c rest _ _ hc taken left h ih =>
    rw [h] at ih
    exact ih.trans ⟨[c], rfl⟩

theorem flags_suffix (t : Text) : (flags t).2 <:+ t := by
  unfold flags
  extract_lets letters rest followed
  split
  · exact List.dropWhile_suffix _
  · exact List.suffix_rfl

theorem base?_suffix {t rest : Text} {b : Option AddressBase} (h : base? t = .ok (b, rest)) :
    rest <:+ t := by
  unfold base? at h
  split at h
  all_goals try (simp only [Except.ok.injEq, Prod.mk.injEq] at h; obtain ⟨-, rfl⟩ := h)
  · exact ⟨['%', '%'], rfl⟩
  · exact ⟨['%'], rfl⟩
  · exact ⟨['.'], rfl⟩
  · exact ⟨['$'], rfl⟩
  · split at h
    · simp at h
    · simp only [Except.ok.injEq, Prod.mk.injEq] at h
      obtain ⟨-, rfl⟩ := h
      exact ⟨['\x27', _], rfl⟩
  · simp at h
  · next c rest' _ _ _ _ _ _ =>
    split at h
    · simp only [Except.ok.injEq, Prod.mk.injEq] at h
      obtain ⟨-, rfl⟩ := h
      exact (flags_suffix _).trans ((delimited_suffix _ _).trans ⟨[c], rfl⟩)
    · split at h
      · simp only [Except.ok.injEq, Prod.mk.injEq] at h
        exact h.2 ▸ List.suffix_rfl
      · split at h
        · simp only [Except.ok.injEq, Prod.mk.injEq, number?] at h
          exact h.2 ▸ List.dropWhile_suffix _
        · simp only [Except.ok.injEq, Prod.mk.injEq] at h
          exact h.2 ▸ List.suffix_rfl
  · exact List.suffix_rfl

theorem offsets_suffix (t : Text) : (offsets t).2 <:+ t := by
  fun_induction offsets t with
  | case1 c rest _ _ _ sum left h ih =>
    rw [h] at ih
    exact ih.trans ((List.dropWhile_suffix _).trans ⟨[c], rfl⟩)
  | case2 | case3 => simp

theorem scan?_suffix {t rest : Text} {a : Option Address} (h : scan? t = .ok (a, rest)) :
    rest <:+ t := by
  unfold scan? at h
  cases hb : base? t with
  | error e => simp [hb, bind, Except.bind] at h
  | ok r =>
    obtain ⟨b, left⟩ := r
    have hs := base?_suffix hb
    cases b with
    | none =>
      simp only [hb, bind, Except.bind, pure, Except.pure, Except.ok.injEq, Prod.mk.injEq] at h
      exact h.2 ▸ hs
    | some b =>
      simp only [hb, bind, Except.bind, pure, Except.pure, Except.ok.injEq, Prod.mk.injEq] at h
      exact h.2 ▸ (offsets_suffix left).trans hs

end Address

end LineEditor
