import LineEditor.Text.Numeral

/-!
# Quoted text

A text in double quotes, in the notation of JSON strings. Quotes, backslashes and control
characters are written by escapes; all else stands for itself. Reading accepts every escape of the
notation and refuses control characters that stand unescaped, and halves of surrogate pairs.
-/

namespace LineEditor.Text.Quoted

/-- The hexadecimal digit of a number below 16. -/
private def hexDigit (n : Nat) : Char := "0123456789abcdef".toList.getD n '0'

/-- A character as it stands inside quotes. -/
def encodeChar (c : Char) : Text :=
  match c with
  | '"' => ['\\', '"']
  | '\\' => ['\\', '\\']
  | '\x08' => ['\\', 'b']
  | '\x0c' => ['\\', 'f']
  | '\n' => ['\\', 'n']
  | '\r' => ['\\', 'r']
  | '\t' => ['\\', 't']
  | c =>
    if c.toNat < 32 then
      ['\\', 'u', '0', '0', hexDigit (c.toNat / 16), hexDigit (c.toNat % 16)]
    else [c]

/-- The text in quotes. -/
def encode (t : Text) : Text := '"' :: t.flatMap encodeChar ++ ['"']

/-- The value of four hexadecimal digits. -/
def hexValue4? (a b c d : Char) : Option Nat := do
  return 4096 * (← digit? a) + 256 * (← digit? b) + 16 * (← digit? c) + (← digit? d)

/-- The value is the first half of a surrogate pair. -/
def isHighSurrogate (n : Nat) : Bool := 0xD800 ≤ n && n < 0xDC00

/-- The value is the second half of a surrogate pair. -/
def isLowSurrogate (n : Nat) : Bool := 0xDC00 ≤ n && n < 0xE000

/-- The character that a letter stands for behind a backslash. -/
def simpleEscape? (c : Char) : Option Char :=
  match c with
  | '"' => some '"'
  | '\\' => some '\\'
  | '/' => some '/'
  | 'b' => some '\x08'
  | 'f' => some '\x0c'
  | 'n' => some '\n'
  | 'r' => some '\r'
  | 't' => some '\t'
  | _ => none

/-- Reads up to the closing quote; answers the text and what follows the quote. -/
def decodeBody? : Text → Option (Text × Text)
  | [] => none
  | '\\' :: 'u' :: a :: b :: c :: d :: rest => do
    let high ← hexValue4? a b c d
    if isLowSurrogate high then none
    else if isHighSurrogate high then
      match rest with
      | '\\' :: 'u' :: e :: f :: g :: h :: rest => do
        let low ← hexValue4? e f g h
        if !isLowSurrogate low then none
        let (t, rest) ← decodeBody? rest
        return (Char.ofNat (0x10000 + 1024 * (high - 0xD800) + (low - 0xDC00)) :: t, rest)
      | _ => none
    else
      let (t, rest) ← decodeBody? rest
      return (Char.ofNat high :: t, rest)
  | '\\' :: c :: rest => do
    let c ← simpleEscape? c
    let (t, rest) ← decodeBody? rest
    return (c :: t, rest)
  | c :: rest =>
    if c = '"' then some ([], rest)
    else if c.toNat < 32 || c = '\\' then none
    else do
      let (t, rest) ← decodeBody? rest
      return (c :: t, rest)

/-- The blanks of the notation. -/
def isFiller (c : Char) : Bool := c = ' ' || c = '\n' || c = '\t' || c = '\r'

/-- The text that a quoted text stands for, `none` if it is not one quoted text. -/
def decode? : Text → Option Text
  | '"' :: rest =>
    match decodeBody? rest with
    | some (t, rest) => if rest.all isFiller then some t else none
    | none => none
  | _ => none

/-! ## What is written -/

private theorem hexDigit_ne {n : Nat} (h : n < 16) : hexDigit n ≠ '"' ∧ hexDigit n ≠ '\\' := by
  revert n
  decide

/-- A quote or a backslash stands inside the quotes only behind a backslash. -/
theorem encodeChar_cases (c : Char) :
    (encodeChar c = [c] ∧ c ≠ '"' ∧ c ≠ '\\') ∨
      ∃ d more, encodeChar c = '\\' :: d :: more ∧ ∀ e ∈ more, e ≠ '"' ∧ e ≠ '\\' := by
  unfold encodeChar
  split
  · exact .inr ⟨_, [], rfl, nofun⟩
  · exact .inr ⟨_, [], rfl, nofun⟩
  · exact .inr ⟨_, [], rfl, nofun⟩
  · exact .inr ⟨_, [], rfl, nofun⟩
  · exact .inr ⟨_, [], rfl, nofun⟩
  · exact .inr ⟨_, [], rfl, nofun⟩
  · exact .inr ⟨_, [], rfl, nofun⟩
  · next hquote hslash _ _ _ _ _ =>
    by_cases hcontrol : c.toNat < 32
    · rw [if_pos hcontrol]
      refine .inr ⟨'u', _, rfl, ?_⟩
      have hhigh := hexDigit_ne (n := c.toNat / 16) (by omega)
      have hlow := hexDigit_ne (n := c.toNat % 16) (by omega)
      simp [hhigh, hlow]
    · rw [if_neg hcontrol]
      exact .inl ⟨rfl, hquote, hslash⟩

/-! ## Reading what was written -/

private theorem digit?_hexDigit {n : Nat} (h : n < 16) : digit? (hexDigit n) = some n := by
  revert n
  decide

/-- A character in front of a text that was read. -/
private def consRead (c : Char) (r : Text × Text) : Text × Text := (c :: r.1, r.2)

private theorem decodeBody?_simple {c d : Char} (h : simpleEscape? c = some d) (rest : Text) :
    decodeBody? ('\\' :: c :: rest) = (decodeBody? rest).map (consRead d) := by
  have hu : c ≠ 'u' := by
    rintro rfl
    exact nomatch h
  rw [decodeBody?]
  · rw [h]
    cases decodeBody? rest <;> rfl
  · exact fun _ _ _ _ _ hc _ ↦ hu hc

private theorem decodeBody?_control {c : Char} (h : c.toNat < 32) (rest : Text) :
    decodeBody? ('\\' :: 'u' :: '0' :: '0' :: hexDigit (c.toNat / 16) :: hexDigit (c.toNat % 16)
      :: rest) = (decodeBody? rest).map (consRead c) := by
  have hhigh := digit?_hexDigit (n := c.toNat / 16) (by omega)
  have hlow := digit?_hexDigit (n := c.toNat % 16) (by omega)
  have hvalue : hexValue4? '0' '0' (hexDigit (c.toNat / 16)) (hexDigit (c.toNat % 16))
      = some c.toNat := by
    rw [hexValue4?, hhigh, hlow]
    exact congrArg some (by omega)
  have hnotLow : isLowSurrogate c.toNat = false := by simp [isLowSurrogate]; omega
  have hnotHigh : isHighSurrogate c.toNat = false := by simp [isHighSurrogate]; omega
  rw [decodeBody?, hvalue]
  simp only [Option.bind_eq_bind, Option.bind_some, hnotLow, hnotHigh, Char.ofNat_toNat]
  cases decodeBody? rest <;> rfl

private theorem decodeBody?_plain {c : Char} (hquote : c ≠ '"') (hslash : c ≠ '\\')
    (hcontrol : 32 ≤ c.toNat) (rest : Text) :
    decodeBody? (c :: rest) = (decodeBody? rest).map (consRead c) := by
  rw [decodeBody?, if_neg hquote, if_neg (by simp [hslash]; omega)]
  · cases decodeBody? rest <;> rfl
  · exact fun _ _ _ _ _ hc _ ↦ hslash hc
  · exact fun _ _ hc _ ↦ hslash hc

/-- Each character is read as it was written. -/
private theorem decodeBody?_encodeChar (c : Char) (rest : Text) :
    decodeBody? (encodeChar c ++ rest) = (decodeBody? rest).map (consRead c) := by
  unfold encodeChar
  split
  · exact decodeBody?_simple rfl rest
  · exact decodeBody?_simple rfl rest
  · exact decodeBody?_simple rfl rest
  · exact decodeBody?_simple rfl rest
  · exact decodeBody?_simple rfl rest
  · exact decodeBody?_simple rfl rest
  · exact decodeBody?_simple rfl rest
  · next hquote hslash _ _ _ _ _ =>
    by_cases hcontrol : c.toNat < 32
    · rw [if_pos hcontrol]
      exact decodeBody?_control hcontrol rest
    · rw [if_neg hcontrol]
      exact decodeBody?_plain hquote hslash (Nat.not_lt.mp hcontrol) rest

/-- Reading stops at the quote that closes what was written. -/
theorem decodeBody?_append (t rest : Text) :
    decodeBody? (t.flatMap encodeChar ++ '"' :: rest) = some (t, rest) := by
  induction t with
  | nil => rfl
  | cons c t ih =>
    rw [List.flatMap_cons, List.append_assoc, decodeBody?_encodeChar, ih]
    rfl

/-- A written text is read as itself. -/
theorem decode?_encode (t : Text) : decode? (encode t) = some t := by
  have hbody := decodeBody?_append t []
  rw [encode, List.cons_append, decode?, hbody]
  rfl

end LineEditor.Text.Quoted
