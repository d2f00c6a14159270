import LineEditor.Command.Address
import LineEditor.Command.Name

/-!
# Command lines

A command line holds commands separated by `|`. A command is a list of addresses, a word, a `!` and
a parameter, any of which may be missing. How far a command reaches depends on what it is: the
parameter of most ends at the first `|` outside quotes, a substitution first skips its sections,
and a global command takes the rest of the line. A line is therefore read one command at a time,
and reading a command also says where it stops.
-/

namespace LineEditor

/-- A command with its addresses and parameter. -/
structure Command where
  /-- The addresses. -/
  addresses : List AddressToken
  /-- The command, `none` for addresses alone. -/
  name : Option CommandName
  /-- A `!` follows the word. -/
  bang : Bool
  /-- How often a symbol that can be repeated was written. -/
  repeats : Nat
  /-- The parameter. -/
  parameter : Text
  deriving DecidableEq

namespace Command

/-! ## Addresses -/

/-- The separator that a character stands for. -/
def separatorToken? (c : Char) : Option AddressToken :=
  if c = ',' then some .comma else if c = ';' then some .semicolon else none

/-- The addresses at the start of a text. `pending` says that a separator stands before it, so that
an address is due even if none is written. -/
def addressesFrom (pending : Bool) (t : Text) :
    Except ParseError (List AddressToken × Text) :=
  match _h : Address.scan? (Text.trimStart t) with
  | .error e => .error e
  | .ok (address, rest) =>
    match _h' : Text.trimStart rest with
    | c :: more =>
      match separatorToken? c with
      | some token => do
        let (tokens, rest) ← addressesFrom true more
        return (.address (address.getD ⟨.empty, 0⟩) :: token :: tokens, rest)
      | none => .ok (lastAddress pending address, c :: more)
    | [] => .ok (lastAddress pending address, [])
termination_by t.length
decreasing_by
  have h₁ := (Address.scan?_suffix _h).length_le
  have h₂ : (Text.trimStart t).length ≤ t.length := (List.dropWhile_suffix _).length_le
  have h₃ : (Text.trimStart rest).length ≤ rest.length := (List.dropWhile_suffix _).length_le
  rw [_h', List.length_cons] at h₃
  omega
where
  /-- The tokens of a list that ends here. -/
  lastAddress (pending : Bool) (address : Option Address) : List AddressToken :=
    match address with
    | some a => [.address a]
    | none => if pending then [.address ⟨.empty, 0⟩] else []

/-- The addresses that make up a whole text. -/
def addressList (source : Text) : Except ParseError (List AddressToken) := do
  let (tokens, rest) ← addressesFrom false source
  if rest = [] then return tokens else throw (.badAddress source)

/-! ## Words and parameters -/

/-- The command word at the start of a text, the number of times it is written, and the rest. A
word is a run of letters or one symbol; `<` and `>` can be repeated. -/
def word (t : Text) : Text × Nat × Text :=
  match t with
  | [] => ([], 1, [])
  | c :: rest =>
    if c.isAlpha then (t.takeWhile Char.isAlpha, 1, t.dropWhile Char.isAlpha)
    else if c = '<' || c = '>' then ([c], (t.takeWhile (· = c)).length, t.dropWhile (· = c))
    else if c = '&' || c = '~' || c = '=' || c = '#' then ([c], 1, rest)
    else ([], 1, t)

/-- Where a reader of a plain parameter stands: outside quotes or inside, and whether behind a
backslash. -/
inductive ParameterState where
  | plain
  | plainEscaped
  | quoted
  | quotedEscaped

/-- The rest of a text from the first `|` that neither quotes nor a backslash protect. -/
def fromBar : ParameterState → Text → Text
  | _, [] => []
  | .plain, c :: rest =>
    if c = '|' then c :: rest
    else fromBar (if c = '"' then .quoted else if c = '\\' then .plainEscaped else .plain) rest
  | .plainEscaped, _ :: rest => fromBar .plain rest
  | .quoted, c :: rest =>
    fromBar (if c = '"' then .plain else if c = '\\' then .quotedEscaped else .quoted) rest
  | .quotedEscaped, _ :: rest => fromBar .quoted rest

/-- The character can stand around the sections of a substitution. -/
def isDelimiter (c : Char) : Bool :=
  !Unicode.isAlphanumeric c && !Text.isBlank c && c ≠ '\\' && c ≠ '"' && c ≠ '|' && c ≠ '&'

/-- The rest of a text behind the replacement section that starts it. The section ends at its
delimiter, which is skipped, or before a `|`. -/
def skipReplacement (delimiter : Char) : Text → Text
  | [] => []
  | ['\\'] => []
  | '\\' :: _ :: rest => skipReplacement delimiter rest
  | c :: rest =>
    if c = '|' then c :: rest
    else if c = delimiter then rest
    else skipReplacement delimiter rest

/-- The rest of a text behind the sections of a substitution and what belongs to them. -/
def fromBarAfterSections (t : Text) : Text :=
  match t with
  | c :: rest =>
    if isDelimiter c then
      fromBar .plain (skipReplacement c (Address.delimited c rest).2)
    else fromBar .plain t
  | [] => []

/-- The text with `\|` turned into `|`. -/
def unescapeBars : Text → Text
  | '\\' :: '|' :: rest => '|' :: unescapeBars rest
  | c :: rest => c :: unescapeBars rest
  | [] => []

/-- A plain parameter as it is meant: without blanks around it, read as quoted text if it is that,
and with `\|` turned into `|`. -/
def decodeParameter (raw : Text) : Text :=
  let trimmed := Text.trim raw
  unescapeBars ((Text.Quoted.decode? trimmed).getD trimmed)

/-! ## Commands -/

/-- The command of a word, `none` for an empty word. The old spelling `ka` of `k a` carries its
parameter in the word. -/
def resolveWord (w : Text) : Except Error (Option CommandName × Option Text) :=
  match w with
  | [] => .ok (none, none)
  | w =>
    match CommandName.ofWord? w, w with
    | some name, _ => .ok (some name, none)
    | none, ['k', mark] => .ok (some .mark, some [mark])
    | none, _ => .error (.unknownCommand w)

/-- Whether a `!` starts a text, and the rest. -/
def splitBang : Text → Bool × Text
  | '!' :: rest => (true, rest)
  | t => (false, t)

/-- The rest of a text behind the parameter of a command. -/
def afterParameter (name : Option CommandName) (t : Text) : Text :=
  match name with
  | some name =>
    if name.takesRest then []
    else if name.takesPattern then fromBarAfterSections (Text.trimStart t)
    else fromBar .plain t
  | none => fromBar .plain t

/-- The parameter of a command as it is meant. -/
def parameterOf (name : Option CommandName) (raw : Text) : Text :=
  match name with
  | some name =>
    if name.takesPattern || name.takesRest then Text.trim raw else decodeParameter raw
  | none => decodeParameter raw

/-- The part of a text before its rest. -/
def segment (source rest : Text) : Text := source.take (source.length - rest.length)

/-- Finishes a command whose word has been read; `t` follows the word and `spelled` is the parameter
that the word carries. -/
def finish (source : Text) (addresses : List AddressToken) (name : Option CommandName)
    (spelled : Option Text) (repeats : Nat) (t : Text) : Except Error (Command × Text) :=
  let bang := (splitBang t).1
  let rest := afterParameter name (splitBang t).2
  let parameter := spelled.getD (parameterOf name (segment (splitBang t).2 rest))
  if name = none ∧ (bang ∨ parameter ≠ []) then .error (.parse (.missingCommand source))
  else .ok (⟨addresses, name, bang, repeats, parameter⟩, rest)

/-- Reads the first command of a text; answers it with the rest of the text, which is empty or
starts with a `|`. -/
def scan (source : Text) : Except Error (Command × Text) :=
  match addressesFrom false (source.dropWhile fun c ↦ c = ':' || Text.isBlank c) with
  | .error e => .error (.parse e)
  | .ok (addresses, t) =>
    match resolveWord (word t).1 with
    | .error e => .error e
    | .ok (name, spelled) => finish source addresses name spelled (word t).2.1 (word t).2.2

/-- Reads one command. -/
def parse (source : Text) : Except Error Command := do
  return (← scan source).1

/-- Nothing is written. -/
def isEmpty (c : Command) : Bool :=
  c.addresses.isEmpty && c.name.isNone && c.parameter.isEmpty

/-! ## What is left is an end of the text -/

theorem addressesFrom_suffix {pending : Bool} {t rest : Text} {tokens : List AddressToken}
    (h : addressesFrom pending t = .ok (tokens, rest)) : rest <:+ t := by
  fun_induction addressesFrom pending t generalizing tokens rest with
  | case1 => simp at h
  | case2 pending t address left hs c more hm token _ ih =>
    have hmore : more <:+ t :=
      (List.suffix_cons c more).trans (hm ▸ (List.dropWhile_suffix _).trans
        ((Address.scan?_suffix hs).trans (List.dropWhile_suffix _)))
    cases hr : addressesFrom true more with
    | error e => simp [hr, bind, Except.bind] at h
    | ok r =>
      obtain ⟨read, left'⟩ := r
      simp only [hr, bind, Except.bind, pure, Except.pure, Except.ok.injEq, Prod.mk.injEq] at h
      exact h.2 ▸ (ih hr).trans hmore
  | case3 pending t address left hs c more hm _ =>
    simp only [Except.ok.injEq, Prod.mk.injEq] at h
    exact h.2 ▸ hm ▸ (List.dropWhile_suffix _).trans
      ((Address.scan?_suffix hs).trans (List.dropWhile_suffix _))
  | case4 =>
    simp only [Except.ok.injEq, Prod.mk.injEq] at h
    exact h.2 ▸ List.nil_suffix

theorem word_suffix (t : Text) : (word t).2.2 <:+ t := by
  unfold word
  split
  · simp
  · next c rest =>
    split
    · exact List.dropWhile_suffix _
    · split
      · exact List.dropWhile_suffix _
      · split
        · exact List.suffix_cons _ _
        · exact List.suffix_rfl

theorem fromBar_suffix (state : ParameterState) (t : Text) : fromBar state t <:+ t := by
  fun_induction fromBar state t with
  | case1 | case2 => simp
  | case3 c rest _ ih | case4 c rest ih | case5 c rest ih | case6 c rest ih =>
    exact ih.trans (List.suffix_cons _ _)

theorem skipReplacement_suffix (delimiter : Char) (t : Text) :
    skipReplacement delimiter t <:+ t := by
  fun_induction skipReplacement delimiter t with
  | case1 | case2 => simp
  | case3 c rest ih => exact ih.trans ⟨['\\', c], rfl⟩
  | case4 => exact List.suffix_rfl
  | case5 => exact List.suffix_cons _ _
  | case6 c rest _ _ _ _ ih => exact ih.trans (List.suffix_cons _ _)

theorem fromBarAfterSections_suffix (t : Text) : fromBarAfterSections t <:+ t := by
  unfold fromBarAfterSections
  split
  · next c rest =>
    split
    · exact (fromBar_suffix _ _).trans ((skipReplacement_suffix _ _).trans
        ((Address.delimited_suffix _ _).trans (List.suffix_cons _ _)))
    · exact fromBar_suffix _ _
  · simp

theorem afterParameter_suffix (name : Option CommandName) (t : Text) :
    afterParameter name t <:+ t := by
  unfold afterParameter
  split
  · split
    · exact List.nil_suffix
    · split
      · exact (fromBarAfterSections_suffix _).trans (List.dropWhile_suffix _)
      · exact fromBar_suffix _ _
  · exact fromBar_suffix _ _

theorem splitBang_suffix (t : Text) : (splitBang t).2 <:+ t := by
  unfold splitBang
  split
  · exact List.suffix_cons _ _
  · exact List.suffix_rfl

theorem finish_suffix {source t rest : Text} {addresses : List AddressToken}
    {name : Option CommandName} {spelled : Option Text} {repeats : Nat} {command : Command}
    (h : finish source addresses name spelled repeats t = .ok (command, rest)) : rest <:+ t := by
  unfold finish at h
  extract_lets bang rest' parameter at h
  split at h
  · simp at h
  · simp only [Except.ok.injEq, Prod.mk.injEq] at h
    exact h.2 ▸ (afterParameter_suffix _ _).trans (splitBang_suffix t)

theorem scan_suffix {source rest : Text} {command : Command}
    (h : scan source = .ok (command, rest)) : rest <:+ source := by
  unfold scan at h
  split at h
  · simp at h
  · next ha =>
    split at h
    · simp at h
    · exact (finish_suffix h).trans ((word_suffix _).trans
        ((addressesFrom_suffix ha).trans (List.dropWhile_suffix _)))

private theorem length_of_scan {source next : Text} {command : Command} {bar : Char}
    (h : scan source = .ok (command, bar :: next)) : next.length < source.length := by
  have := (scan_suffix h).length_le
  simp only [List.length_cons] at this
  omega

/-! ## Lines -/

/-- The pieces of a line, one for each command. -/
def split (line : Text) : Except Error (List Text) :=
  match _h : scan line with
  | .error e => .error e
  | .ok (_, []) => .ok [line]
  | .ok (_, bar :: next) => do return segment line (bar :: next) :: (← split next)
termination_by line.length
decreasing_by exact length_of_scan _h

/-- The commands of a line that are not empty, up to the first error. -/
def commands (line : Text) : List (Except Error Command) :=
  match _h : scan line with
  | .error e => [.error e]
  | .ok (command, []) => if command.isEmpty then [] else [.ok command]
  | .ok (command, _ :: next) =>
    if command.isEmpty then commands next else .ok command :: commands next
termination_by line.length
decreasing_by all_goals exact length_of_scan _h

end Command

end LineEditor
