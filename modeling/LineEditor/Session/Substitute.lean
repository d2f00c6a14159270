import LineEditor.Session.Edits

/-!
# Substitution

A substitution is written with a pattern and a replacement between delimiters, and flags behind
them; or with flags alone, and then the last substitution is made again.
-/

namespace LineEditor

/-- What the flags of a substitution ask for. -/
structure SubstitutionFlags where
  /-- Every match of a line is replaced. -/
  all : Bool
  /-- Case does not matter. -/
  ignoreCase : Bool
  /-- The digits of a count. -/
  digits : Text := []
  deriving DecidableEq

namespace SubstitutionFlags

/-- The flags overridden by written ones. A `g` reverses what the option says. -/
def override (f : SubstitutionFlags) : Text → Except ParseError SubstitutionFlags
  | [] => .ok f
  | c :: rest =>
    match c with
    | 'g' => { f with all := !f.all }.override rest
    | 'i' => { f with ignoreCase := true }.override rest
    | 'I' => { f with ignoreCase := false }.override rest
    | c =>
      if c.isDigit then { f with digits := f.digits ++ [c] }.override rest
      else if Text.isBlank c then f.override rest
      else .error (.badSubstituteFlag c)

/-- The count, if there is one that is a positive number. -/
def count? (f : SubstitutionFlags) : Option Nat :=
  (Text.countOfDigits? f.digits).filter (0 < ·)

end SubstitutionFlags

namespace Run

/-- The character that delimits the sections of a parameter. -/
def delimiter? (parameter : Text) : Option Char := parameter.head?.filter Command.isDelimiter

/-- The substitution that a parameter asks for. -/
def substitutionOf (command : CommandName) (parameter : Text) : Run Substitution := do
  let s ← session
  let parameter := Text.trimStart parameter
  match delimiter? parameter, command with
  | some c, .substitute =>
    let (pattern, rest) := Address.delimited c (parameter.drop 1)
    let (template, flags) := Address.delimited c rest
    let pattern ← patternOrLast pattern
    let previous := (s.lastSubstitution.map (·.replacement)).getD []
    return ⟨pattern, Template.resolvePrevious previous (← options).magic template, flags⟩
  | _, _ =>
    match s.lastSubstitution with
    | none => throw .noPreviousPattern
    | some last =>
      let flags := match parameter with
        | '&' :: extra => last.flags ++ extra
        | flags => flags
      let pattern := if command = .againWithSearch then s.lastSearch.getD last.pattern
        else last.pattern
      return ⟨pattern, last.replacement, flags⟩

/-- Replaces matches of a pattern in lines. Where nothing matches this is an error, except on the
lines that a global command goes through. -/
def substitute (span : Span) (command : CommandName) (parameter : Text) : Run Unit := do
  let s ← substitutionOf command parameter
  let o ← options
  let f := SearchFlags.ofOptions o
  let flags ← match SubstitutionFlags.override ⟨o.global, f.ignoreCase, []⟩ s.flags with
    | .ok flags => pure flags
    | .error e => refuse e
  let span := span.counted flags.count? (← text).lineCount
  let m ← orFail (Document.matcher { f with ignoreCase := flags.ignoreCase } s.pattern)
  let r : Document.Replacement := ⟨m, s.replacement, flags.all, o.magic⟩
  let result := (← document).substituteLines r span.first span.last
  modifyDocument fun _ ↦ result.document
  modifySession fun session ↦ { session with lastSearch := some s.pattern }
  if result.count = 0 then
    if (← session).inGlobal then return else throw (.patternNotFound s.pattern)
  modifySession fun session ↦ { session with lastSubstitution := some s }
  match result.line? with
  | some n => moveToLine (min n (← text).lineCount)
  | none => pure ()

end Run

end LineEditor
