import LineEditor.Options

/-!
# Search flags

The flags of a search say how its pattern is read, where the search looks and in which direction.
They start from the settings of a document and are overridden by letters: a small letter switches
a flag on, its capital switches it off.
-/

namespace LineEditor

/-- How a search is done. -/
structure SearchFlags where
  /-- Case does not matter. -/
  ignoreCase : Bool := false
  /-- `^` and `$` look for ends of lines. -/
  multiLine : Bool := false
  /-- `.` takes a separator, too. -/
  dotAll : Bool := false
  /-- Patterns know all characters, not only ASCII. -/
  unicode : Bool := true
  /-- The search goes on at the other end of the text. -/
  wrapScan : Bool := true
  /-- The pattern is a pattern; otherwise it is the text to find. -/
  magic : Bool := true
  /-- The search goes towards the start. -/
  backward : Bool := false
  /-- The match must start where the search starts. -/
  sticky : Bool := false
  /-- The search stays inside the current bounds. -/
  restricted : Bool := false
  deriving DecidableEq, Inhabited

namespace SearchFlags

/-- The flags that a document's settings ask for. -/
def ofOptions (o : Options) : SearchFlags :=
  { ignoreCase := o.ignorecase, multiLine := o.multiline, wrapScan := o.wrapscan, magic := o.magic }

/-- The flags with the one of a letter set, `none` if no flag has the letter. -/
def setLetter? (f : SearchFlags) (letter : Char) : Option SearchFlags :=
  let on := letter.isLower
  match letter.toLower with
  | 'i' => some { f with ignoreCase := on }
  | 'm' => some { f with multiLine := on }
  | 's' => some { f with dotAll := on }
  | 'u' => some { f with unicode := on }
  | 'w' => some { f with wrapScan := on }
  | 'b' => some { f with backward := on }
  | 'y' => some { f with sticky := on }
  | 'r' => some { f with restricted := on }
  | 'x' => some { f with magic := on }
  | _ => none

/-- The flags overridden by letters; fails with the first letter that names no flag. -/
def override (f : SearchFlags) : (letters : Text) → Except Char SearchFlags
  | [] => .ok f
  | c :: rest =>
    match f.setLetter? c with
    | some f => f.override rest
    | none => .error c

/-- The matcher of a pattern under the flags, `none` if the pattern is malformed. -/
def matcher? (f : SearchFlags) (pattern : Text) : Option Matcher :=
  Matcher.ofPattern?
    { ignoreCase := f.ignoreCase, multiLine := f.multiLine, dotAll := f.dotAll,
      unicode := f.unicode }
    (if f.magic then pattern else Pattern.literal pattern)

end SearchFlags

end LineEditor
