import LineEditor.Session.Files
import LineEditor.Session.Listing
import LineEditor.Session.Substitute

/-!
# Executing commands

A command first has its addresses resolved and the range put on the lines they mean; then it is
carried out as one step of the history. A line of commands runs from left to right up to the first
error.

A global command runs a line of commands on each line that a pattern matches. Such a line cannot
hold another global command, so that two levels are enough: `executeWith` is given the way to run
the lines of a global command, and ties no knot.
-/

namespace LineEditor

/-- The mark at the lines that were addressed last. -/
def previousMark : Text := ['\x27']

/-- The mark at the range after the last command. -/
def currentMark : Text := ['\x27', '\x27']

namespace CommandName

/-- The command walks through the history and makes no step of its own. -/
def walksHistory : CommandName → Bool
  | undo | redo => true
  | _ => false

/-- The lines the command works on when none are addressed, `lines` being those of the range. -/
def defaultSpan (command : CommandName) (lines : Nat × Nat) (total : Nat) : Span :=
  match command.defaultLines with
  | .current | .keep => ⟨lines.1, lines.2⟩
  | .whole => ⟨1, total⟩
  | .last => .single total

end CommandName

namespace Run

/-! ## Global commands -/

/-- The lines still to come after line `line`, of those up to line `last`, when the commands run on
it have added so many lines. -/
def linesToCome (line last : Nat) (added : Int) : Nat × Nat :=
  if 0 ≤ added then (line + 1 + added.toNat, last + added.toNat)
  else (max (line + 1 - (-added).toNat) 1, last - (-added).toNat)

/-- However many lines are added, there is one line less to come. -/
theorem linesToCome_lt {line last : Nat} (h : line ≤ last) (added : Int) :
    (linesToCome line last added).2 + 1 - (linesToCome line last added).1 < last + 1 - line := by
  unfold linesToCome
  split <;> omega

/-- Runs lines of commands on each line from `line` to `last` on which the matcher says `expected`.
Lines that these commands add or remove shift the lines still to come. -/
def globalFrom (m : Matcher) (expected : Bool) (body : Run Unit) (line last : Nat) : Run Unit :=
  if _h : line ≤ last then do
    let t ← text
    if m.occursIn (t.line line) = expected then
      moveToLine line
      body
      let added : Int := (← text).lineCount - t.lineCount
      globalFrom m expected body (linesToCome line last added).1 (linesToCome line last added).2
    else globalFrom m expected body (line + 1) last
  else pure ()
termination_by last + 1 - line
decreasing_by
  · exact linesToCome_lt _h _
  · omega

/-- The commands that a global command runs: those behind its pattern, or else printing. -/
def globalBody (rest : Text) : Text :=
  if Text.trim rest = [] then ['p'] else Text.trimStart rest

/-- Reads the parameter of a global command: what lines are to match, and the commands to run on
them. From here on a global command is running. -/
def startGlobal (parameter : Text) : Run (Matcher × Text) := do
  if (← session).inGlobal then refuse .nestedGlobal
  let parameter := Text.trimStart parameter
  match delimiter? parameter with
  | none => refuse .undelimitedGlobal
  | some c =>
    let (pattern, rest) := Address.delimited c (parameter.drop 1)
    let pattern ← patternOrLast pattern
    let m ← orFail (Document.matcher (SearchFlags.ofOptions (← options)) pattern)
    modifySession fun s ↦ { s with lastSearch := some pattern, inGlobal := true }
    return (m, globalBody rest)

/-- Runs a global command up to its end, whether it succeeds or not. -/
def endingGlobal (body : Run Unit) : Run Unit := ExceptT.mk do
  let r ← body.run
  modify fun s ↦ { s with session := { s.session with inGlobal := false } }
  return r

/-- Runs commands on the lines that match a pattern, or on those that do not. -/
def global (runLine : Text → Run Unit) (span : Span) (parameter : Text) (expected : Bool) :
    Run Unit := do
  let (m, body) ← startGlobal parameter
  endingGlobal (globalFrom m expected (body.lines.forM runLine) (max span.first 1) span.last)

/-! ## Single commands -/

/-- Steps through the history and puts the range on the text put in. -/
def walk (step : Document → Option (Bounds × Document)) : Run Unit := modifyAt fun d id ↦
  match step d with
  | some (b, d) => d.moveTo id b
  | none => d

/-- Carries out a command on lines. -/
def dispatch (runLine : Text → Run Unit) (name : CommandName) (c : Command) (span : Span) :
    Run Unit :=
  match name with
  | .append => append span c.parameter c.bang
  | .insert => insert span c.parameter c.bang
  | .change => change span c.parameter c.bang
  | .delete => deleteOrYank span c.parameter true
  | .yank => deleteOrYank span c.parameter false
  | .put => put span c.parameter c.bang
  | .join => join span c.parameter c.bang
  | .move => transfer span c.parameter true
  | .copy => transfer span c.parameter false
  | .substitute | .again | .againWithSearch => substitute span name c.parameter
  | .global => global runLine span c.parameter !c.bang
  | .notglobal => global runLine span c.parameter false
  | .print => print span false
  | .number => print span true
  | .lineNumber => lineNumber span
  | .shiftLeft => shift span c.parameter c.repeats false
  | .shiftRight => shift span c.parameter c.repeats true
  | .mark => mark span c.parameter
  | .marks => marks
  | .registers => registers
  | .undo => walk Document.undo?
  | .redo => walk Document.redo?
  | .set => set c.parameter
  | .option o => option o c.parameter c.bang
  | .write => write span c.parameter
  | .edit => edit c.parameter c.bang
  | .read => read span c.parameter
  | .file => file c.parameter
  | .quit => quit c.bang
  | .wq => do
    write span c.parameter
    quit c.bang
  | .xit => do
    if (← document).status.isDirty then write span c.parameter
    quit c.bang

/-- Puts the range on the lines that the addresses of a command mean. Answers the command to carry
out and the lines it works on, `none` for addresses alone. -/
def approach (c : Command) : Run (Option (CommandName × Span)) := do
  let addressed ← resolve c.addresses
  if addressed.isSome then bookmark previousMark
  let place : Run Unit := match addressed with
    | some span => moveToLines (max span.first 1) (max span.last 1)
    | none => pure ()
  match c.name with
  | none =>
    place
    if addressed.isSome then bookmark currentMark
    return none
  | some name =>
    let s ← get
    let span := addressed.getD
      (name.defaultSpan (s.document.lines s.range) s.document.text.lineCount)
    if name.defaultLines ≠ .keep then place
    return some (name, span)

/-- Carries out a command as one step of the history, unless it walks through the history itself. -/
def carryOut (runLine : Text → Run Unit) (name : CommandName) (c : Command) (span : Span) :
    Run Unit :=
  let body := dispatch runLine name c span
  if name.walksHistory then body else grouped body

/-- Executes a command. Addresses alone only put the range on lines. -/
def executeWith (runLine : Text → Run Unit) (c : Command) : Run Unit := do
  match ← approach c with
  | none => pure ()
  | some (name, span) =>
    carryOut runLine name c span
    bookmark currentMark

/-! ## Lines of commands -/

/-- Runs a line of commands, each in the given way. -/
def lineWith (execute : Command → Run Unit) (line : Text) : Run Unit :=
  (Command.commands line).forM fun c ↦ do execute (← orFail c)

/-- Runs a line of commands on behalf of a global command. -/
def innerLine : Text → Run Unit := lineWith (executeWith fun _ ↦ refuse .nestedGlobal)

/-- Executes a command. -/
def execute : Command → Run Unit := executeWith innerLine

/-- Runs a line of commands. -/
def line : Text → Run Unit := lineWith execute

end Run

/-- How a line of commands ended. -/
inductive Outcome where
  | completed
  /-- A request for input was dismissed. -/
  | cancelled
  /-- A command failed, and those behind it were left out. -/
  | failed (e : Error)
  deriving DecidableEq

/-- Runs a line of commands in a scene. A failure is reported to the host; a dismissal is not. -/
def Scene.perform (s : Scene) (line : Text) : Outcome × Scene :=
  match (Run.line line).run s with
  | (.ok (), s) => (.completed, s)
  | (.error .cancelled, s) => (.cancelled, s)
  | (.error e, s) => (.failed e, s.note (.failed e))

end LineEditor
