import LineEditor.Options.Name
import LineEditor.Text.Case

/-!
# Command names

The commands, the words they are called by, and what each takes: which lines it works on when none
are addressed, and how far its parameter reaches. A word names a command exactly, or else as the
start of a name: of several names with that start, the one listed first.
-/

namespace LineEditor

/-- A command. -/
inductive CommandName where
  | append
  | change
  | copy
  | delete
  | edit
  | file
  | global
  | insert
  | join
  | mark
  | marks
  | move
  | number
  | notglobal
  | print
  | put
  | quit
  | read
  | redo
  | registers
  | substitute
  | set
  | undo
  | write
  | wq
  | xit
  | yank
  /-- Shows the number of the last line. -/
  | lineNumber
  | shiftLeft
  | shiftRight
  /-- Repeats the last substitution. -/
  | again
  /-- Repeats the last substitution with the last pattern searched for. -/
  | againWithSearch
  /-- The own command of an option. -/
  | option (o : OptionName)
  deriving DecidableEq, Inhabited

/-- The lines a command works on when none are addressed. -/
inductive DefaultLines where
  /-- The lines of the range. -/
  | current
  /-- All lines. -/
  | whole
  /-- The last line. -/
  | last
  /-- The lines of the range, and the range stays where it is even if lines are addressed. -/
  | keep
  deriving DecidableEq, Inhabited

namespace CommandName

/-- The words of the commands, the main word of a command before its other words. -/
def words : List (String × CommandName) := [
  ("append", append), ("change", change), ("copy", copy), ("t", copy), ("delete", delete),
  ("edit", edit), ("file", file), ("global", global), ("insert", insert), ("join", join),
  ("k", mark), ("move", move), ("mark", mark), ("marks", marks), ("number", number),
  ("#", number), ("notglobal", notglobal), ("print", print), ("put", put), ("quit", quit),
  ("read", read), ("redo", redo), ("registers", registers), ("display", registers),
  ("substitute", substitute), ("set", set), ("undo", undo), ("v", notglobal), ("write", write),
  ("wq", wq), ("xit", xit), ("yank", yank), ("=", lineNumber), ("<", shiftLeft),
  (">", shiftRight), ("&", again), ("~", againWithSearch)]

/-- All words with their commands: those of the commands, then the full names of options, then
their short names. -/
def entries : List (Text × CommandName) :=
  words.map (fun (word, command) ↦ (word.toList, command))
    ++ OptionName.all.map (fun o ↦ (o.name, option o))
    ++ OptionName.all.filterMap fun o ↦ o.short?.map fun short ↦ (short, option o)

/-- The command that a word names. -/
def ofWord? (word : Text) : Option CommandName :=
  match entries.find? fun (name, _) ↦ name = word with
  | some (_, command) => some command
  | none =>
    let start := word.flatMap Text.small
    if start = [] then none
    else (entries.find? fun (name, _) ↦ start.isPrefixOf name).map (·.2)

/-- The name under which a command is known. -/
def name (command : CommandName) : Text :=
  match command with
  | option o => o.name
  | command => ((words.find? fun (_, c) ↦ c = command).map (·.1.toList)).getD []

/-- The lines a command works on when none are addressed. -/
def defaultLines : CommandName → DefaultLines
  | global | notglobal | write | wq | xit => .whole
  | lineNumber => .last
  | undo | redo | set | option _ | quit | edit | file | registers | marks => .keep
  | _ => .current

/-- The parameter starts with sections between delimiters, in which a `|` does not end it. -/
def takesPattern : CommandName → Bool
  | substitute | again | againWithSearch => true
  | _ => false

/-- The parameter is the rest of the line. -/
def takesRest : CommandName → Bool
  | global | notglobal => true
  | _ => false

end CommandName

end LineEditor
