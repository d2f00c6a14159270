import LineEditor.Text.Basic

/-!
# Command-line arguments

The program takes at most one file, lines of commands, and flags. Flags can be written together
behind one dash, and the value of an option behind the option or as the next argument. Arguments are
read from left to right: the first that cannot be understood ends the reading, and so does a request
for help or for the version.
-/

namespace LineEditor.Cli

/-- What the program is asked to do. -/
structure Arguments where
  /-- The file to edit. -/
  file : Option Text := none
  /-- The lines of commands to run. -/
  commands : List Text := []
  /-- Nothing is written; what would be written is shown. -/
  dryRun : Bool := false
  /-- Every question is answered with yes. -/
  yes : Bool := false
  /-- The text is written at the end if it has changed. -/
  save : Bool := false
  deriving DecidableEq, Inhabited

/-- Why reading arguments ends early. -/
inductive Stop where
  | help
  | version
  /-- The arguments cannot be understood. -/
  | usage
  deriving DecidableEq, Inhabited

namespace Arguments

/-- Adds a line of commands. -/
def addCommand (a : Arguments) (line : Text) : Arguments :=
  { a with commands := a.commands ++ [line] }

/-- Adds a file; there can be one only, and it has a name. -/
def addFile (a : Arguments) (file : Text) : Except Stop Arguments :=
  if a.file.isSome || file = [] then .error .usage else .ok { a with file := some file }

/-- Switches a flag on that was off. -/
def addDryRun (a : Arguments) : Except Stop Arguments :=
  if a.dryRun then .error .usage else .ok { a with dryRun := true }

/-- Switches a flag on that was off. -/
def addYes (a : Arguments) : Except Stop Arguments :=
  if a.yes then .error .usage else .ok { a with yes := true }

/-- Switches a flag on that was off. -/
def addSave (a : Arguments) : Except Stop Arguments :=
  if a.save then .error .usage else .ok { a with save := true }

/-- Reads options written together behind one dash. Answers whether a value is still to come. -/
def addShort (a : Arguments) : (letters : Text) → Except Stop (Arguments × Bool)
  | [] => .ok (a, false)
  | 'c' :: [] => .ok (a, true)
  | 'c' :: '=' :: value => .ok (a.addCommand value, false)
  | 'c' :: value => .ok (a.addCommand value, false)
  | 'y' :: rest => do (← a.addYes).addShort rest
  | 's' :: rest => do (← a.addSave).addShort rest
  | 'h' :: _ => .error .help
  | 'V' :: _ => .error .version
  | _ :: _ => .error .usage

/-- Reads an option written behind two dashes. Answers whether a value is still to come. -/
def addLong (a : Arguments) (word : Text) : Except Stop (Arguments × Bool) :=
  match word.span (· ≠ '=') with
  | (name, _ :: value) =>
    if name = "command".toList then .ok (a.addCommand value, false) else .error .usage
  | (name, []) =>
    if name = "command".toList then .ok (a, true)
    else if name = "dry-run".toList then do return (← a.addDryRun, false)
    else if name = "yes".toList then do return (← a.addYes, false)
    else if name = "save".toList then do return (← a.addSave, false)
    else if name = "help".toList then .error .help
    else if name = "version".toList then .error .version
    else .error .usage

/-- The argument is an option, and no value. -/
def isOption (word : Text) : Bool := word.head? = some '-' && word ≠ ['-']

/-- Reads arguments; `awaits` says that a line of commands is due next. -/
def read (a : Arguments) (awaits : Bool) : List Text → Except Stop Arguments
  | [] => if awaits then .error .usage else .ok a
  | word :: rest =>
    if awaits then
      if isOption word then .error .usage else (a.addCommand word).read false rest
    else if word = ['-', '-'] then rest.foldlM (·.addFile ·) a
    else if isOption word then do
      let (a, awaits) ← match word with
        | '-' :: '-' :: long => a.addLong long
        | word => a.addShort (word.drop 1)
      a.read awaits rest
    else do (← a.addFile word).read false rest

end Arguments

/-- The arguments of the program. -/
def arguments (words : List Text) : Except Stop Arguments := ({} : Arguments).read false words

end LineEditor.Cli
