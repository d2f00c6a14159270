import LineEditor.Cli.Arguments
import LineEditor.Session.Execute
import LineEditor.Text.Blank

/-!
# The program

The program edits one file by lines of commands given as arguments. The lines are run one after the
other until one fails, is cut short by a question that nobody answers, or asks for the end. With
`--save` the text is written at the end if it has changed.

A run of the program is a function of its arguments, its configuration and the disk. It answers what
is shown, the exit code, and the disk afterwards.
-/

namespace LineEditor.Cli

/-- The name of the program. -/
def programName : Text := "exrange".toList

/-- The version of the program. -/
def programVersion : Text := "0.1.0".toList

/-- What is shown on request. -/
def helpText : Text := Text.unlines <| List.map String.toList [
  "Run ex commands against a text file",
  "",
  "Usage: exrange [OPTIONS] [FILE]",
  "",
  "Arguments:",
  "  [FILE]  File to edit",
  "",
  "Options:",
  "  -c, --command <CMD>  Ex command line to run; may be given several times",
  "      --dry-run        Never write to disk; print what would be written instead",
  "  -y, --yes            Answer yes to every confirmation",
  "  -s, --save           Write the buffer back after the last command when it changed",
  "  -h, --help           Print help",
  "  -V, --version        Print version"]

/-- What a run of the program comes to. -/
structure Report where
  /-- The exit code. -/
  exitCode : Nat
  /-- What goes to the standard output. -/
  output : Text := []
  /-- What goes to the error output. -/
  errors : Text := []
  /-- The disk afterwards. -/
  disk : Disk
  /-- The names of the files that were looked at. -/
  names : List Text := []

/-! ## What events show -/

/-- What an event shows on the standard output. In a dry run a text to write is shown. -/
def outputOf (dryRun : Bool) : Event → Text
  | .shown t => t ++ ['\n']
  | .write _ _ content => if dryRun then content else []
  | _ => []

/-- What an event shows on the error output. -/
def errorsOf : Event → Text
  | .failed e => e.message ++ ['\n']
  | _ => []

/-- The file that an event looks at. -/
def nameOf : Event → Option Text
  | .read file directory | .write file directory _ => some (Disk.inDirectory directory file)
  | _ => none

/-! ## Running -/

/-- Runs lines of commands. Answers whether all is well and whether the run ends here, and the scene
then. -/
def performAll (s : Scene) : List Text → Option Bool × Scene
  | [] => (none, s)
  | line :: rest =>
    match s.perform line with
    | (.completed, s) => if s.trace.contains .quit then (some true, s) else performAll s rest
    | (_, s) => (some false, s)

/-- Runs all lines of commands and writes the text if that is asked for. Answers whether all is
well. -/
def performAndSave (s : Scene) (lines : List Text) (save : Bool) : Bool × Scene :=
  match performAll s lines with
  | (some ok, s) => (ok, s)
  | (none, s) =>
    if save && s.document.status.isDirty then
      match s.perform ['w'] with
      | (.failed _, s) => (false, s)
      | (_, s) => (true, s)
    else (true, s)

/-- The scene at the start: the text in a document of its own, with a range at its start. -/
def initial (a : Arguments) (c : Config) (disk : Disk) (t : Text) : Scene :=
  let d := Document.ofSurface (.ofPlain t) c
  let d := match a.file with
    | some file => d.setFile file
    | none => d
  let (range, ranges) := d.ranges.hold {}
  { document := { d with ranges := ranges }
    range := range
    host := { consents := a.yes, storage := .disk disk a.dryRun } }

/-- The disk of a storage. -/
def diskOf : Storage → Disk
  | .disk disk _ => disk
  | _ => []

/-- The report on a run that ended in a scene. -/
def reportOn (a : Arguments) (ok : Bool) (s : Scene) : Report where
  exitCode := if ok then 0 else 1
  output := s.trace.flatMap (outputOf a.dryRun)
  errors := s.trace.flatMap errorsOf
  disk := diskOf s.host.storage
  names := a.file.toList ++ s.trace.filterMap nameOf

/-- A run that fails at once. -/
def refuse (a : Arguments) (disk : Disk) (message : Text) : Report where
  exitCode := 1
  errors := "Error: ".toList ++ message ++ ['\n']
  disk := disk
  names := a.file.toList

/-- What is shown about a file that holds no text. -/
def unreadable (file : Text) : Text :=
  "Failed to read ".toList ++ file
    ++ "\n\nCaused by:\n    stream did not contain valid UTF-8".toList

/-- Runs the program with arguments that have been understood. -/
def runWith (a : Arguments) (c : Config) (disk : Disk) : Report :=
  let start (t : Text) : Report :=
    let lines := a.commands.filter fun line ↦ Text.trim line ≠ []
    let (ok, s) := performAndSave (initial a c disk t) lines a.save
    reportOn a ok s
  match a.file with
  | none => if a.save then refuse a disk "--save needs a FILE".toList else start []
  | some file =>
    match disk.entry? file with
    | some .directory => refuse a disk (file ++ " is a directory".toList)
    | some .binary => refuse a disk (unreadable file)
    | some (.file t) => start t
    | none => start []

/-- Runs the program. -/
def run (words : List Text) (c : Config) (disk : Disk) : Report :=
  match arguments words with
  | .ok a => runWith a c disk
  | .error .help => { exitCode := 0, output := helpText ++ ['\n'], disk := disk }
  | .error .version =>
    { exitCode := 0, output := programName ++ ' ' :: programVersion ++ ['\n'], disk := disk }
  | .error .usage =>
    { exitCode := 2
      errors := "error: unexpected arguments\n\nUsage: exrange [OPTIONS] [FILE]\n".toList
      disk := disk }

end LineEditor.Cli
