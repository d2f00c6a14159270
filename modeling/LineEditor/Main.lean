import LineEditor.Cli
import LineEditor.Config.File

/-!
# The executable

The outer layer of the program: it finds the configuration, looks at files and directories, and
carries out what a run comes to. A run is a function of the files it looks at, which are not known
beforehand; so it is repeated, each time with the files that the run before asked for, until it asks
for no more. Only then is anything shown or written.
-/

namespace LineEditor.Executable

/-- The text in a file, `none` if there is no such file or it holds no text. -/
def readText? (name : String) : IO (Option Text) := do
  try
    return (String.fromUTF8? (← IO.FS.readBinFile name)).map String.toList
  catch _ => return none

/-- The configuration of the user. -/
def configuration : IO Config := do
  let own := (← IO.getEnv "HOME").map (· ++ "/.config")
  match (← IO.getEnv "XDG_CONFIG_HOME").or own with
  | none => return {}
  | some directory =>
    let name := directory ++ "/" ++ String.ofList Cli.programName ++ "/config.yaml"
    return ((← readText? name).map Config.ofFile).getD {}

/-- The disk with what the system says lies under a name. -/
def look (disk : Disk) (name : Text) : IO Disk := do
  let path := (← IO.currentDir) / String.ofList name
  match disk.path? name with
  | none => return disk
  | some place =>
    if ← path.isDir then return disk.insert place .directory
    else if ← path.pathExists then
      match ← readText? (String.ofList name) with
      | some content => return disk.insert place (.file content)
      | none => return disk.insert place .binary
    else return disk

/-- The disk with what the system says lies under a name and under the directories on the way. -/
def explore (disk : Disk) (name : Text) : IO Disk := do
  let pieces := Disk.pieces name
  let starts := (List.range pieces.length).map fun n ↦ Text.join ['/'] (pieces.take (n + 1))
  starts.foldlM look (if Disk.isAbsolute name then disk.insert Disk.root .directory else disk)

/-- Repeats the run until it looks at no file that has not been looked at before. Answers the disk
it started from, too. -/
partial def settle (words : List Text) (c : Config) (disk : Disk) (known : List Text) :
    IO (Disk × Cli.Report) := do
  let report := Cli.run words c disk
  let unknown := report.names.filter (!known.contains ·)
  if unknown = [] then return (disk, report)
  else settle words c (← unknown.foldlM explore disk) (known ++ unknown)

/-- Writes the files that a run has changed. Answers whether all could be written. -/
def store (before after : Disk) : IO Bool := do
  let mut ok := true
  for (path, entry) in after do
    match entry with
    | .file content =>
      if before.get? path ≠ some entry then
        try
          IO.FS.writeFile (String.ofList (Text.join ['/'] path)) (String.ofList content)
        catch _ => ok := false
    | _ => pure ()
  return ok

end LineEditor.Executable

open LineEditor in
/-- Runs the program. -/
def main (args : List String) : IO UInt32 := do
  let c ← Executable.configuration
  let (disk, report) ← Executable.settle (args.map String.toList) c [] []
  let ok ← Executable.store disk report.disk
  IO.print (String.ofList report.output)
  IO.eprint (String.ofList report.errors)
  return if ok then report.exitCode.toUInt32 else 1
