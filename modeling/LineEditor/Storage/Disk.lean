import LineEditor.Table
import LineEditor.Text.Basic

/-!
# Disks

A disk is a tree of directories and files below a working directory, kept as a table from paths to
what lies there. A path is the list of names on the way down from the working directory; what lies
elsewhere has a path that starts with `..`, or with an empty name for the root.

Names of files are written with slashes. Reading such a name follows it from directory to directory;
a directory on the way that does not exist makes the name lead nowhere.
-/

namespace LineEditor

/-- The names on the way from the working directory. -/
abbrev Path := List Text

/-- What can lie at a path. -/
inductive Disk.Entry where
  /-- A file that holds a text. -/
  | file (content : Text)
  /-- A file whose content is no text. -/
  | binary
  /-- A directory. -/
  | directory
  deriving DecidableEq, Inhabited

/-- What lies where. The working directory itself has no entry. -/
abbrev Disk := Table Path Disk.Entry

namespace Disk

/-- The directory that stands for itself. -/
def here : Text := ['.']

/-- The directory one level up. -/
def up : Text := ['.', '.']

/-- The path of the root. -/
def root : Path := [[]]

/-- The pieces of a written name between slashes. -/
def pieces (name : Text) : List Text := Text.splitAt '/' name

/-- The name starts at the root. -/
def isAbsolute (name : Text) : Bool := name.head? = some '/'

/-- A name in a directory, unless the name starts at the root. -/
def inDirectory (directory : Option Text) (name : Text) : Text :=
  match directory with
  | some directory =>
    if isAbsolute name then name
    else if directory = [] || directory.getLast? = some '/' then directory ++ name
    else directory ++ '/' :: name
  | none => name

/-- There is a directory at the path. -/
def isDirectory (disk : Disk) (path : Path) : Bool :=
  path = [] || disk.get? path = some .directory

/-- One piece of a name is followed, from a directory. -/
def step (disk : Disk) (path : Path) (piece : Text) : Option Path :=
  if !disk.isDirectory path then none
  else if piece = [] || piece = here then some path
  else if piece = up then
    match path.getLast? with
    | none => some [up]
    | some last => if last = up then some (path ++ [up]) else some path.dropLast
  else some (path ++ [piece])

/-- The path that a name leads to, `none` if it leads nowhere. -/
def path? (disk : Disk) (name : Text) : Option Path :=
  if name = [] || name.contains '\x00' then none
  else if isAbsolute name then ((pieces name).drop 1).foldlM disk.step root
  else (pieces name).foldlM disk.step []

/-- What lies under a name. -/
def entry? (disk : Disk) (name : Text) : Option Entry :=
  (disk.path? name).bind fun path ↦
    if disk.isDirectory path then some .directory else disk.get? path

/-- The text of a file. -/
def read? (disk : Disk) (name : Text) : Option Text :=
  match disk.entry? name with
  | some (.file content) => some content
  | _ => none

/-- The name can be that of a file: it does not end with a piece that means a directory. -/
def namesFile (name : Text) : Bool :=
  match (pieces name).getLast? with
  | some piece => piece ≠ [] && piece ≠ here && piece ≠ up
  | none => false

/-- The disk with a text written to a file, `none` if there can be no such file. -/
def write? (disk : Disk) (name content : Text) : Option Disk :=
  (disk.path? name).bind fun path ↦
    if !namesFile name || disk.isDirectory path then none
    else some (disk.insert path (.file content))

/-- The disk with a file or directory, and all directories on the way to it. -/
def place (disk : Disk) (path : Path) (entry : Entry) : Disk :=
  let parents := (List.range (path.length - 1)).map fun n ↦ path.take (n + 1)
  (parents.foldl (fun disk parent ↦ disk.insert parent .directory) disk).insert path entry

/-! ## Reading what was written -/

variable {disk disk' : Disk} {path : Path} {name content : Text}

/-- A file where no directory is leaves the directories as they are. -/
theorem isDirectory_insert_file (h : disk.isDirectory path = false) (content : Text) :
    isDirectory (disk.insert path (.file content)) = disk.isDirectory := by
  funext other
  unfold isDirectory at *
  rw [Table.get?_insert]
  by_cases heq : path = other
  · subst heq
    rw [if_pos rfl, h]
    simp only [Bool.or_eq_false_iff] at h
    simp [h.1]
  · rw [if_neg heq]

/-- Names lead where the directories let them. -/
theorem path?_congr (h : disk'.isDirectory = disk.isDirectory) : disk'.path? = disk.path? := by
  have hstep : disk'.step = disk.step := by
    funext path piece
    unfold step
    rw [h]
  funext name
  unfold path?
  rw [hstep]

/-- What was written to a file is read back. -/
theorem read?_of_write? (h : disk.write? name content = some disk') :
    disk'.read? name = some content := by
  obtain ⟨path, hpath, hwrite⟩ := Option.bind_eq_some_iff.mp h
  split at hwrite
  · exact absurd hwrite nofun
  · next hfile =>
    obtain ⟨-, hnone⟩ := Bool.or_eq_false_iff.mp (eq_false_of_ne_true hfile)
    obtain rfl := Option.some.inj hwrite
    have hdirectory := isDirectory_insert_file hnone content
    have hentry : entry? (disk.insert path (.file content)) name = some (.file content) := by
      unfold entry?
      rw [path?_congr hdirectory, hpath, Option.bind_some, hdirectory, hnone, Table.get?_insert,
        if_pos rfl]
      rfl
    rw [read?, hentry]

end Disk

end LineEditor
