import LineEditor.Storage.Disk

/-!
# Storage

Where texts are read from and written to. Files have a name and may lie in a directory. A storage
can be missing altogether, it can be a shelf of named texts, or it can be a disk.
-/

namespace LineEditor

/-- A place to keep texts. -/
inductive Storage where
  /-- There is no storage: nothing can be read or written. -/
  | absent
  /-- Texts by name. While it refuses writing, texts can only be read. -/
  | shelf (texts : Table Text Text) (refuses : Bool)
  /-- Files on a disk. In a dry run nothing is written, although it seems so. -/
  | disk (disk : Disk) (dryRun : Bool)
  deriving Inhabited

namespace Storage

/-- There is a storage. -/
def isPresent : Storage → Bool
  | absent => false
  | _ => true

/-- The name of a text on a shelf, with its directory in front. -/
def shelfName (directory : Option Text) (name : Text) : Text :=
  match directory with
  | some directory => directory ++ '/' :: name
  | none => name

/-- Reads a text. -/
def read? (s : Storage) (name : Text) (directory : Option Text) : Option Text :=
  match s with
  | absent => none
  | shelf texts _ => texts.get? (shelfName directory name)
  | disk d _ => d.read? (Disk.inDirectory directory name)

/-- Writes a text. -/
def write? (s : Storage) (name : Text) (directory : Option Text) (content : Text) :
    Option Storage :=
  match s with
  | absent => none
  | shelf texts refuses =>
    if refuses then none
    else some (shelf (texts.insert (shelfName directory name) content) refuses)
  | disk d dryRun =>
    if dryRun then some s
    else (d.write? (Disk.inDirectory directory name) content).map (disk · dryRun)

/-- What was written to a shelf is read back. -/
theorem read?_shelf_of_write? {texts : Table Text Text} {refuses : Bool} {name content : Text}
    {directory : Option Text} {s : Storage}
    (h : (shelf texts refuses).write? name directory content = some s) :
    s.read? name directory = some content := by
  simp only [write?] at h
  split at h
  · simp at h
  · simp only [Option.some.injEq] at h
    subst h
    simp [read?, Table.get?_insert]

/-- So is what was written to a disk, unless it only seemed so. -/
theorem read?_disk_of_write? {d : Disk} {name content : Text} {directory : Option Text}
    {s : Storage} (h : (disk d false).write? name directory content = some s) :
    ∃ d', s = disk d' false ∧ d'.read? (Disk.inDirectory directory name) = some content := by
  obtain ⟨d', hwrite, rfl⟩ := Option.map_eq_some_iff.mp h
  exact ⟨d', rfl, Disk.read?_of_write? hwrite⟩

end Storage

end LineEditor
