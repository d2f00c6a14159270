import LineEditor.Session.Edits

/-!
# Commands that work with files

Reading, writing and leaving. The file is the one in the parameter, or that of the document, or the
one the user answers with. A document with changes that are not stored is left or overwritten only
if the command insists or the user consents.
-/

namespace LineEditor.Run

/-- Asks for a line of input. Without a user to ask this is as if the user dismissed. -/
def promptFor (message : Text) : Run Text := do
  match (← get).host.input with
  | none => throw .cancelled
  | some lines =>
    note (.prompted message)
    match lines with
    | [] => throw .cancelled
    | line :: later =>
      modify fun s ↦ { s with host := { s.host with input := some later } }
      return line

/-- Notes that the storage is asked for something, if there is a storage. -/
def noteRequest (e : Event) : Run Unit := do
  if (← get).host.storage.isPresent then note e

/-- The file that a command means. -/
def fileName (parameter : Text) : Run Text := do
  let name := Text.trim parameter
  if name ≠ [] then return name
  let current := (← options).file
  if current ≠ [] then return current
  let answer := Text.trim (← promptFor "File: ".toList)
  if answer = [] then refuse .noFileName else return answer

/-- The directory of files, if one is set. -/
def directory : Run (Option Text) := return (some (← options).directory).filter (· ≠ [])

/-- Sets the save status. -/
def setStatus (status : SaveStatus) : Run Unit := modifyDocument ({ · with status := status })

/-- What is written of a document: all of it, or lines that each end with a separator. -/
def writtenText (t : Text) (span : Span) : Text :=
  if span.first ≤ 1 ∧ t.lineCount ≤ span.last then t
  else t.linesText span.first span.last ++ [Text.separator]

/-- What is shown after a text has been written. -/
def writtenMessage (file t : Text) : Text :=
  '"' :: file ++ "\" ".toList ++ Text.ofNat t.lineCount ++ "L, ".toList ++ Text.ofNat t.length
    ++ "C written".toList

/-- Hands a text to the storage. The document counts as stored if the storage takes it. -/
def save (file : Text) (directory : Option Text) (content : Text) : Run Unit := do
  setStatus .pending
  noteRequest (.write file directory content)
  let s ← get
  match s.host.storage.write? file directory content with
  | some storage =>
    modify fun s ↦ { s with host := { s.host with storage := storage } }
    setStatus .clean
  | none =>
    setStatus .failed
    throw (.notSaved file)

/-- Writes lines to a file. The document then counts as stored, whatever part of it was written, and
belongs to the file if it belonged to none. -/
def write (span : Span) (parameter : Text) : Run Unit := do
  let file ← fileName parameter
  let directory ← directory
  let content := writtenText (← text) span
  save file directory content
  if (← options).file = [] then modifyDocument (·.setFile file)
  display (writtenMessage file content)

/-- The text of a file. -/
def load (file : Text) : Run Text := do
  let directory ← directory
  noteRequest (.read file directory)
  match (← get).host.storage.read? file directory with
  | some content => return content
  | none => throw (.notLoaded file)

/-- Goes on only if there are no changes to lose, or if the command insists or the user consents. -/
def guardChanges (question : Text) (force : Bool) : Run Unit := do
  let s ← get
  if s.document.status.isDirty ∧ !force then
    note (.asked question s.host.consents)
    if !s.host.consents then throw .unsavedChanges

/-- Puts the text of a file in place of that of the document, which belongs to the file then. -/
def edit (parameter : Text) (force : Bool) : Run Unit := do
  guardChanges "Discard unsaved changes?".toList force
  let file ← fileName parameter
  let content ← load file
  modifyDocument fun d ↦
    let d := (d.replace 0 d.length content .command).2.clearHistory
    { d with status := .clean }.setFile file
  moveToLine 1

/-- Inserts the lines of a file behind the last line addressed. -/
def read (span : Span) (parameter : Text) : Run Unit := do
  let content ← load (← fileName parameter)
  let body := (content.dropFinal? Text.separator).getD content
  modifyAt (·.insertLines · span.last body [])

/-- Makes a file the one of the document, or shows which one it is. -/
def file (parameter : Text) : Run Unit := do
  let name := Text.trim parameter
  if name ≠ [] then modifyDocument (·.setFile name)
  else
    let d ← document
    let name := if d.options.file = [] then "[No Name]".toList else d.options.file
    display ('"' :: name ++ "\" ".toList ++ d.status.name ++ ' ' :: Text.ofNat d.text.lineCount
      ++ " lines".toList)

/-- Asks for the document to be closed. -/
def quit (force : Bool) : Run Unit := do
  guardChanges "Quit without saving?".toList force
  note .quit

end LineEditor.Run
