import LineEditor.Document.Range
import LineEditor.Registers
import LineEditor.Storage

/-!
# Sessions

A session is what the commands given to an editor share, whatever document they work on: registers,
the last pattern searched for, the last substitution. A command runs in a `Scene`: the session, one
document with the range to work at, and the host, which answers questions and keeps files.

Commands are written in the `Run` monad. An error ends a command and keeps the scene as it is then,
so what was done before the error stays done. Everything the outside can notice goes to the trace of
the scene, in order.
-/

namespace LineEditor

/-- A substitution that can be repeated. -/
structure Substitution where
  /-- What was replaced. -/
  pattern : Text
  /-- The template, with the one before it put in. -/
  replacement : Text
  /-- The flags as they were written. -/
  flags : Text
  deriving DecidableEq, Inhabited

/-- What commands share. -/
structure Session where
  /-- The registers. -/
  registers : Registers := {}
  /-- The last pattern searched for. -/
  lastSearch : Option Text := none
  /-- The last substitution. -/
  lastSubstitution : Option Substitution := none
  /-- A global command is running other commands. -/
  inGlobal : Bool := false
  deriving Inhabited

/-- What can be noticed from outside. -/
inductive Event where
  /-- A command shows a text. -/
  | shown (t : Text)
  /-- A line of commands fails. -/
  | failed (e : Error)
  /-- A question is answered. -/
  | asked (question : Text) (answer : Bool)
  /-- A line of input is asked for. -/
  | prompted (message : Text)
  /-- The document is to be closed. -/
  | quit
  /-- A storage is asked for a file. -/
  | read (file : Text) (directory : Option Text)
  /-- A storage is asked to write a file. -/
  | write (file : Text) (directory : Option Text) (content : Text)
  /-- An observer of the document is told something. -/
  | noticed (n : Notice)
  deriving DecidableEq

/-- Who answers commands from outside. -/
structure Host where
  /-- The answer to every question. -/
  consents : Bool := false
  /-- The lines of input to come, after which the user dismisses; `none` if there is no user to
  ask. -/
  input : Option (List Text) := none
  /-- The files. -/
  storage : Storage := .absent
  deriving Inhabited

/-- What a command runs in. -/
structure Scene where
  /-- The document. -/
  document : Document
  /-- The range to work at. -/
  range : RangeId
  /-- What commands share. -/
  session : Session := {}
  /-- Who answers. -/
  host : Host := {}
  /-- What could be noticed so far. -/
  trace : List Event := []

namespace Scene

/-- The scene with something noticed. -/
def note (s : Scene) (e : Event) : Scene := { s with trace := s.trace ++ [e] }

/-- The scene with another state of its document, whose observers are told what they are to be. -/
def withDocument (s : Scene) (d : Document) : Scene :=
  { s with
    document := { d with notices := [] }
    trace := s.trace ++ d.notices.map .noticed }

end Scene

/-- A command: it may fail, and it keeps the scene when it does. -/
abbrev Run := ExceptT Error (StateM Scene)

namespace Run

/-- The document. -/
def document : Run Document := return (← get).document

/-- The text of the document. -/
def text : Run Text := return (← get).document.text

/-- The options of the document. -/
def options : Run Options := return (← get).document.options

/-- The session. -/
def session : Run Session := return (← get).session

/-- Changes the document. -/
def modifyDocument (f : Document → Document) : Run Unit :=
  modify fun s ↦ s.withDocument (f s.document)

/-- Changes the document through the range. -/
def modifyAt (f : Document → RangeId → Document) : Run Unit :=
  modify fun s ↦ s.withDocument (f s.document s.range)

/-- Changes what commands share. -/
def modifySession (f : Session → Session) : Run Unit :=
  modify fun s ↦ { s with session := f s.session }

/-- Lets something be noticed. -/
def note (e : Event) : Run Unit := modify (·.note e)

/-- Shows a text. -/
def display (t : Text) : Run Unit := note (.shown t)

/-- Shows lines of text, if there are any. -/
def displayLines (ls : List Text) : Run Unit :=
  if ls = [] then pure () else display (Text.unlines ls)

/-- Goes on with a result, or fails with its error. -/
def orFail {α : Type} (r : Except Error α) : Run α :=
  match r with
  | .ok a => pure a
  | .error e => throw e

/-- Fails because a command line cannot be understood. -/
def refuse {α : Type} (e : ParseError) : Run α := throw (.parse e)

/-- Sets the range to lines. -/
def moveToLines (first last : Nat) : Run Unit := modifyAt (·.moveToLines · first last)

/-- Sets the range to a line. -/
def moveToLine (n : Nat) : Run Unit := moveToLines n n

/-- Makes a mark at the range. -/
def bookmark (name : Text) : Run Unit := modifyAt (·.bookmark · name)

/-- Runs a command as one step of the history, whether it succeeds or not. -/
def grouped (body : Run Unit) : Run Unit := ExceptT.mk do
  modify fun s ↦ s.withDocument s.document.openGroup
  let r ← body.run
  modify fun s ↦ s.withDocument s.document.closeGroup
  return r

end Run

end LineEditor
