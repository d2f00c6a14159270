import LineEditor.Session.Edits

/-!
# Commands that show and set

Printing lines, listing marks and registers, and requests about options.
-/

namespace LineEditor

/-- A line with its number in front, at the right end of six columns. -/
def numberedLine (n : Nat) (line : Text) : Text := Text.ofNatPadded 6 n ++ "  ".toList ++ line

namespace Run

/-- Shows lines, with their numbers if `numbered`. -/
def print (span : Span) (numbered : Bool) : Run Unit := do
  let first := max span.first 1
  let last := max span.last first
  let ls := (← text).lineRange first last
  let ls := if numbered then ls.mapIdx fun i line ↦ numberedLine (first + i) line else ls
  display (Text.unlines ls)
  moveToLine last

/-- Shows the number of the last line addressed. -/
def lineNumber (span : Span) : Run Unit := display (Text.ofNat span.last)

/-- Lists the marks with their lines and bounds. -/
def marks : Run Unit := do
  let d ← document
  displayLines <| d.listMarks.map fun (name, b) ↦
    name ++ ' ' :: Text.ofNat (d.text.lineAt b.start) ++ ' ' :: b.render

/-- Lists the registers with their texts. -/
def registers : Run Unit := do
  displayLines <| (← session).registers.list.map fun (name, t) ↦
    '"' :: name :: ' ' :: Text.Quoted.encode t

/-- Makes a request about options; answers the text it shows, if any. -/
def request (r : Options → Except OptionError (Options × Answer)) : Run (Option Text) := do
  match (← document).request r with
  | .ok (shown, d) =>
    modifyDocument fun _ ↦ d
    return shown
  | .error e => throw (.option e)

/-- Makes a request for each token of a parameter, and shows what they show together. Without any
token all options are shown. -/
def set (parameter : Text) : Run Unit := do
  let tokens := Options.tokens parameter
  let tokens := if tokens = [] then ["all".toList] else tokens
  let shown ← tokens.filterMapM fun token ↦ request (·.applyToken token)
  displayLines shown

/-- An option's own command. -/
def option (o : OptionName) (parameter : Text) (bang : Bool) : Run Unit := do
  match ← request (·.command o parameter bang) with
  | some shown => display shown
  | none => pure ()

end Run

end LineEditor
