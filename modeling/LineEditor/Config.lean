import LineEditor.Options

/-!
# Configuration

What a document starts out with: the settings of its options, the length of its history, and the
measures of its surface.
-/

namespace LineEditor

/-- The settings that a document starts with. -/
structure OptionDefaults where
  autoindent : Bool := false
  ignorecase : Bool := false
  wrapscan : Bool := true
  magic : Bool := true
  global : Bool := false
  multiline : Bool := false
  tabsize : Int := 4
  shiftwidth : Int := 4
  paragraphs : Text := "\\n[ \\t]*\\n".toList
  sections : Text := "\\n[ \\t]*\\n[ \\t]*\\n".toList
  deriving DecidableEq, Inhabited

/-- What a document starts out with. -/
structure Config where
  /-- The settings of options. -/
  options : OptionDefaults := {}
  /-- The greatest number of edits kept for undoing. -/
  historyDepth : Nat := 100
  /-- For how many milliseconds after a pointer press a gain of focus keeps the native selection. -/
  focusSuppress : Nat := 100
  /-- The height of one line. -/
  lineHeight : Nat := 16
  /-- The height of the visible part. -/
  viewportHeight : Nat := 480
  deriving DecidableEq, Inhabited

/-- The options seeded with settings. A setting that is refused, which happens to patterns only,
leaves its option alone. -/
def OptionDefaults.seed (c : OptionDefaults) (o : Options) : Options :=
  { o with
    autoindent := c.autoindent
    ignorecase := c.ignorecase
    wrapscan := c.wrapscan
    magic := c.magic
    global := c.global
    multiline := c.multiline
    tabsize := c.tabsize
    shiftwidth := c.shiftwidth
    paragraphs := if Options.isPattern c.paragraphs then c.paragraphs else o.paragraphs
    sections := if Options.isPattern c.sections then c.sections else o.sections }

end LineEditor
