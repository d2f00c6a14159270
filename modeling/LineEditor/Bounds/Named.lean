import LineEditor.Bounds.Line
import LineEditor.Bounds.Separator
import LineEditor.Error

/-!
# Bounds by name

Commands and scripts ask for bounds by a name and arguments: the whole text, a line, the bounds
extended to a separator, the union with other named bounds. The answer depends on the text, the
selection, the settings of the document and the bounds at hand, and on nothing else.
-/

namespace LineEditor

/-- What can be asked for by name. -/
inductive BoundsName where
  /-- The whole text. -/
  | all
  /-- The start of the text. -/
  | textStart
  /-- The end of the text. -/
  | textStop
  /-- The start of the bounds. -/
  | boundsStart
  /-- The stop of the bounds. -/
  | boundsStop
  /-- The selection. -/
  | selection
  /-- The start of the line that holds the start. -/
  | lineStart
  /-- The end of the line that holds the stop. -/
  | lineStop
  /-- The lines the bounds touch, or lines by number. -/
  | line
  /-- The bounds with other ones. -/
  | union
  /-- What the bounds share with other ones. -/
  | intersection
  /-- The bounds extended forward to a separator. -/
  | forward
  /-- The bounds extended backward to a separator. -/
  | backward
  /-- The bounds extended to a separator in both directions. -/
  | around
  /-- The word around the bounds. -/
  | wordAround
  /-- The sentence around the bounds. -/
  | sentenceAround
  /-- The paragraph around the bounds. -/
  | paragraphAround
  /-- The section around the bounds. -/
  | sectionAround
  deriving DecidableEq, Inhabited

/-- What is given along with a name. -/
inductive BoundsArgument where
  /-- The number of a line. -/
  | number (n : Int)
  /-- The name of other bounds, or a literal separator. -/
  | name (t : Text)
  /-- A separator. -/
  | separator (s : Separator)
  /-- Whether to take separators in. -/
  | flag (on : Bool)

namespace BoundsName

/-- The names. -/
def names : List (String × BoundsName) := [
  ("all", all), ("start", textStart), ("end", textStop), ("startbounds", boundsStart),
  ("endbounds", boundsStop), ("selection", selection), ("BOL", lineStart), ("EOL", lineStop),
  ("line", line), ("lines", line), ("union", union), ("intersection", intersection),
  ("to", forward), ("from", backward), ("whole", around), ("word", wordAround),
  ("sentence", sentenceAround), ("paragraph", paragraphAround), ("section", sectionAround)]

/-- What a name stands for. -/
def ofName? (name : Text) : Option BoundsName :=
  (names.find? fun (n, _) ↦ n.toList = name).map (·.2)

end BoundsName

namespace Bounds

/-- What named bounds depend on, apart from the bounds at hand. -/
structure Setting where
  /-- The text of the document. -/
  text : Text
  /-- The selection of the document. -/
  selection : Bounds
  /-- The settings of the document. -/
  options : Options

/-- The separator in the first argument, and whether the second one asks to take it in. -/
def separatorArguments (name : String) (args : List BoundsArgument) :
    Except BoundsError (Separator × Bool) :=
  let outer := match args with
    | _ :: .flag on :: _ => on
    | _ => false
  match args with
  | .separator s :: _ => .ok (s, outer)
  | .name t :: _ => .ok (.literal t, outer)
  | _ => .error (.badArguments name "expected a separator")

/-- The bounds extended to the matches of a pattern around them. -/
def extendToPattern (t : Text) (source : Text) (args : List BoundsArgument) (b : Bounds) :
    Except BoundsError Bounds :=
  let outer := match args with
    | .flag on :: _ => on
    | _ => false
  match Matcher.ofPattern? {} source with
  | some m => .ok ((Separator.pattern m).extend t outer b)
  | none => .error .badPattern

/-- Named bounds that do not refer to other ones; `b` are the bounds at hand. -/
def basic (s : Setting) (b : Bounds) (name : BoundsName) (args : List BoundsArgument) :
    Except BoundsError Bounds :=
  match name with
  | .all => .ok ⟨0, s.text.length⟩
  | .textStart => .ok (.collapsed 0)
  | .textStop => .ok (.collapsed s.text.length)
  | .boundsStart => .ok (.collapsed b.start)
  | .boundsStop => .ok (.collapsed b.stop)
  | .selection => .ok s.selection
  | .lineStart => .ok (.collapsed (s.text.lineStartFrom b.start))
  | .lineStop => .ok (.collapsed (s.text.lineEndFrom b.stop))
  | .line =>
    match args with
    | [] => .ok (b.toLines s.text)
    | [.number n] => .ok (ofLine s.text n)
    | [.number n, .number m] => .ok (ofLines s.text n m)
    | _ => .error (.badArguments "line" "expected no arguments or one or two line numbers")
  | .union => .error (.badArguments "union" "expected a bounds name")
  | .intersection => .error (.badArguments "intersection" "expected a bounds name")
  | .forward => do
    let (separator, outer) ← separatorArguments "to" args
    return ⟨b.start, separator.extendStop s.text outer b.stop⟩
  | .backward => do
    let (separator, outer) ← separatorArguments "from" args
    return ⟨separator.extendStart s.text outer b.start, b.stop⟩
  | .around => do
    let (separator, outer) ← separatorArguments "whole" args
    return separator.extend s.text outer b
  | .wordAround => extendToPattern s.text "\\W+".toList args b
  | .sentenceAround => extendToPattern s.text "[.!?]\\s+|\\n\\s*\\n".toList args b
  | .paragraphAround => extendToPattern s.text s.options.paragraphs args b
  | .sectionAround => extendToPattern s.text s.options.sections args b

/-- The bounds with a name. The other bounds that a union or an intersection refers to are cut to
the text. -/
def named (s : Setting) (b : Bounds) (name : Text) (args : List BoundsArgument) :
    Except BoundsError Bounds :=
  match BoundsName.ofName? name with
  | none => .error (.unknown name)
  | some found =>
    match found, args with
    | .union, .name other :: rest => do
      return b.union ((← named s b other rest).clamp s.text.length)
    | .intersection, .name other :: rest => do
      return b.intersection ((← named s b other rest).clamp s.text.length)
    | found, args => basic s b found args

end Bounds

end LineEditor
