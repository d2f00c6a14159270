import LineEditor.Config
import LineEditor.Yaml.Reader

/-!
# Configuration files

A configuration is stored as a YAML mapping. Entries that are missing have their default values and
unknown entries are ignored. A file that cannot be read as a configuration, be it malformed or be a
single value of the wrong kind, counts as if it were not there: everything has its default value.
-/

namespace LineEditor

/-! ## Reading -/

namespace Yaml.Node

/-- The text of a scalar. -/
def text? : Node → Option Text
  | scalar _ t => some t
  | _ => none

/-- The truth value of a plain scalar. -/
def bool? : Node → Option Bool
  | scalar true t => Yaml.bool? t
  | _ => none

/-- The integer of a plain scalar, between two limits. -/
def integer? (least greatest : Int) : Node → Option Int
  | scalar true t => (Yaml.integer? t).filter fun n ↦ least ≤ n && n ≤ greatest
  | _ => none

/-- The count of a plain scalar, which has no minus sign. -/
def count? : Node → Option Nat
  | scalar true t =>
    if t.head? = some '-' then none
    else ((Yaml.integer? t).map Int.toNat).filter (· < Text.countLimit)
  | _ => none

/-- The values of a record by the names of its fields, `none` if a name appears twice or is no
scalar. A record may be written as a mapping, or as the sequence of its first values; where nothing
is written it has no values. -/
def fields? (names : List String) : Node → Option (List (String × Node))
  | mapping entries => entries.foldrM addEntry []
  | sequence items =>
    if items.length ≤ names.length then some (names.zip items) else none
  | scalar true [] => some []
  | _ => none
where
  /-- Adds an entry of a mapping, unless its name is unknown. -/
  addEntry (entry : Node × Node) (found : List (String × Node)) :
      Option (List (String × Node)) := do
    let name ← entry.1.text?
    match names.find? fun n ↦ n.toList = name with
    | none => some found
    | some n => if found.any (·.1 = n) then none else some ((n, entry.2) :: found)

end Yaml.Node

namespace Config

open Yaml (Node)

/-- The value of a field, or its default value if the field is missing; `none` if the value is of
the wrong kind. -/
def field? {α : Type} (fields : List (String × Node)) (name : String) (read : Node → Option α)
    (default : α) : Option α :=
  match fields.lookup name with
  | some node => read node
  | none => some default

/-- The names of the settings, in the order in which they are written. -/
def settingNames : List String :=
  ["autoindent", "ignorecase", "wrapscan", "magic", "global", "multiline", "tabsize", "shiftwidth",
    "paragraphs", "sections"]

/-- The settings that a value says. -/
def settings? (node : Node) : Option OptionDefaults := do
  let fields ← node.fields? settingNames
  let d : OptionDefaults := {}
  let integer := Node.integer? Text.minInteger Text.maxInteger
  return {
    autoindent := ← field? fields "autoindent" Node.bool? d.autoindent
    ignorecase := ← field? fields "ignorecase" Node.bool? d.ignorecase
    wrapscan := ← field? fields "wrapscan" Node.bool? d.wrapscan
    magic := ← field? fields "magic" Node.bool? d.magic
    global := ← field? fields "global" Node.bool? d.global
    multiline := ← field? fields "multiline" Node.bool? d.multiline
    tabsize := ← field? fields "tabsize" integer d.tabsize
    shiftwidth := ← field? fields "shiftwidth" integer d.shiftwidth
    paragraphs := ← field? fields "paragraphs" Node.text? d.paragraphs
    sections := ← field? fields "sections" Node.text? d.sections }

/-- The names of the parts of a configuration, in the order in which they are written. -/
def partNames : List String :=
  ["options", "history_depth", "focus_suppress_ms", "line_height", "viewport_height"]

/-- The configuration that a value says. -/
def ofNode? (node : Node) : Option Config := do
  let fields ← node.fields? partNames
  let d : Config := {}
  return {
    options := ← field? fields "options" settings? d.options
    historyDepth := ← field? fields "history_depth" Node.count? d.historyDepth
    focusSuppress := ← field? fields "focus_suppress_ms" Node.count? d.focusSuppress
    lineHeight := ← field? fields "line_height" Node.count? d.lineHeight
    viewportHeight := ← field? fields "viewport_height" Node.count? d.viewportHeight }

/-- The configuration in a file; the default one if the file says none. -/
def ofFile (t : Text) : Config := ((Yaml.read? t).bind ofNode?).getD {}

/-! ## Writing -/

/-- A line that gives a name a value, unless the value ends a line itself. -/
def entryLine (name : String) (value : Text) : Text :=
  name.toList ++ ": ".toList ++ value ++ if value.getLast?.any Yaml.isBreak then [] else ['\n']

/-- A truth value as it is written. -/
def ofBool (b : Bool) : Text := if b then "true".toList else "false".toList

/-- The file that says a configuration. -/
def toFile (c : Config) : Text :=
  let o := c.options
  let setting (name : String) (value : Text) : Text := "  ".toList ++ entryLine name value
  "options:\n".toList
    ++ setting "autoindent" (ofBool o.autoindent)
    ++ setting "ignorecase" (ofBool o.ignorecase)
    ++ setting "wrapscan" (ofBool o.wrapscan)
    ++ setting "magic" (ofBool o.magic)
    ++ setting "global" (ofBool o.global)
    ++ setting "multiline" (ofBool o.multiline)
    ++ setting "tabsize" (Text.ofInt o.tabsize)
    ++ setting "shiftwidth" (Text.ofInt o.shiftwidth)
    ++ setting "paragraphs" (Yaml.writeScalar 4 o.paragraphs)
    ++ setting "sections" (Yaml.writeScalar 4 o.sections)
    ++ entryLine "history_depth" (Text.ofNat c.historyDepth)
    ++ entryLine "focus_suppress_ms" (Text.ofNat c.focusSuppress)
    ++ entryLine "line_height" (Text.ofNat c.lineHeight)
    ++ entryLine "viewport_height" (Text.ofNat c.viewportHeight)

end Config

end LineEditor
