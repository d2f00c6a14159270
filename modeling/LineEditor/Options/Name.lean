import LineEditor.Text.Basic

/-!
# Option names

The options of a document by name. The kind of an option says what values it takes and how they are
written: a flag is on or off, a number is an integer, a pattern is a text that can be read as a
pattern, and a text is any text.
-/

namespace LineEditor

/-- An option. -/
inductive OptionName where
  | autoindent
  | ignorecase
  | wrapscan
  | magic
  | global
  | multiline
  | tabsize
  | shiftwidth
  | paragraphs
  | sections
  | file
  | directory
  deriving DecidableEq, Inhabited

/-- What values an option takes. -/
inductive OptionKind where
  | flag
  | number
  | pattern
  | text
  deriving DecidableEq, Inhabited

namespace OptionName

/-- All options, in the order in which they are listed. -/
def all : List OptionName :=
  [autoindent, ignorecase, wrapscan, magic, global, multiline, tabsize, shiftwidth, paragraphs,
    sections, file, directory]

/-- The full name. -/
def name : OptionName → Text
  | autoindent => "autoindent".toList
  | ignorecase => "ignorecase".toList
  | wrapscan => "wrapscan".toList
  | magic => "magic".toList
  | global => "global".toList
  | multiline => "multiline".toList
  | tabsize => "tabsize".toList
  | shiftwidth => "shiftwidth".toList
  | paragraphs => "paragraphs".toList
  | sections => "sections".toList
  | file => "file".toList
  | directory => "directory".toList

/-- The short name, if there is one. -/
def short? : OptionName → Option Text
  | autoindent => some "ai".toList
  | ignorecase => some "ic".toList
  | wrapscan => some "ws".toList
  | tabsize => some "ts".toList
  | shiftwidth => some "sw".toList
  | paragraphs => some "para".toList
  | sections => some "sect".toList
  | directory => some "dir".toList
  | magic | global | multiline | file => none

/-- The kind. -/
def kind : OptionName → OptionKind
  | autoindent | ignorecase | wrapscan | magic | global | multiline => .flag
  | tabsize | shiftwidth => .number
  | paragraphs | sections => .pattern
  | file | directory => .text

/-- The option with a full or short name. -/
def ofName? (name : Text) : Option OptionName :=
  all.find? fun o ↦ o.name = name || o.short? = some name

theorem mem_all (o : OptionName) : o ∈ all := by cases o <;> simp [all]

/-- Every option is found under its full name. -/
theorem ofName?_name (o : OptionName) : ofName? o.name = some o := by cases o <;> rfl

/-- Every option is found under its short name. -/
theorem ofName?_of_short? {o : OptionName} {short : Text} (h : o.short? = some short) :
    ofName? short = some o := by
  cases o <;> simp only [short?, Option.some.injEq, reduceCtorEq] at h <;> subst h <;> rfl

end OptionName

end LineEditor
