import LineEditor.Options.Name
import LineEditor.Pattern
import LineEditor.Text.Blank
import LineEditor.Text.Escaped
import LineEditor.Text.Lines
import LineEditor.Text.Numeral
import LineEditor.Text.Quoted

/-!
# Options

The settings of a document. All ways to change one end in `set`, which refuses a value of the wrong
kind and a text that is no pattern where one is needed, and changes nothing else. Requests come in
two forms: as a token of the `set` command (`name`, `noname`, `invname`, `name!`, `name=value`,
`name?`, `all`) or as the option's own command. A request either shows something or assigns one
value, and `Answer` says which.
-/

namespace LineEditor

/-- A value of an option. -/
inductive OptionValue where
  | flag (on : Bool)
  | number (n : Int)
  | text (t : Text)
  deriving DecidableEq, Inhabited

namespace OptionValue

/-- The value as messages show it. -/
def shown : OptionValue → Text
  | flag on => "Bool(".toList ++ (if on then "true".toList else "false".toList) ++ [')']
  | number n => "Number(".toList ++ Text.ofInt n ++ [')']
  | text t => "Text(".toList ++ Text.Escaped.encode t ++ [')']

/-- The value as it is listed: `on` or `off`, a number in brackets, a text in quotes. -/
def listed : OptionValue → Text
  | flag on => if on then "on".toList else "off".toList
  | number n => '[' :: Text.ofInt n ++ [']']
  | text t => Text.Quoted.encode t

end OptionValue

/-- Why a request about an option is refused. -/
inductive OptionError where
  /-- No option has the name. -/
  | unknown (name : Text)
  /-- Only a flag can be switched. -/
  | notFlag (option : OptionName)
  /-- The text cannot be read as a value. -/
  | badValue (option : OptionName) (raw : Text)
  /-- The value is of another kind than the option. -/
  | wrongKind (option : OptionName) (value : OptionValue)
  /-- The text is no pattern. -/
  | badPattern (option : OptionName)
  deriving DecidableEq

namespace OptionError

/-- The message of an error. What is wrong with a pattern is not said. -/
def message : OptionError → Text
  | unknown name => "unknown option: ".toList ++ name
  | notFlag option => option.name ++ " is not a boolean option".toList
  | badValue option raw => option.name ++ ": bad value ".toList ++ Text.Escaped.encode raw
  | wrongKind option value => option.name ++ ": wrong kind of value ".toList ++ value.shown
  | badPattern option => option.name ++ ": <pattern>".toList

end OptionError

/-- The settings of a document. -/
structure Options where
  /-- Inserted lines are indented like their neighbour. -/
  autoindent : Bool := false
  /-- Searches ignore case. -/
  ignorecase : Bool := false
  /-- Searches go on at the other end of the text. -/
  wrapscan : Bool := true
  /-- Patterns and templates have special characters. -/
  magic : Bool := true
  /-- Substitution replaces all matches of a line. -/
  global : Bool := false
  /-- Patterns look for ends of lines. -/
  multiline : Bool := false
  /-- The distance between tab stops. -/
  tabsize : Int := 4
  /-- The number of columns by which lines are shifted. -/
  shiftwidth : Int := 4
  /-- The pattern between paragraphs. -/
  paragraphs : Text := "\\n[ \\t]*\\n".toList
  /-- The pattern between sections. -/
  sections : Text := "\\n[ \\t]*\\n[ \\t]*\\n".toList
  /-- The file the document belongs to. -/
  file : Text := []
  /-- The directory files are looked for in. -/
  directory : Text := []
  deriving DecidableEq, Inhabited

/-- What a request about an option comes to. -/
inductive Answer where
  /-- A text to show. -/
  | shown (t : Text)
  /-- An option was set to a value. -/
  | assigned (option : OptionName) (value : OptionValue)
  deriving DecidableEq

namespace Options

/-- The value of an option. -/
def get (o : Options) : OptionName → OptionValue
  | .autoindent => .flag o.autoindent
  | .ignorecase => .flag o.ignorecase
  | .wrapscan => .flag o.wrapscan
  | .magic => .flag o.magic
  | .global => .flag o.global
  | .multiline => .flag o.multiline
  | .tabsize => .number o.tabsize
  | .shiftwidth => .number o.shiftwidth
  | .paragraphs => .text o.paragraphs
  | .sections => .text o.sections
  | .file => .text o.file
  | .directory => .text o.directory

/-- The value of a flag; other options read as off. -/
def flag (o : Options) (option : OptionName) : Bool :=
  match o.get option with
  | .flag on => on
  | _ => false

/-- The value of a number; other options read as zero. -/
def number (o : Options) (option : OptionName) : Int :=
  match o.get option with
  | .number n => n
  | _ => 0

/-- The text of an option, if it has one. -/
def text? (o : Options) (option : OptionName) : Option Text :=
  match o.get option with
  | .text t => some t
  | _ => none

/-- The options with a value put in its place, `none` if it is of the wrong kind. -/
def put? (o : Options) (option : OptionName) (value : OptionValue) : Option Options :=
  match option, value with
  | .autoindent, .flag on => some { o with autoindent := on }
  | .ignorecase, .flag on => some { o with ignorecase := on }
  | .wrapscan, .flag on => some { o with wrapscan := on }
  | .magic, .flag on => some { o with magic := on }
  | .global, .flag on => some { o with global := on }
  | .multiline, .flag on => some { o with multiline := on }
  | .tabsize, .number n => some { o with tabsize := n }
  | .shiftwidth, .number n => some { o with shiftwidth := n }
  | .paragraphs, .text t => some { o with paragraphs := t }
  | .sections, .text t => some { o with sections := t }
  | .file, .text t => some { o with file := t }
  | .directory, .text t => some { o with directory := t }
  | _, _ => none

/-- The text can be read as a pattern. -/
def isPattern (t : Text) : Bool := (Matcher.ofPattern? {} t).isSome

/-- Sets an option. -/
def set (o : Options) (option : OptionName) (value : OptionValue) : Except OptionError Options :=
  match o.put? option value with
  | none => .error (.wrongKind option value)
  | some o' =>
    match option.kind, value with
    | .pattern, .text t => if isPattern t then .ok o' else .error (.badPattern option)
    | _, _ => .ok o'

/-- The option with its value, as it is listed. -/
def describe (o : Options) (option : OptionName) : Text :=
  option.name ++ ' ' :: (o.get option).listed

/-- All options with their values. -/
def describeAll (o : Options) : List Text := OptionName.all.map o.describe

/-! ## Requests -/

/-- The text behind quotes, where a text is one quoted text; any other text stands for itself. -/
def unquote (raw : Text) : Text := (Text.Quoted.decode? raw).getD raw

/-- The value written for an option. -/
def parseValue (option : OptionName) (raw : Text) : Except OptionError OptionValue :=
  match option.kind with
  | .flag =>
    if raw ∈ ["on".toList, "true".toList, "1".toList] then .ok (.flag true)
    else if raw ∈ ["off".toList, "false".toList, "0".toList] then .ok (.flag false)
    else .error (.badValue option raw)
  | .number =>
    match Text.integer? (Text.trim raw) with
    | some n => .ok (.number n)
    | none => .error (.badValue option raw)
  | .pattern | .text => .ok (.text (unquote raw))

/-- Sets an option and answers so. -/
def assign (o : Options) (option : OptionName) (value : OptionValue) :
    Except OptionError (Options × Answer) := do
  return (← o.set option value, .assigned option value)

/-- Sets an option to the value written for it. -/
def assignWritten (o : Options) (option : OptionName) (raw : Text) :
    Except OptionError (Options × Answer) := do
  o.assign option (← parseValue option raw)

/-- Switches a flag. -/
def toggle (o : Options) (option : OptionName) : Except OptionError (Options × Answer) :=
  if option.kind = .flag then o.assign option (.flag !o.flag option)
  else .error (.notFlag option)

/-- Switches a flag off. -/
def switchOff (o : Options) (option : OptionName) : Except OptionError (Options × Answer) :=
  if option.kind = .flag then o.assign option (.flag false) else .error (.notFlag option)

/-- The option's own command. Without a parameter a flag is switched on, or with `!` to its other
value, and other options are shown; `?` shows; any other parameter is a value. -/
def command (o : Options) (option : OptionName) (parameter : Text) (bang : Bool) :
    Except OptionError (Options × Answer) :=
  let parameter := Text.trim parameter
  if parameter = ['?'] then .ok (o, .shown (o.describe option))
  else if parameter = [] then
    if option.kind ≠ .flag then .ok (o, .shown (o.describe option))
    else if bang then o.toggle option
    else o.assign option (.flag true)
  else o.assignWritten option parameter

/-- The option with a name. -/
def named (name : Text) : Except OptionError OptionName :=
  match OptionName.ofName? name with
  | some option => .ok option
  | none => .error (.unknown name)

/-- The option named by a token behind a lead such as `no`. -/
def behind? (lead : String) (token : Text) : Option OptionName :=
  (Text.dropLead? lead.toList token).bind OptionName.ofName?

/-- One token of the `set` command. -/
def applyToken (o : Options) (token : Text) : Except OptionError (Options × Answer) :=
  if token = "all".toList then .ok (o, .shown (Text.unlines o.describeAll))
  else match token.span (· ≠ '=') with
  | (name, _ :: raw) => do o.assignWritten (← named name) raw
  | (_, []) =>
    match Text.dropFinal? token '?', Text.dropFinal? token '!' with
    | some name, _ => do
      let option ← named name
      return (o, .shown (o.describe option))
    | none, some name => do o.toggle (← named name)
    | none, none =>
      match OptionName.ofName? token, behind? "inv" token, behind? "no" token with
      | some option, _, _ => o.command option [] false
      | none, some option, _ => o.toggle option
      | none, none, some option => o.switchOff option
      | none, none, none => .error (.unknown token)

/-! ## Tokens -/

/-- Where a reader of tokens stands: outside quotes, inside, or behind a backslash inside. -/
inductive TokenState where
  | plain
  | quoted
  | escaped

/-- The tokens of the rest of a parameter, `current` being the token read so far, last character
first. -/
def tokensFrom : TokenState → (current : Text) → Text → List Text
  | _, current, [] => if current = [] then [] else [current.reverse]
  | .escaped, current, c :: rest => tokensFrom .quoted (c :: current) rest
  | .quoted, current, c :: rest =>
    tokensFrom (if c = '\\' then .escaped else if c = '"' then .plain else .quoted)
      (c :: current) rest
  | .plain, current, c :: rest =>
    if c = '"' then tokensFrom .quoted (c :: current) rest
    else if Text.isBlank c then
      if current = [] then tokensFrom .plain [] rest
      else current.reverse :: tokensFrom .plain [] rest
    else tokensFrom .plain (c :: current) rest

/-- The tokens of a parameter: its pieces between blanks, quoted text being kept whole. -/
def tokens (parameter : Text) : List Text := tokensFrom .plain [] parameter

/-! ## Laws -/

theorem get_of_put? {o o' : Options} {option : OptionName} {value : OptionValue}
    (h : o.put? option value = some o') : o'.get option = value := by
  cases option <;> cases value <;> simp only [put?, Option.some.injEq, reduceCtorEq] at h <;>
    subst h <;> rfl

theorem put?_of_set {o o' : Options} {option : OptionName} {value : OptionValue}
    (h : o.set option value = .ok o') : o.put? option value = some o' := by
  unfold set at h
  split at h
  · simp at h
  · next hp =>
    rw [hp]
    split at h
    · split at h <;> simp_all
    · simp_all

/-- An option that has been set reads as the value it was set to. -/
theorem get_of_set {o o' : Options} {option : OptionName} {value : OptionValue}
    (h : o.set option value = .ok o') : o'.get option = value :=
  get_of_put? (put?_of_set h)

end Options

end LineEditor
