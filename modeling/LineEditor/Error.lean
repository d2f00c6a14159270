import LineEditor.Options

/-!
# Errors

Everything that can go wrong, by cause. The wording of messages is in the `message` functions and
nowhere else.
-/

namespace LineEditor

/-- Why a command line cannot be understood. -/
inductive ParseError where
  /-- A quote that should name a mark is followed by none. -/
  | missingMarkName
  /-- The text is not a list of addresses. -/
  | badAddress (source : Text)
  /-- A parameter or `!` without a command. -/
  | missingCommand (source : Text)
  /-- The text is not a positive number of lines. -/
  | badCount (source : Text)
  /-- A move or copy without an address to go to. -/
  | missingDestination
  /-- The character is no flag of a substitution. -/
  | badSubstituteFlag (flag : Char)
  /-- A global command inside another. -/
  | nestedGlobal
  /-- A global command without a pattern between delimiters. -/
  | undelimitedGlobal
  /-- The text is not one character that can name a mark. -/
  | badMarkName (name : Text)
  /-- An empty answer to the question for a file name. -/
  | noFileName
  /-- The register cannot be written. -/
  | readOnlyRegister (register : Char)
  deriving DecidableEq

namespace ParseError

/-- The message of an error. -/
def message : ParseError → Text
  | missingMarkName => "missing mark name".toList
  | badAddress source => "bad address: ".toList ++ source
  | missingCommand source => "missing command: ".toList ++ Text.trim source
  | badCount source => "bad count: ".toList ++ source
  | missingDestination => "missing destination address".toList
  | badSubstituteFlag flag => "bad substitute flag: ".toList ++ [flag]
  | nestedGlobal => "global cannot be nested".toList
  | undelimitedGlobal => "global needs a delimited pattern".toList
  | badMarkName name => "bad mark name: ".toList ++ Text.Escaped.encode name
  | noFileName => "no file name".toList
  | readOnlyRegister register => "cannot write register ".toList ++ [register]

end ParseError

/-- Why named bounds cannot be worked out. -/
inductive BoundsError where
  /-- No bounds have the name. -/
  | unknown (name : Text)
  /-- The arguments are not those the named bounds take. -/
  | badArguments (name reason : String)
  /-- A separator is no pattern. -/
  | badPattern
  deriving DecidableEq

/-- Why an operation fails. -/
inductive Error where
  /-- The command line cannot be understood. -/
  | parse (e : ParseError)
  /-- No command has the name. -/
  | unknownCommand (word : Text)
  /-- The address cannot stand beside others. -/
  | ambiguousAddress (token : Text)
  /-- The mark is not set. -/
  | markNotSet (mark : Char)
  /-- No line matches the pattern. -/
  | patternNotFound (pattern : Text)
  /-- There is no earlier pattern to use again. -/
  | noPreviousPattern
  /-- A request about an option is refused. -/
  | option (e : OptionError)
  /-- The register holds no text. -/
  | emptyRegister (register : Char)
  /-- Changes would be lost. -/
  | unsavedChanges
  /-- The file cannot be written. -/
  | notSaved (file : Text)
  /-- The file cannot be read. -/
  | notLoaded (file : Text)
  /-- A question was left without an answer. -/
  | cancelled
  /-- The surface cannot do this. -/
  | unsupported (operation : String) (surface : Text)
  /-- Named bounds cannot be worked out. -/
  | bounds (e : BoundsError)
  /-- The pattern is malformed. -/
  | badPattern
  /-- The letter is no search flag. -/
  | badFlag (flag : Char)
  deriving DecidableEq

/-- The message of an error about named bounds. -/
def BoundsError.message : BoundsError → Text
  | unknown name => "unknown bounds function: ".toList ++ name
  | badArguments name reason =>
    "bad arguments for bounds function ".toList ++ name.toList ++ ": ".toList ++ reason.toList
  | badPattern => "invalid pattern".toList

/-- The message of an error. -/
def Error.message : Error → Text
  | parse e => e.message
  | unknownCommand word => "not an editor command: ".toList ++ word
  | ambiguousAddress token => "ambiguous address: ".toList ++ token
  | markNotSet mark => "mark not set: ".toList ++ [mark]
  | patternNotFound pattern => "pattern not found: ".toList ++ pattern
  | noPreviousPattern => "no previous regular expression".toList
  | option e => e.message
  | emptyRegister register => "register ".toList ++ register :: " is empty".toList
  | unsavedChanges => "No write since last change (add ! to override)".toList
  | notSaved file => file ++ " not saved".toList
  | notLoaded file => file ++ " not loaded".toList
  | cancelled => "cancelled".toList
  | unsupported operation surface =>
    operation.toList ++ " is not supported by ".toList ++ surface ++ " surfaces".toList
  | bounds e => e.message
  | badPattern => "invalid pattern".toList
  | badFlag flag => "unknown search flag: ".toList ++ [flag]

end LineEditor
