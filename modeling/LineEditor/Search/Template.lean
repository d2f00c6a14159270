import LineEditor.Pattern.Machine
import LineEditor.Text.Case

/-!
# Replacement templates

A template says what a match is replaced by. `&` stands for the whole match and `\0` to `\9` for
its groups, `\n` and `\t` for a line separator and a tab. `\u` and `\l` change the case of the next
character, `\U` and `\L` that of all characters up to `\E` or `\e`. Any other character behind a
backslash stands for itself. Without magic `&` is written `\&`.

Before that, `~` stands for the previous template, or `\~` without magic; `resolvePrevious` puts it
in.
-/

namespace LineEditor.Template

/-- A change of case. -/
inductive Case where
  | capital
  | small
  deriving DecidableEq

/-- The changes of case in force: for the next character only, and until further notice. -/
structure Casing where
  /-- For the next character. -/
  next : Option Case := none
  /-- For all characters that follow. -/
  span : Option Case := none

/-- A character under a change of case. -/
def casedChar (change : Option Case) (c : Char) : Text :=
  match change with
  | some .capital => Text.capital c
  | some .small => Text.small c
  | none => [c]

/-- A text under the changes of case in force. The change for the next character is spent on the
first one. -/
def cased (casing : Casing) : Text → Text
  | [] => []
  | c :: rest => casedChar (casing.next.or casing.span) c ++ rest.flatMap (casedChar casing.span)

/-- The changes of case that remain in force after a text. -/
def Casing.after (casing : Casing) (t : Text) : Casing :=
  if t = [] then casing else { casing with next := none }

/-- The value of a decimal digit. -/
private def digitValue (c : Char) : Nat := c.toNat - '0'.toNat

/-- Expands the rest of a template; `group` gives the text of each group. -/
def expandFrom (group : Nat → Text) (magic : Bool) : Text → Casing → Text
  | [], _ => []
  | ['\\'], _ => ['\\']
  | '\\' :: c :: rest, casing =>
    let insert (t : Text) := cased casing t ++ expandFrom group magic rest (casing.after t)
    match c with
    | 'n' => '\n' :: expandFrom group magic rest casing
    | 't' => '\t' :: expandFrom group magic rest casing
    | 'u' => expandFrom group magic rest { casing with next := some .capital }
    | 'l' => expandFrom group magic rest { casing with next := some .small }
    | 'U' => expandFrom group magic rest { casing with span := some .capital }
    | 'L' => expandFrom group magic rest { casing with span := some .small }
    | 'E' | 'e' => expandFrom group magic rest { casing with span := none }
    | c =>
      if c.isDigit then insert (group (digitValue c))
      else if c = '&' && !magic then insert (group 0)
      else insert [c]
  | c :: rest, casing =>
    let t := if c = '&' && magic then group 0 else [c]
    cased casing t ++ expandFrom group magic rest (casing.after t)

/-- The text that a template gives for a match in `hay`. -/
def expand (template hay : Text) (c : Pattern.Captures) (magic : Bool) : Text :=
  let group (index : Nat) : Text :=
    (c.group? index).elim [] fun b ↦ hay.slice b.start b.stop
  expandFrom group magic template {}

/-- The template with the previous one put in where it is called for. -/
def resolvePrevious (previous : Text) (magic : Bool) : (template : Text) → Text
  | [] => []
  | ['\\'] => ['\\']
  | '\\' :: c :: rest =>
    (if c = '~' && !magic then previous else ['\\', c]) ++ resolvePrevious previous magic rest
  | c :: rest =>
    (if c = '~' && magic then previous else [c]) ++ resolvePrevious previous magic rest

end LineEditor.Template
