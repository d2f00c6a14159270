import LineEditor.Pattern.Machine
import LineEditor.Pattern.Reader

/-!
# Patterns

A pattern, once read, is nothing but a way to find matches: a `Matcher` answers, for a text and an
offset, the first match at or after the offset. Searching and replacing are defined for any matcher.
-/

namespace LineEditor

/-- A way to find matches in texts. -/
structure Matcher where
  /-- The first match that starts at or after an offset; what stands before it is seen, too. -/
  firstFrom : Text → Nat → Option Pattern.Captures

namespace Matcher

/-- Somewhere in the text there is a match. -/
def occursIn (m : Matcher) (t : Text) : Bool := (m.firstFrom t 0).isSome

/-- The matcher of a pattern, `none` if it is malformed. -/
def ofPattern? (flags : Pattern.Flags) (source : Text) : Option Matcher :=
  (Pattern.parse? flags source).map fun p ↦ ⟨(Pattern.Program.ofExpr p.expr p.groups).search⟩

end Matcher

end LineEditor
