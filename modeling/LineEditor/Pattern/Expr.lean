import LineEditor.Pattern.CharSet

/-!
# Pattern expressions

What a pattern says once its flags are worked in: which characters it takes, where it looks around,
and how its parts are repeated, grouped and joined.
-/

namespace LineEditor.Pattern

/-- A condition on a place between two characters. -/
inductive Look where
  /-- The start of the text. -/
  | textStart
  /-- The end of the text. -/
  | textEnd
  /-- The start of a line. -/
  | lineStart
  /-- The end of a line. -/
  | lineEnd
  /-- The start of a line, where a carriage return also ends lines. -/
  | lineStartReturn
  /-- The end of a line, where a carriage return also ends lines. -/
  | lineEndReturn
  /-- A word starts or ends. -/
  | wordBoundary (unicode : Bool)
  /-- No word starts or ends. -/
  | notWordBoundary (unicode : Bool)
  /-- A word starts. -/
  | wordStart (unicode : Bool)
  /-- A word ends. -/
  | wordEnd (unicode : Bool)
  /-- No word character stands before. -/
  | wordStartHalf (unicode : Bool)
  /-- No word character stands behind. -/
  | wordEndHalf (unicode : Bool)
  deriving DecidableEq

namespace Look

/-- The character stands in a word. ASCII characters are told without the tables. -/
def inWord (unicode : Bool) (c : Option Char) : Bool :=
  match c with
  | some c =>
    if c.toNat < 128 then c.isAlphanum || c = '_' else (CharSet.word unicode).contains c
  | none => false

/-- The condition holds between the given neighbours; a missing neighbour is an end of the text. -/
def holds (look : Look) (before after : Option Char) : Bool :=
  match look with
  | textStart => before.isNone
  | textEnd => after.isNone
  | lineStart => before.isNone || before = some '\n'
  | lineEnd => after.isNone || after = some '\n'
  | lineStartReturn =>
    before.isNone || before = some '\n' || (before = some '\r' && after ≠ some '\n')
  | lineEndReturn =>
    after.isNone || after = some '\r' || (after = some '\n' && before ≠ some '\r')
  | wordBoundary u => inWord u before != inWord u after
  | notWordBoundary u => inWord u before == inWord u after
  | wordStart u => !inWord u before && inWord u after
  | wordEnd u => inWord u before && !inWord u after
  | wordStartHalf u => !inWord u before
  | wordEndHalf u => !inWord u after

end Look

/-- A pattern expression. -/
inductive Expr where
  /-- Takes nothing. -/
  | empty
  /-- Takes one character of a set. -/
  | set (s : CharSet)
  /-- Takes nothing where a condition holds. -/
  | look (l : Look)
  /-- Remembers what is taken inside. -/
  | group (index : Nat) (e : Expr)
  /-- One after the other. -/
  | seq (e f : Expr)
  /-- Either; the first is preferred. -/
  | alt (e f : Expr)
  /-- Between `least` and `most` times, many preferred if greedy. -/
  | rep (e : Expr) (least : Nat) (most : Option Nat) (greedy : Bool)
  deriving Inhabited

namespace Expr

/-- The expression can take nothing. -/
def nullable : Expr → Bool
  | empty => true
  | set _ => false
  | look _ => true
  | group _ e => e.nullable
  | seq e f => e.nullable && f.nullable
  | alt e f => e.nullable || f.nullable
  | rep e least _ _ => least = 0 || e.nullable

/-- The expression never takes a character. -/
def onlyEmpty : Expr → Bool
  | empty => true
  | set _ => false
  | look _ => true
  | group _ e => e.onlyEmpty
  | seq e f => e.onlyEmpty && f.onlyEmpty
  | alt e f => e.onlyEmpty && f.onlyEmpty
  | rep e _ most _ => most = some 0 || e.onlyEmpty

/-- A repetition, with rounds that can change nothing left out: an expression that never takes a
character is tried once at most, no rounds are the empty expression, and one round is the
expression itself. -/
def repeated (e : Expr) (least : Nat) (most : Option Nat) (greedy : Bool) : Expr :=
  let (least, most) :=
    if e.onlyEmpty then (min least 1, some ((most.map (min · 1)).getD 1)) else (least, most)
  if most = some 0 then empty
  else if least = 1 && most = some 1 then e
  else rep e least most greedy

/-- The number of steps the expression is made of, repetitions written out. -/
def size : Expr → Nat
  | empty | set _ | look _ => 1
  | group _ e => e.size + 2
  | seq e f => e.size + f.size
  | alt e f => e.size + f.size + 2
  | rep e least most _ => (e.size + 1) * max (most.getD (least + 1)) 1 + 1

/-- Expressions larger than this are refused. -/
def sizeLimit : Nat := 300000

/-- The groups of the expression are counted from one. -/
def IsNumbered : Expr → Prop
  | empty | set _ | look _ => True
  | group index e => 1 ≤ index ∧ e.IsNumbered
  | seq e f | alt e f => e.IsNumbered ∧ f.IsNumbered
  | rep e .. => e.IsNumbered

theorem IsNumbered.repeated {e : Expr} (h : e.IsNumbered) (least : Nat) (most : Option Nat)
    (greedy : Bool) : (e.repeated least most greedy).IsNumbered := by
  unfold Expr.repeated
  split
  split
  · trivial
  · split
    · exact h
    · exact h

end Expr

end LineEditor.Pattern
