import LineEditor.Proofs.Document.Joining
import LineEditor.Proofs.Session.Deleting

/-!
# Joining lines

A command that joins lines is given a span or a count, and takes at least two lines if there are any
behind the first one. If there is none, it does nothing. The lines are put together as documents do
it, and the one that they become takes their place.
-/

namespace LineEditor

open Text (words worded leadingOf trailingOf)
open Document (joinedText)

/-- The lines that are joined: those of the span, or as many as counted from its first one on. -/
def Span.toJoin (span : Span) (count : Option Nat) (total : Nat) : Span :=
  let first := max span.first 1
  let last := match count with
    | some n => first + max n 2 - 1
    | none => if first < span.last then span.last else first + 1
  ⟨first, min last total⟩

/-- A span of several lines is taken as it is, if it is not counted anew. -/
theorem Span.toJoin_none {span : Span} {total : Nat} (hfirst : 1 ≤ span.first)
    (hlt : span.first < span.last) (hlast : span.last ≤ total) : span.toJoin none total = span := by
  simp only [toJoin, Nat.max_eq_left hfirst, if_pos hlt, Nat.min_eq_left hlast]

/-- Lines that are to be joined are counted, if there are several. -/
theorem Span.isCounted_toJoin {span : Span} {count : Option Nat} {total : Nat}
    (h : (span.toJoin count total).first < (span.toJoin count total).last) :
    (span.toJoin count total).IsCounted total :=
  ⟨Nat.le_max_right _ _, Nat.le_of_lt h, Nat.min_le_right _ _⟩

theorem Document.placesLines_congr {d d' : Document} (h : d'.surface = d.surface) (first last : Nat)
    (new : List Text) : d'.PlacesLines first last new ↔ d.PlacesLines first last new := by
  rw [PlacesLines, PlacesLines, Document.text, Document.text, h]

namespace Run

variable {c : Command} {name : CommandName} {span : Span} {s s₁ s₂ : Scene} {parameter : Text}
  {count : Option Nat} {register : Option Char}

/-- Several lines are joined; a single one stays. -/
theorem run_join (span : Span) (verbatim : Bool)
    (hparameter : (registerAndCount parameter).run s = (.ok (register, count), s)) :
    let lines := span.toJoin count s.document.text.lineCount
    (Run.join span parameter verbatim).run s
      = (.ok (), if lines.first < lines.last
          then s.withDocument (s.document.joinLines s.range lines.first lines.last verbatim)
          else s) := by
  intro lines
  rw [Run.join, run_bind, hparameter]
  change (if lines.first < lines.last then _ else _ : Run Unit).run s = _
  split <;> rfl

end Run

end LineEditor
