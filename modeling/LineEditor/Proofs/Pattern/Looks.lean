import LineEditor.Proofs.Pattern.Placing
import LineEditor.Text.Lines

/-!
# The conditions of a pattern

The steps of a program check those conditions only that the pattern is written with. A condition
that does not ask for the start of the text cannot tell a line that is alone from one that stands
behind a separator: a separator starts lines as the start of the text does, and it is in no word.
So a search that begins behind a separator finds what it would find in the text behind it alone.
-/

namespace LineEditor.Pattern

/-- The conditions that an expression is made with. -/
def Expr.looks : Expr → List Look
  | .empty | .set _ => []
  | .look l => [l]
  | .group _ e => e.looks
  | .seq e f | .alt e f => e.looks ++ f.looks
  | .rep e .. => e.looks

namespace Program

/-! ## Writing steps -/

/-- The step checks none but the given conditions. -/
def Step.ChecksOnly (ls : List Look) : Step → Prop
  | .check l _ => l ∈ ls
  | _ => True

/-- So do the steps. -/
def ChecksOnly (ls : List Look) (steps : Array Step) : Prop :=
  ∀ step ∈ steps, Step.ChecksOnly ls step

/-- What is written checks none but the given conditions. -/
def WritesOnly {α : Type} (ls : List Look) (w : Writer α) : Prop :=
  ∀ steps, ChecksOnly ls steps → ChecksOnly ls (w.run steps).2

variable {α β : Type} {ls : List Look}

theorem writesOnly_pure (a : α) : WritesOnly ls (pure a : Writer α) := fun _ h ↦ h

theorem WritesOnly.bind {w : Writer α} {f : α → Writer β} (hw : WritesOnly ls w)
    (hf : ∀ a, WritesOnly ls (f a)) : WritesOnly ls (w >>= f) :=
  fun steps h ↦ hf _ _ (hw steps h)

theorem writesOnly_add {step : Step} (h : Step.ChecksOnly ls step) :
    WritesOnly ls (add step) := by
  intro steps hsteps s hs
  rcases Array.mem_push.mp hs with hs | rfl
  · exact hsteps s hs
  · exact h

theorem writesOnly_put {step : Step} (address : Nat) (h : Step.ChecksOnly ls step) :
    WritesOnly ls (put address step) := by
  intro steps hsteps s hs
  rcases Array.mem_or_eq_of_mem_setIfInBounds hs with hs | rfl
  · exact hsteps s hs
  · exact h

theorem checksOnly_choice (greedy : Bool) (part next : Nat) :
    Step.ChecksOnly ls (choice greedy part next) := by
  cases greedy <;> trivial

theorem checksOnly_accept : Step.ChecksOnly ls .accept := trivial

section Parts

variable {part : Nat → Writer Nat} (hpart : ∀ next, WritesOnly ls (part next))

include hpart

theorem writesOnly_copies (count next : Nat) : WritesOnly ls (copies part count next) := by
  induction count with
  | zero => exact writesOnly_pure next
  | succ count ih => exact ih.bind hpart

theorem writesOnly_options (greedy : Bool) (count next : Nat) :
    WritesOnly ls (options part greedy count next) := by
  induction count with
  | zero => exact writesOnly_pure next
  | succ count ih =>
    exact ih.bind fun entry ↦ (hpart entry).bind fun _ ↦
      writesOnly_add (checksOnly_choice greedy _ next)

theorem writesOnly_loop (greedy : Bool) (next : Nat) :
    WritesOnly ls (loop part greedy next) :=
  (writesOnly_add checksOnly_accept).bind fun back ↦ (hpart back).bind fun entry ↦
    (writesOnly_put back (checksOnly_choice greedy entry next)).bind fun _ ↦ writesOnly_pure entry

end Parts

/-- An expression is written with its own conditions. -/
theorem writesOnly_write {e : Expr} (h : e.looks ⊆ ls) (next : Nat) :
    WritesOnly ls (write e next) := by
  induction e generalizing next with
  | empty => exact writesOnly_pure next
  | set s => exact writesOnly_add (by trivial)
  | look l => exact writesOnly_add (h (List.mem_singleton_self l))
  | group index e ih =>
    exact (writesOnly_add (by trivial)).bind fun stop ↦ (ih h stop).bind fun _ ↦
      writesOnly_add (by trivial)
  | seq e f ihe ihf =>
    obtain ⟨he, hf⟩ := List.append_subset.mp h
    exact (ihf hf next).bind (ihe he)
  | alt e f ihe ihf =>
    obtain ⟨he, hf⟩ := List.append_subset.mp h
    exact (ihe he next).bind fun _ ↦ (ihf hf next).bind fun _ ↦
      writesOnly_add (by trivial)
  | rep e least most greedy ih =>
    have hpart := ih h
    cases most with
    | some most =>
      exact (writesOnly_options hpart greedy _ next).bind (writesOnly_copies hpart least)
    | none =>
      cases least with
      | succ least =>
        exact (writesOnly_loop hpart greedy next).bind (writesOnly_copies hpart least)
      | zero =>
        rw [write]
        split
        · exact (writesOnly_loop hpart greedy next).bind fun entry ↦
            writesOnly_add (checksOnly_choice greedy entry next)
        · exact (writesOnly_add checksOnly_accept).bind fun back ↦ (hpart back).bind fun entry ↦
            (writesOnly_put back (checksOnly_choice greedy entry next)).bind fun _ ↦
              writesOnly_pure back

/-- The program of an expression checks the conditions of the expression only. -/
theorem checksOnly_ofExpr (e : Expr) (groups : Nat) :
    ChecksOnly e.looks (ofExpr e groups).steps := by
  have hwrites : WritesOnly e.looks (do write (.group 0 e) (← add .accept) : Writer Nat) :=
    (writesOnly_add checksOnly_accept).bind (writesOnly_write (List.Subset.refl _))
  exact hwrites #[] fun step hstep ↦ absurd hstep (Array.not_mem_empty step)

/-! ## Behind a separator -/

/-- A separator is in no word. -/
theorem inWord_separator (unicode : Bool) :
    Look.inWord unicode (some Text.separator) = Look.inWord unicode none := rfl

/-- A separator in front is like nothing in front, unless the start of the text is asked for. -/
theorem holds_separator {l : Look} (h : l ≠ .textStart) (after : Option Char) :
    l.holds (some Text.separator) after = l.holds none after := by
  cases l with
  | textStart => exact absurd rfl h
  | textEnd | lineEnd | wordEndHalf => rfl
  | lineStart | lineStartReturn => rfl
  | lineEndReturn => simp [Look.holds, Text.separator]
  | wordBoundary u | notWordBoundary u | wordStart u | wordEnd u | wordStartHalf u =>
    rw [Look.holds, Look.holds, inWord_separator]

theorem alike_separator {e : Expr} (h : .textStart ∉ e.looks) (groups : Nat) :
    (ofExpr e groups).Alike (some Text.separator) none := by
  intro address l next after hstep
  have hmem := checksOnly_ofExpr e groups _ (Array.mem_of_getElem? hstep)
  exact holds_separator (fun heq ↦ h (heq ▸ hmem)) after

end Program

end LineEditor.Pattern
