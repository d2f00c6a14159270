/-!
# Text

A text is the list of its characters, and every offset into it counts characters. The two
operations here, cutting a piece out and splicing a piece in, are what every surface, edit and
search is made of. Both accept any offsets: an offset past the end stands for the end.
-/

namespace LineEditor

/-- A text: the list of its characters. -/
abbrev Text := List Char

namespace Text

/-- The characters from `start` up to `stop`, empty when `stop` lies before `start`. -/
def slice (t : Text) (start stop : Nat) : Text :=
  (t.take (max start stop)).drop start

/-- The text with the characters from `start` up to `stop` replaced by `piece`. -/
def splice (t : Text) (start stop : Nat) (piece : Text) : Text :=
  t.take start ++ piece ++ t.drop stop

/-- The pieces of `t` between occurrences of `mark`; there is always at least one. -/
def splitAt (mark : Char) : Text → List Text
  | [] => [[]]
  | c :: rest =>
    if c = mark then [] :: splitAt mark rest
    else match splitAt mark rest with
      | [] => [[c]]
      | piece :: pieces => (c :: piece) :: pieces

/-- The pieces in order, with `glue` between neighbours. -/
def join (glue : Text) : List Text → Text
  | [] => []
  | [piece] => piece
  | piece :: pieces => piece ++ glue ++ join glue pieces

/-- The text after `lead`, or `none` when the text does not begin with it. -/
def dropLead? : (lead : Text) → Text → Option Text
  | [], t => some t
  | _ :: _, [] => none
  | a :: lead, c :: t => if a = c then dropLead? lead t else none

/-- The text without its last character when that is `c`. -/
def dropFinal? (t : Text) (c : Char) : Option Text :=
  if t.getLast? = some c then some t.dropLast else none

/-- The first offset at or after `start` where `piece` occurs. -/
def findFrom (t piece : Text) (start : Nat) : Option Nat :=
  (List.range (t.length + 1 - start)).findSome? fun i ↦
    if piece.isPrefixOf (t.drop (start + i)) then some (start + i) else none

/-- The last offset where `piece` occurs and ends at or before `stop`. -/
def findLastBefore (t piece : Text) (stop : Nat) : Option Nat :=
  let hay := t.take stop
  (List.range (hay.length + 1)).reverse.find? fun i ↦ piece.isPrefixOf (hay.drop i)

/-! ## Laws of cutting and joining -/

/-- What is cut out goes on where the text in front of it ends. -/
theorem take_append_slice (t : Text) (start stop : Nat) :
    t.take start ++ t.slice start stop = t.take (max start stop) := by
  have hcut := List.take_append_drop start (t.take (max start stop))
  rwa [List.take_take, Nat.min_eq_left (Nat.le_max_left _ _)] at hcut

@[simp] theorem slice_zero_length (t : Text) : t.slice 0 t.length = t := by
  simp [slice]

theorem length_slice (t : Text) (start stop : Nat) :
    (t.slice start stop).length = min (max start stop) t.length - start := by
  simp [slice]

theorem slice_eq_nil_of_le (t : Text) {start stop : Nat} (h : stop ≤ start) :
    t.slice start stop = [] := by
  simp [slice, Nat.max_eq_left h]

theorem splitAt_ne_nil (mark : Char) (t : Text) : splitAt mark t ≠ [] := by
  cases t with
  | nil => simp [splitAt]
  | cons c rest =>
    simp only [splitAt]
    split
    · simp
    · split <;> simp

theorem join_cons (glue piece : Text) {pieces : List Text} (h : pieces ≠ []) :
    join glue (piece :: pieces) = piece ++ glue ++ join glue pieces := by
  cases pieces with
  | nil => exact absurd rfl h
  | cons _ _ => rfl

/-- Splitting at a mark and joining with it gives the text back. -/
theorem join_splitAt (mark : Char) (t : Text) : join [mark] (splitAt mark t) = t := by
  induction t with
  | nil => rfl
  | cons c rest ih =>
    simp only [splitAt]
    split
    · next h => rw [join_cons _ _ (splitAt_ne_nil mark rest), ih, h]; rfl
    · split
      · next h => exact absurd h (splitAt_ne_nil mark rest)
      · next piece pieces h =>
        rw [h] at ih
        cases pieces with
        | nil => simpa [join] using ih
        | cons p ps => rw [← ih]; simp [join]

end Text

end LineEditor
