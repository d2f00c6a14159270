import LineEditor.Text.Basic

/-!
# Byte offsets

Offsets in a text count characters; its encoded form counts bytes, one to four for each
character. These maps go from one measure to the other. `ofChar` sends a character offset to the
byte where that character starts, `toChar` sends a byte offset to the number of characters that
start before it, and `next` gives the start of the character after the one at a boundary.
-/

namespace LineEditor.Text.Bytes

/-- The number of bytes of the encoded text. -/
def size : Text → Nat
  | [] => 0
  | c :: rest => c.utf8Size + size rest

/-- The byte at which character `n` starts; the size of the text past its end. -/
def ofChar (t : Text) (n : Nat) : Nat := size (t.take n)

/-- The number of characters that start before byte `b`. -/
def toChar : Text → Nat → Nat
  | [], _ => 0
  | _, 0 => 0
  | c :: rest, b + 1 => toChar rest (b + 1 - c.utf8Size) + 1

/-- The boundary that follows boundary `b`; one past the size when `b` is the end. -/
def next : Text → Nat → Nat
  | [], _ => 1
  | c :: _, 0 => c.utf8Size
  | c :: rest, b + 1 => c.utf8Size + next rest (b + 1 - c.utf8Size)

@[simp] theorem size_nil : size [] = 0 := rfl

@[simp] theorem size_cons (c : Char) (t : Text) : size (c :: t) = c.utf8Size + size t := rfl

theorem size_append (s t : Text) : size (s ++ t) = size s + size t := by
  induction s with
  | nil => simp
  | cons c rest ih => rw [List.cons_append, size_cons, size_cons, ih, Nat.add_assoc]

end LineEditor.Text.Bytes
