import LineEditor.Text.Basic

/-!
# Numerals

Decimal writing and reading of numbers. Written numbers carry no leading zeros and no `+`. Readers
accept leading zeros and one leading sign, and refuse a number that does not fit its range: counts
range below `2 ^ 64`, integers over the signed 64-bit numbers. Digits can be read in other bases,
too.
-/

namespace LineEditor.Text

/-- The decimal digits of a number. -/
def ofNat (n : Nat) : Text := Nat.toDigits 10 n

/-- The decimal digits of an integer, after a `-` if it is negative. -/
def ofInt (n : Int) : Text :=
  if n < 0 then '-' :: ofNat n.natAbs else ofNat n.natAbs

/-- The number at the right end of a line of the given width, filled up with spaces. -/
def ofNatPadded (width n : Nat) : Text :=
  let digits := ofNat n
  List.replicate (width - digits.length) ' ' ++ digits

/-- The value of a run of decimal digits. -/
def digitsValue (digits : Text) : Nat :=
  digits.foldl (fun value c ↦ 10 * value + (c.toNat - '0'.toNat)) 0

/-- The number written by a non-empty run of digits. -/
def natOfDigits? (t : Text) : Option Nat :=
  if t ≠ [] ∧ t.all Char.isDigit then some (digitsValue t) else none

/-- Counts lie below this number, `2 ^ 64`. -/
def countLimit : Nat := 0x10000000000000000

/-- The count written by a run of digits. -/
def countOfDigits? (t : Text) : Option Nat :=
  (natOfDigits? t).filter (· < countLimit)

/-- The count written by a text: digits, with or without a `+` in front. -/
def count? : Text → Option Nat
  | '+' :: digits => countOfDigits? digits
  | digits => countOfDigits? digits

/-- The greatest integer that can be read, `2 ^ 63 - 1`. -/
def maxInteger : Int := 0x7FFFFFFFFFFFFFFF

/-- The least integer that can be read, `-2 ^ 63`. -/
def minInteger : Int := -0x8000000000000000

/-- The integer written by a text: digits, with or without a sign in front. -/
def integer? (t : Text) : Option Int :=
  let value : Option Int := match t with
    | '-' :: digits => (natOfDigits? digits).map fun n ↦ -(n : Int)
    | '+' :: digits => (natOfDigits? digits).map Int.ofNat
    | digits => (natOfDigits? digits).map Int.ofNat
  value.filter fun n ↦ minInteger ≤ n && n ≤ maxInteger

/-- A count as an integer, the greatest integer standing for all larger counts. -/
def toInteger (n : Nat) : Int := min n maxInteger

/-! ## Other bases -/

/-- The value of a digit in bases up to 16. -/
def digit? (c : Char) : Option Nat :=
  if c.isDigit then some (c.toNat - '0'.toNat)
  else if 'a' ≤ c && c ≤ 'f' then some (c.toNat - 'a'.toNat + 10)
  else if 'A' ≤ c && c ≤ 'F' then some (c.toNat - 'A'.toNat + 10)
  else none

/-- The number written by a non-empty run of digits in a base up to 16. -/
def natInBase? (base : Nat) (t : Text) : Option Nat :=
  if t = [] then none
  else t.foldlM (fun n c ↦ do
    let d ← digit? c
    if d < base then some (base * n + d) else none) 0

end LineEditor.Text
