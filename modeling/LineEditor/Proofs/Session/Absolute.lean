import LineEditor.Proofs.Command.Numbered
import LineEditor.Proofs.Command.Segments
import LineEditor.Proofs.Session.Addressed

/-!
# Absolute addresses

A number alone addresses the line with this number, or the last line if there are not so many. The
digits go through three limits on the way: a number that is no count is not read at all, a count
that is no integer is read as the greatest one, and what comes out is cut to the lines of the text.
The last two keep the order of numbers. The first one does not: it puts 0 in place of a number that
is too large, and line 0 is in front of all lines.
-/

namespace LineEditor

namespace Address

variable {d rest : Text} {value total : Nat}

/-- The number of the line that digits with a value are read as. -/
def readNumber (value : Nat) : Nat := if value < Text.countLimit then value else 0

/-- The line that a number alone addresses, in a text with so many lines. -/
def numbered (value total : Nat) : Nat := lineAt (readNumber value) 0 total

/-- Digits are read as a count, unless it is too large. -/
theorem getD_countOfDigits? (hd : d ≠ []) (h : ∀ c ∈ d, c.isDigit = true) :
    (Text.countOfDigits? d).getD 0 = readNumber (Text.digitsValue d) := by
  have hdigits : d ≠ [] ∧ d.all Char.isDigit := ⟨hd, List.all_eq_true.mpr h⟩
  rw [Text.countOfDigits?, Text.natOfDigits?, if_pos hdigits, Option.filter_some, readNumber]
  by_cases hlt : Text.digitsValue d < Text.countLimit
  · rw [if_pos (decide_eq_true hlt), if_pos hlt, Option.getD_some]
  · rw [if_neg (by simpa using hlt), if_neg hlt, Option.getD_none]

/-- Digits are an address of their own, if neither digits nor a sign follow. -/
theorem scan?_digits_append (hd : d ≠ []) (h : ∀ c ∈ d, c.isDigit = true)
    (hrest : ∀ c ∈ rest.head?, c.isDigit = false ∧ c ≠ '+' ∧ c ≠ '-') :
    scan? (d ++ rest) = .ok (some ⟨.line (readNumber (Text.digitsValue d)), 0⟩, rest) := by
  have hbase := base?_digits_append hd h fun c hc ↦ (hrest c hc).1
  have hoffsets : offsets rest = (0, rest) := by
    cases rest with
    | nil => rw [offsets]
    | cons c rest =>
      obtain ⟨-, hplus, hminus⟩ := hrest c rfl
      rw [offsets, if_neg (by simp [hplus, hminus])]
  rw [getD_countOfDigits? hd h] at hbase
  rw [scan?, hbase]
  simp only [bind, Except.bind, pure, Except.pure, hoffsets]

/-! ## The three limits -/

/-- A line is cut to the lines of the text, but a count to the integers before that. -/
theorem lineAt_eq_min (n total : Nat) :
    lineAt n 0 total = min (min n Text.maxInteger.toNat) total := by
  have hmax : Text.maxInteger = Text.maxInteger.toNat := rfl
  rw [lineAt, Text.toInteger]
  omega

theorem numbered_of_lt (h : value < Text.countLimit) :
    numbered value total = min (min value Text.maxInteger.toNat) total := by
  rw [numbered, readNumber, if_pos h, lineAt_eq_min]

theorem numbered_of_le (h : Text.countLimit ≤ value) : numbered value total = 0 := by
  rw [numbered, readNumber, if_neg (Nat.not_lt.mpr h), lineAt_eq_min, Nat.zero_min, Nat.zero_min]

/-- The line addressed has the number, or is the last one, exactly if the number is read and the
line is not behind the greatest integer. -/
theorem numbered_eq_min_iff (htotal : 1 ≤ total) :
    numbered value total = min value total ↔
      value < Text.countLimit ∧ min value total ≤ Text.maxInteger.toNat := by
  by_cases h : value < Text.countLimit
  · rw [numbered_of_lt h]
    omega
  · have hpos : 0 < Text.countLimit := by decide
    rw [numbered_of_le (Nat.le_of_not_lt h)]
    omega

/-- Among numbers that are read, a greater one addresses no line further in front. -/
theorem numbered_mono {value' : Nat} (h : value ≤ value') (hlt : value' < Text.countLimit) :
    numbered value total ≤ numbered value' total := by
  rw [numbered_of_lt (Nat.lt_of_le_of_lt h hlt), numbered_of_lt hlt]
  omega

end Address

namespace Run

open Address (numbered readNumber)

/-- In a list of addresses, a number finds its line, whatever is around it. -/
theorem run_foundLines_number (value : Nat) (alone : Bool) (lines : Nat × Nat)
    (tokens : List AddressToken) (current : Nat) (found : List Nat) (s : Scene) :
    (foundLines alone lines (.address ⟨.line (readNumber value), 0⟩ :: tokens) current found).run s
      = (foundLines alone lines tokens current
          (numbered value s.document.text.lineCount :: found)).run s := by
  have hline : ¬ (AddressBase.line (readNumber value) = .currentRange ∧ !alone) := nofun
  have hbase : (baseLine current lines (.line (readNumber value))).run s
      = (.ok (readNumber value), s) := rfl
  have htext : text.run s = (.ok s.document.text, s) := rfl
  rw [foundLines, if_neg hline, run_bind, htext]
  simp only
  rw [run_bind, hbase]
  rfl

/-- **Digits address the line with their number.** Wherever they stand for themselves, they are read
as one address, and in every list of addresses, so also alone, it means one line. This line is the
one with their number, or the last one if there are not so many, exactly if the number is below the
limit of counts and the line is not behind the greatest integer. Below the limit the lines addressed
are in the order of the numbers, and from the number of lines on it is the last one. -/
theorem resolves_digits {d : Text} (hd : d ≠ []) (h : ∀ c ∈ d, c.isDigit = true) (s : Scene) :
    let value := Text.digitsValue d
    let total := s.document.text.lineCount
    let a : Address := ⟨.line (readNumber value), 0⟩
    (∀ rest : Text, (∀ c ∈ rest.head?, c.isDigit = false ∧ c ≠ '+' ∧ c ≠ '-') →
      Address.scan? (d ++ rest) = .ok (some a, rest)) ∧
    (∀ alone lines tokens current found,
      (foundLines alone lines (.address a :: tokens) current found).run s
        = (foundLines alone lines tokens current (numbered value total :: found)).run s) ∧
    (resolve [.address a]).run s = (.ok (some (.single (numbered value total))), s) ∧
    (numbered value total = min value total ↔
      value < Text.countLimit ∧ min value total ≤ Text.maxInteger.toNat) ∧
    (∀ value', value ≤ value' → value' < Text.countLimit →
      numbered value total ≤ numbered value' total) ∧
    (total ≤ value → value < Text.countLimit → total ≤ Text.maxInteger.toNat →
      numbered value total = total) := by
  intro value total a
  have hmin : numbered value total = min value total ↔ _ :=
    Address.numbered_eq_min_iff s.document.text.one_le_lineCount
  refine ⟨fun rest hrest ↦ Address.scan?_digits_append hd h hrest, fun alone lines tokens current
    found ↦ run_foundLines_number value alone lines tokens current found s,
    run_resolve_number (readNumber value) s, hmin, fun _ hle hlt ↦ Address.numbered_mono hle hlt,
    fun hpast hlt htotal ↦ ?_⟩
  have hlast : min value total = total := Nat.min_eq_right hpast
  rw [hlast] at hmin
  exact hmin.mpr ⟨hlt, htotal⟩

/-- With zeros in front of a number that is greater than the number of lines. -/
theorem resolves_digits_past_end :
    let s : Scene := { document := .ofSurface (.ofField "a\nb".toList) {}, range := 0 }
    let d : Text := "0099".toList
    Address.scan? (d ++ ['d']) = .ok (some ⟨.line 99, 0⟩, ['d']) ∧
      (resolve [.address ⟨.line 99, 0⟩]).run s = (.ok (some (.single 2)), s) := by
  intro s d
  have hdigits : ∀ c ∈ d, c.isDigit = true := List.all_eq_true.mp (by decide)
  have hletter : ∀ c ∈ ['d'].head?, c.isDigit = false ∧ c ≠ '+' ∧ c ≠ '-' := by
    rintro c ⟨⟩
    decide
  obtain ⟨hscan, -, hresolve, -, -, hlast⟩ := resolves_digits (by decide) hdigits s
  have hline : numbered (Text.digitsValue d) s.document.text.lineCount = 2 := by
    rw [hlast (by decide) (by decide) (by decide)]
    decide
  rw [hline] at hresolve
  exact ⟨hscan ['d'] hletter, hresolve⟩

/-- The least number that is too large is behind the last line and addresses the place in front of
the first one. -/
theorem not_resolves_digits :
    let s : Scene := { document := .ofSurface (.ofField "a\nb".toList) {}, range := 0 }
    let d : Text := "18446744073709551616".toList
    ∃ a, Command.addressList d = .ok [.address a] ∧
      ((resolve [.address a]).run s).1 = .ok (some (.single 0)) ∧
      min (Text.digitsValue d) s.document.text.lineCount = 2 ∧
      (s.perform (d ++ ['='])).2.trace = [.shown ['0']] := by
  exact ⟨⟨.line 0, 0⟩, Command.eq_ok_of_toOption (by decide +kernel), rfl, by decide,
    by decide +kernel⟩

end Run

end LineEditor
