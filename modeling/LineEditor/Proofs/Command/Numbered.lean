import LineEditor.Proofs.Command.Locality

/-!
# Numbers of lines

Digits are read as the number of a line, up to what is no digit. So the number of a line, written in
digits, is read back as the address of that line.
-/

namespace LineEditor

namespace Text

variable {c : Char} {n : Nat}

/-- What satisfies a predicate is cut off before anything that does not. -/
theorem while_append {p : Char → Bool} {l rest : Text} (hl : ∀ c ∈ l, p c = true)
    (hrest : ∀ c ∈ rest.head?, p c = false) :
    (l ++ rest).takeWhile p = l ∧ (l ++ rest).dropWhile p = rest := by
  rw [List.takeWhile_append_of_pos hl, List.dropWhile_append_of_pos hl]
  cases rest with
  | nil => simp
  | cons c rest => simp [hrest c rfl]

/-- Characters are told apart by what holds of them. -/
theorem ne_of_holds {p : Char → Bool} {c d : Char} (hc : p c = true) (hd : p d = false) :
    c ≠ d := by
  rintro rfl
  exact Bool.false_ne_true (hd.symm.trans hc)

theorem ofNat_ne_nil (n : Nat) : ofNat n ≠ [] := Nat.toDigits_ne_nil

theorem isDigit_of_mem_ofNat (h : c ∈ ofNat n) : c.isDigit :=
  Nat.isDigit_of_mem_toDigits (by decide) (by decide) h

/-- A count is read back from its digits. -/
theorem countOfDigits?_ofNat (h : n < countLimit) : countOfDigits? (ofNat n) = some n := by
  have hdigits : ofNat n ≠ [] ∧ (ofNat n).all Char.isDigit :=
    ⟨ofNat_ne_nil n, List.all_eq_true.mpr fun _ ↦ isDigit_of_mem_ofNat⟩
  have hvalue : digitsValue (ofNat n) = n := Nat.ofDigitChars_toDigits (by decide) (by decide)
  rw [countOfDigits?, natOfDigits?, if_pos hdigits, hvalue, Option.filter_some,
    if_pos (decide_eq_true h)]

theorem isBlank_of_isDigit (h : c.isDigit) : isBlank c = false := by
  have hcode : 48 ≤ c.toNat ∧ c.toNat ≤ 57 := by
    simpa [Char.isDigit, UInt32.le_iff_toNat_le] using h
  unfold isBlank
  simp only [Bool.or_eq_false_iff, Bool.and_eq_false_iff, decide_eq_false_iff_not]
  omega

theorem trimStart_of_isDigit {t : Text} (h : ∀ c ∈ t, c.isDigit) : trimStart t = t := by
  cases t with
  | nil => rfl
  | cons c t =>
    refine List.dropWhile_cons_of_neg ?_
    rw [isBlank_of_isDigit (h c List.mem_cons_self)]
    exact Bool.false_ne_true

end Text

namespace Address

/-- Digits are the number of a line, up to what is no digit. None of the other ways to write an
address starts with one. -/
theorem base?_digits_append {d rest : Text} (hd : d ≠ []) (h : ∀ c ∈ d, c.isDigit = true)
    (hrest : ∀ c ∈ rest.head?, c.isDigit = false) :
    base? (d ++ rest) = .ok (some (.line ((Text.countOfDigits? d).getD 0)), rest) := by
  obtain ⟨c, more, rfl⟩ := List.exists_cons_of_ne_nil hd
  have hc : c.isDigit = true := h c List.mem_cons_self
  have hother : ∀ other : Char, other.isDigit = false → c ≠ other := fun _ ↦ Text.ne_of_holds hc
  obtain ⟨htake, hdrop⟩ := Text.while_append h hrest
  have hnumber : number? (c :: more ++ rest) = (Text.countOfDigits? (c :: more), rest) := by
    rw [number?, htake, hdrop]
  rw [List.cons_append] at hnumber ⊢
  rw [base?_cons (by simp [hother]), hnumber]
  simp [hother, hc]

end Address

namespace Command

/-- The number of a line is read back from its digits. -/
theorem addressList_ofNat {n : Nat} (h : n < Text.countLimit) :
    addressList (Text.ofNat n) = .ok [.address ⟨.line n, 0⟩] := by
  have hdigits : ∀ c ∈ Text.ofNat n, c.isDigit := fun _ ↦ Text.isDigit_of_mem_ofNat
  have hscan : Address.scan? (Text.ofNat n) = .ok (some ⟨.line n, 0⟩, []) := by
    have hbase : Address.base? (Text.ofNat n ++ []) = _ :=
      Address.base?_digits_append (Text.ofNat_ne_nil n) hdigits nofun
    rw [List.append_nil, Text.countOfDigits?_ofNat h] at hbase
    rw [Address.scan?, hbase]
    simp [Address.offsets, bind, Except.bind, pure, Except.pure]
  rw [← Text.trimStart_of_isDigit hdigits] at hscan
  rw [addressList, addressesFrom_of_last hscan rfl]
  rfl

end Command

end LineEditor
