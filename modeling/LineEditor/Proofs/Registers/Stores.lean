import LineEditor.Proofs.Registers
import LineEditor.Proofs.Table
import Mathlib.Data.List.Induction

/-!
# Histories of stores

What registers hold is told by what has been stored in them, whole histories of stores being meant.
The texts stored without a name make up the stack. A letter has the text stored last under its small
form, with all texts that were stored under its capital form since then behind it. What is stored
under any other name is not stored at all.

Reading and listing are two views of the same. The list goes through the names that read different
registers, the digits and the small letters, and every other name that reads a text reads the same
as one of these, its *label*.
-/

namespace LineEditor.Registers

variable {r : Registers} {c x : Char} {name : Option Char} {t : Text}

/-- Stores a text under a name; if the name cannot be written, nothing is stored. -/
def storing (r : Registers) (e : Option Char × Text) : Registers := (r.store? e.1 e.2).getD r

/-- Stores texts under names, one after the other. -/
def storeAll (r : Registers) (es : List (Option Char × Text)) : Registers := es.foldl storing r

/-- Of texts stored under names, those that were stored under some names, in order. -/
def textsUnder (names : List (Option Char)) (es : List (Option Char × Text)) : List Text :=
  (es.filter (·.1 ∈ names)).map (·.2)

/-- The names under which a text goes on the stack. -/
def stackNames : List (Option Char) := [none, some '"']

/-- The small letters. -/
def letters : List Char := "abcdefghijklmnopqrstuvwxyz".toList

/-- The name under which a register is listed. -/
def label : Option Char → Char
  | none => '1'
  | some c => if c = '"' then '1' else c.toLower

/-! ## Letters -/

theorem mem_letters_of_isLower (h : c.isLower) : c ∈ letters := by
  have hall : ∀ n < 123, 97 ≤ n → Char.ofNat n ∈ letters := by decide
  obtain ⟨hfrom, hto⟩ := Bool.and_eq_true_iff.mp h
  have hle : 97 ≤ c.toNat := of_decide_eq_true hfrom
  have hlt : c.toNat ≤ 122 := of_decide_eq_true hto
  rw [← Char.ofNat_toNat c]
  exact hall c.toNat (by omega) hle

theorem isLower_of_mem_letters (h : c ∈ letters) : c.isLower := by
  have hall : letters.all Char.isLower = true := by decide
  exact List.all_eq_true.mp hall c h

/-- A capital letter is that of its small form. -/
private theorem capital_spec (h : c.isUpper) : c.toLower ∈ letters ∧ c.toLower.toUpper = c := by
  have hall : ∀ n < 91, 65 ≤ n →
      (Char.ofNat n).toLower ∈ letters ∧ (Char.ofNat n).toLower.toUpper = Char.ofNat n := by decide
  obtain ⟨hfrom, hto⟩ := of_decide_eq_true h
  have hle : 65 ≤ c.toNat := hfrom
  have hlt : c.toNat ≤ 90 := hto
  rw [← Char.ofNat_toNat c]
  exact hall c.toNat (by omega) hle

private theorem toUpper_spec (h : x.isLower) : x.toUpper.isUpper ∧ x.toUpper.toLower = x := by
  have hall : letters.all fun y ↦ y.toUpper.isUpper ∧ y.toUpper.toLower = y := by decide
  exact of_decide_eq_true (List.all_eq_true.mp hall x (mem_letters_of_isLower h))

theorem isAlpha_of_isLower (h : c.isLower) : c.isAlpha := by
  rw [isAlpha_eq, h, Bool.or_true]

theorem isAlpha_of_isUpper (h : c.isUpper) : c.isAlpha := by
  rw [isAlpha_eq, h, Bool.true_or]

theorem toLower_mem_letters (h : c.isAlpha) : c.toLower ∈ letters := by
  rcases (Bool.or_eq_true _ _).mp (isAlpha_eq c ▸ h) with hupper | hlower
  · exact (capital_spec hupper).1
  · rw [toLower_of_isLower hlower]
    exact mem_letters_of_isLower hlower

/-- Two letters have the same small form: the form itself and its capital. -/
theorem toLower_eq_iff (hx : x.isLower) (h : c.isAlpha) :
    c.toLower = x ↔ c = x ∨ c = x.toUpper := by
  constructor
  · rintro rfl
    rcases (Bool.or_eq_true _ _).mp (isAlpha_eq c ▸ h) with hupper | hlower
    · exact .inr (capital_spec hupper).2.symm
    · exact .inl (toLower_of_isLower hlower).symm
  · rintro (rfl | rfl)
    · exact toLower_of_isLower hx
    · exact (toUpper_spec hx).2

/-! ## One store -/

theorem storing_of_mem_stackNames (r : Registers) (h : name ∈ stackNames) (t : Text) :
    r.storing (name, t) = { r with unnamed := (t :: r.unnamed).take depth } := by
  have hname : name = none ∨ name = some '"' := by simpa [stackNames] using h
  rw [storing, store?_unnamed r hname, Option.getD_some]

theorem storing_of_isAlpha (r : Registers) (h : c.isAlpha) (t : Text) :
    r.storing (some c, t)
      = { r with named := Table.insert c.toLower (r.kept (some c) ++ t) r.named } := by
  rw [storing, store?_of_isAlpha r h, Option.getD_some]

theorem store?_eq_none (r : Registers) (h : ¬ IsWritable name) (t : Text) :
    r.store? name t = none :=
  Option.not_isSome_iff_eq_none.mp fun hsome ↦ h (isSome_store?_iff.mp hsome)

theorem storing_of_not_isWritable (r : Registers) (h : ¬ IsWritable name) (t : Text) :
    r.storing (name, t) = r := by
  rw [storing, store?_eq_none r h, Option.getD_none]

/-- A name that can be written is one of the stack or a letter. -/
theorem IsWritable.cases (h : IsWritable name) :
    name ∈ stackNames ∨ ∃ c, name = some c ∧ c.isAlpha := by
  cases name with
  | none => exact .inl List.mem_cons_self
  | some c =>
    rcases h c rfl with rfl | hletter
    · exact .inl (List.mem_cons_of_mem _ List.mem_cons_self)
    · exact .inr ⟨c, rfl, hletter⟩

/-- One store in the stack: a text put on top of it, or nothing. -/
theorem unnamed_storing (r : Registers) (e : Option Char × Text) :
    (r.storing e).unnamed
      = if e.1 ∈ stackNames then (e.2 :: r.unnamed).take depth else r.unnamed := by
  obtain ⟨name, t⟩ := e
  by_cases hstack : name ∈ stackNames
  · rw [storing_of_mem_stackNames r hstack, if_pos hstack]
  rw [if_neg hstack]
  by_cases hwritable : IsWritable name
  · obtain ⟨c, rfl, hletter⟩ := hwritable.cases.resolve_left hstack
    rw [storing_of_isAlpha r hletter]
  · rw [storing_of_not_isWritable r hwritable]

/-- One store in the register of a letter: another text, a text behind the one there is, or
nothing. -/
theorem get?_storing (r : Registers) (hx : x.isLower) (e : Option Char × Text) :
    (r.storing e).get? (some x)
      = if e.1 = some x then some e.2
        else if e.1 = some x.toUpper then some ((r.get? (some x)).getD [] ++ e.2)
        else r.get? (some x) := by
  obtain ⟨name, t⟩ := e
  have hsmall := isAlpha_of_isLower hx
  have hcapital := isAlpha_of_isUpper (toUpper_spec hx).1
  by_cases hletter : ∃ c, name = some c ∧ c.isAlpha
  · obtain ⟨c, rfl, hc⟩ := hletter
    rw [storing_of_isAlpha r hc, get?_of_isAlpha _ hsmall, Table.get?_insert,
      toLower_of_isLower hx]
    simp only [toLower_eq_iff hx hc, Option.some.injEq]
    by_cases hsame : c = x
    · rw [if_pos (.inl hsame), if_pos hsame, kept, hsame, Option.any_some, isUpper_of_isLower hx]
      rfl
    rw [if_neg hsame]
    by_cases hup : c = x.toUpper
    · have hread : r.get? (some c) = r.get? (some x) := by
        rw [get?_of_isAlpha r hc, get?_of_isAlpha r hsmall, hup, (toUpper_spec hx).2,
          toLower_of_isLower hx]
      rw [if_pos (.inr hup), if_pos hup, kept, hread, hup, Option.any_some, if_pos]
      exact (toUpper_spec hx).1
    · rw [if_neg (not_or.mpr ⟨hsame, hup⟩), if_neg hup, get?_of_isAlpha r hsmall,
        toLower_of_isLower hx]
  · have hne : ∀ c : Char, c.isAlpha → name ≠ some c := fun c hc heq ↦ hletter ⟨c, heq, hc⟩
    rw [if_neg (hne x hsmall), if_neg (hne _ hcapital)]
    by_cases hwritable : IsWritable name
    · rw [storing_of_mem_stackNames r (hwritable.cases.resolve_right hletter),
        get?_of_isAlpha _ hsmall, get?_of_isAlpha r hsmall]
    · rw [storing_of_not_isWritable r hwritable]

/-! ## Many stores -/

theorem textsUnder_append (names : List (Option Char)) (es es' : List (Option Char × Text)) :
    textsUnder names (es ++ es') = textsUnder names es ++ textsUnder names es' := by
  simp only [textsUnder, List.filter_append, List.map_append]

theorem textsUnder_cons_of_mem {names : List (Option Char)} {e : Option Char × Text}
    (h : e.1 ∈ names) (es : List (Option Char × Text)) :
    textsUnder names (e :: es) = e.2 :: textsUnder names es := by
  rw [textsUnder, List.filter_cons_of_pos (by simpa using h), List.map_cons, textsUnder]

theorem textsUnder_cons_of_not_mem {names : List (Option Char)} {e : Option Char × Text}
    (h : e.1 ∉ names) (es : List (Option Char × Text)) :
    textsUnder names (e :: es) = textsUnder names es := by
  rw [textsUnder, List.filter_cons_of_neg (by simpa using h), textsUnder]

/-- The stack holds the texts that were stored last, the newest first. -/
theorem unnamed_storeAll (es : List (Option Char × Text)) :
    (storeAll {} es).unnamed = (textsUnder stackNames es).reverse.take depth := by
  induction es using List.reverseRecOn with
  | nil => rfl
  | append_singleton es e ih =>
    have hlast : storeAll {} (es ++ [e]) = (storeAll {} es).storing e := by
      rw [storeAll, List.foldl_append]
      rfl
    rw [hlast, unnamed_storing, ih, textsUnder_append]
    split
    · next hmem =>
      rw [textsUnder_cons_of_mem hmem, List.reverse_append]
      -- what falls off the bottom is not missed further up
      change ((e.2 :: (textsUnder stackNames es).reverse.take depth).take depth)
        = (e.2 :: (textsUnder stackNames es).reverse).take depth
      rw [depth, List.take_succ_cons, List.take_succ_cons, List.take_take]
      rfl
    · next hmem =>
      rw [textsUnder_cons_of_not_mem hmem]
      exact congrArg (List.take depth) (congrArg List.reverse (List.append_nil _).symm)

/-- Where nothing is stored under a small letter, the texts stored under its capital form are
added. -/
theorem get?_storeAll (r : Registers) (hx : x.isLower) {es : List (Option Char × Text)}
    (h : ∀ e ∈ es, e.1 ≠ some x) :
    (r.storeAll es).get? (some x)
      = if textsUnder [some x.toUpper] es = [] then r.get? (some x)
        else some ((r.get? (some x)).getD [] ++ (textsUnder [some x.toUpper] es).flatten) := by
  induction es generalizing r with
  | nil => rfl
  | cons e es ih =>
    have hne : e.1 ≠ some x := h e List.mem_cons_self
    have hrest := ih (r.storing e) fun e' he' ↦ h e' (List.mem_cons_of_mem e he')
    rw [storeAll, List.foldl_cons, ← storeAll, hrest, get?_storing r hx, if_neg hne]
    by_cases hcapital : e.1 = some x.toUpper
    · rw [textsUnder_cons_of_mem (List.mem_singleton.mpr hcapital), if_pos hcapital,
        if_neg (List.cons_ne_nil _ _), List.flatten_cons, Option.getD_some, List.append_assoc]
      split
      · next hnil => rw [hnil, List.flatten_nil, List.append_nil]
      · rfl
    · rw [textsUnder_cons_of_not_mem fun hmem ↦ hcapital (List.mem_singleton.mp hmem),
        if_neg hcapital]

/-! ## Reading and listing -/

/-- The registers of letters are sorted, and small letters are all that names them. -/
structure IsShelved (r : Registers) : Prop where
  /-- The letters ascend. -/
  sorted : Table.IsSorted r.named
  /-- Each of them is small. -/
  isLower : ∀ e ∈ r.named, e.1.isLower

theorem isShelved_empty : IsShelved {} := ⟨.nil, fun _ he ↦ absurd he List.not_mem_nil⟩

theorem IsShelved.storing (h : r.IsShelved) (e : Option Char × Text) :
    (r.storing e).IsShelved := by
  obtain ⟨name, t⟩ := e
  by_cases hwritable : IsWritable name
  · rcases hwritable.cases with hstack | ⟨c, rfl, hletter⟩
    · rw [storing_of_mem_stackNames r hstack]
      exact ⟨h.sorted, h.isLower⟩
    · rw [storing_of_isAlpha r hletter]
      refine ⟨h.sorted.insert _ _, fun e he ↦ ?_⟩
      rcases Table.eq_or_mem_of_mem_insert he with rfl | hmem
      · exact isLower_of_mem_letters (toLower_mem_letters hletter)
      · exact h.isLower e hmem
  · rwa [storing_of_not_isWritable r hwritable]

theorem IsShelved.storeAll (h : r.IsShelved) (es : List (Option Char × Text)) :
    (r.storeAll es).IsShelved := by
  induction es generalizing r with
  | nil => exact h
  | cons e es ih => exact ih (h.storing e)

/-- A digit reads its place in the stack. -/
theorem get?_digit (r : Registers) {n : Nat} (h : digits[n]? = some c) :
    r.get? (some c) = r.unnamed[n]? := by
  have hall : ∀ n < digits.length, (digits[n]?).all fun c ↦
      c ≠ '"' ∧ c ∈ digits ∧ c.toNat - '1'.toNat = n := by decide
  obtain ⟨hlt, -⟩ := List.getElem?_eq_some_iff.mp h
  obtain ⟨hquote, hmem, hplace⟩ := of_decide_eq_true ((Option.all_eq_true _ _).mp (hall n hlt) c h)
  simp only [get?, if_neg hquote, if_pos hmem, hplace]

/-- Names that read the places of a row, one after the other, list the row by its places. -/
private theorem zip_eq_filterMap {names : List Char} {row : List Text} {read : Char → Option Text}
    (h : ∀ (n : Nat) (c : Char), names[n]? = some c → read c = row[n]?) :
    names.zip row = names.filterMap fun c ↦ (read c).map (c, ·) := by
  induction names generalizing row with
  | nil => rfl
  | cons c names ih =>
    have hhead : read c = row[0]? := h 0 c rfl
    have htail : ∀ (n : Nat) (c' : Char), names[n]? = some c' → read c' = row.tail[n]? := by
      intro n c' hn
      rw [List.getElem?_tail]
      exact h (n + 1) c' hn
    rw [List.filterMap_cons, hhead, ← ih htail]
    cases row with
    | nil => exact (List.zip_nil_right).symm
    | cons t row => rfl

/-- The list goes through the digits and the small letters and gives what each of them reads. -/
theorem IsShelved.list_eq (h : r.IsShelved) :
    r.list = (digits ++ letters).filterMap fun c ↦ (r.get? (some c)).map (c, ·) := by
  have hstack : digits.zip r.unnamed = digits.filterMap fun c ↦ (r.get? (some c)).map (c, ·) :=
    zip_eq_filterMap fun _ _ hn ↦ get?_digit r hn
  have hsorted : letters.Pairwise (· < ·) := by decide
  have hnamed := h.sorted.eq_filterMap hsorted fun e he ↦ mem_letters_of_isLower (h.isLower e he)
  have hread : ∀ x ∈ letters, Table.get? x r.named = r.get? (some x) := fun x hx ↦ by
    have hlower := isLower_of_mem_letters hx
    rw [get?_of_isAlpha r (isAlpha_of_isLower hlower), toLower_of_isLower hlower]
  rw [list, List.filterMap_append, hstack]
  refine congrArg (_ ++ ·) (hnamed.trans (List.filterMap_congr fun x hx ↦ ?_))
  rw [hread x hx]

/-- A name that reads a text reads what its label reads, and its label is listed. -/
theorem label_spec (h : r.get? name = some t) :
    label name ∈ digits ++ letters ∧ r.get? (some (label name)) = some t := by
  have htop : r.get? (some '1') = r.unnamed.head? := by
    rw [get?_digit r (n := 0) rfl, List.head?_eq_getElem?]
  have hfirst : '1' ∈ digits ++ letters := List.mem_append_left _ List.mem_cons_self
  cases name with
  | none => exact ⟨hfirst, htop.trans h⟩
  | some c =>
    rw [label]
    by_cases hquote : c = '"'
    · rw [if_pos hquote]
      subst hquote
      exact ⟨hfirst, htop.trans h⟩
    rw [if_neg hquote]
    by_cases hdigit : c ∈ digits
    · have hall : digits.all fun c ↦ c.toLower = c := by decide
      have hsame : c.toLower = c := of_decide_eq_true (List.all_eq_true.mp hall c hdigit)
      rw [hsame]
      exact ⟨List.mem_append_left _ hdigit, h⟩
    by_cases hletter : c.isAlpha
    · have hmem := toLower_mem_letters hletter
      have hlower := isLower_of_mem_letters hmem
      refine ⟨List.mem_append_right _ hmem, ?_⟩
      rwa [get?_of_isAlpha r (isAlpha_of_isLower hlower), toLower_of_isLower hlower,
        ← get?_of_isAlpha r hletter]
    · rw [get?, if_neg hquote, if_neg hdigit, if_neg hletter] at h
      cases h

/-! ## The laws of registers -/

/-- The stack reads as the texts that were stored in it, the newest first. -/
structure ReadsStack (r : Registers) (es : List (Option Char × Text)) : Prop where
  /-- Without a name, and as `"`, the newest text is read. -/
  top : ∀ name ∈ stackNames, r.get? name = (textsUnder stackNames es).reverse[0]?
  /-- By its digit, each of the last nine is read. -/
  digit : ∀ (n : Nat) (c : Char), digits[n]? = some c →
    r.get? (some c) = (textsUnder stackNames es).reverse[n]?
  /-- No more than nine are kept. -/
  kept : r.unnamed = (textsUnder stackNames es).reverse.take 9

/-- The register of a small letter reads as what was stored in it. -/
structure ReadsLetter (r : Registers) (x : Char) (es : List (Option Char × Text)) : Prop where
  /-- The capital letter reads the same. -/
  capital : r.get? (some x.toUpper) = r.get? (some x)
  /-- The text stored last under the small letter is read, and behind it all those stored later
  under the capital one. -/
  since : ∀ front t later, es = front ++ (some x, t) :: later → (∀ e ∈ later, e.1 ≠ some x) →
    r.get? (some x) = some (t ++ (textsUnder [some x.toUpper] later).flatten)
  /-- If there is none, those stored under the capital letter are read, if there are any. -/
  always : (∀ e ∈ es, e.1 ≠ some x) →
    r.get? (some x) = if textsUnder [some x.toUpper] es = [] then none
      else some (textsUnder [some x.toUpper] es).flatten

theorem readsStack_storeAll (es : List (Option Char × Text)) : (storeAll {} es).ReadsStack es := by
  have hkept := unnamed_storeAll es
  have hplace : ∀ n < depth,
      (storeAll {} es).unnamed[n]? = (textsUnder stackNames es).reverse[n]? := fun n hn ↦ by
    rw [hkept, List.getElem?_take_of_lt hn]
  refine ⟨fun name hname ↦ ?_, fun n c hn ↦ ?_, hkept⟩
  · rw [← hplace 0 (by decide), ← List.head?_eq_getElem?]
    have hcases : name = none ∨ name = some '"' := by simpa [stackNames] using hname
    rcases hcases with rfl | rfl
    · rfl
    · rfl
  · rw [get?_digit _ hn]
    exact hplace n (List.getElem?_eq_some_iff.mp hn).1

theorem readsLetter_storeAll (hx : x.isLower) (es : List (Option Char × Text)) :
    (storeAll {} es).ReadsLetter x es := by
  refine ⟨?_, ?_, fun hnone ↦ ?_⟩
  · obtain ⟨hupper, hsame⟩ := toUpper_spec hx
    rw [get?_of_isAlpha _ (isAlpha_of_isUpper hupper), get?_of_isAlpha _ (isAlpha_of_isLower hx),
      hsame, toLower_of_isLower hx]
  · rintro front t later rfl hlater
    have hsplit : storeAll {} (front ++ (some x, t) :: later)
        = ((storeAll {} front).storing (some x, t)).storeAll later := by
      rw [storeAll, List.foldl_append]
      rfl
    rw [hsplit, get?_storeAll _ hx hlater, get?_storing _ hx, if_pos rfl, Option.getD_some]
    split
    · next hnil => rw [hnil, List.flatten_nil, List.append_nil]
    · rfl
  · have hempty : get? {} (some x) = none := get?_of_isAlpha {} (isAlpha_of_isLower hx)
    rw [get?_storeAll {} hx hnone, hempty]
    rfl

/-- **Registers recall what was stored.** After texts have been stored in empty registers, under any
names, the stack reads as the texts stored without a name and each letter as those stored under its
two forms. Under any other name nothing can be stored, and trying to changes nothing. The list gives
what the digits and the small letters read, in this order, and whatever reads under some name is
listed. -/
theorem recalls_storeAll (es : List (Option Char × Text)) :
    let r := storeAll {} es
    r.ReadsStack es ∧ (∀ x, x.isLower → r.ReadsLetter x es) ∧
    (∀ name t, (r.store? name t = none ↔ ¬ IsWritable name) ∧
      (r.store? name t = none → r.storing (name, t) = r)) ∧
    r.list = (digits ++ letters).filterMap (fun c ↦ (r.get? (some c)).map (c, ·)) ∧
    ∀ name t, r.get? name = some t → (label name, t) ∈ r.list := by
  intro r
  have hlist : r.list = _ := (isShelved_empty.storeAll es).list_eq
  refine ⟨readsStack_storeAll es, fun x hx ↦ readsLetter_storeAll hx es, fun name t ↦ ⟨?_, ?_⟩,
    hlist, fun name t ht ↦ ?_⟩
  · rw [← Option.not_isSome_iff_eq_none, isSome_store?_iff]
  · intro hnone
    rw [storing, hnone, Option.getD_none]
  · obtain ⟨hmem, hread⟩ := label_spec ht
    rw [hlist]
    exact List.mem_filterMap.mpr ⟨label name, hmem, by rw [hread]; rfl⟩

/-- Ten texts on the stack, a letter that is added to, replaced and added to again, and two names
that cannot be written. -/
theorem recalls_storeAll_mixed :
    let es : List (Option Char × Text) :=
      [(some 'A', ['p']), (some 'b', ['q']), (some 'a', ['r']), (some '3', ['s']), (none, ['0']),
        (some 'A', ['t']), (some 'é', ['u']), (some '"', ['1']), (none, ['2']), (none, ['3']),
        (none, ['4']), (none, ['5']), (some 'A', ['v']), (none, ['6']), (none, ['7']),
        (none, ['8']), (none, ['9'])]
    let r := storeAll {} es
    r.get? (some '9') = some ['1'] ∧ r.get? (some 'a') = some ['r', 't', 'v'] ∧
      r.get? (some 'A') = some ['r', 't', 'v'] ∧ r.store? (some 'é') [] = none ∧
      r.list.map (·.1) = digits ++ ['a', 'b'] ∧ (label (some 'B'), ['q']) ∈ r.list := by
  intro es r
  obtain ⟨hstack, hletter, hother, hlist, hread⟩ := recalls_storeAll es
  have ha := hletter 'a' (by decide)
  have hsince : r.get? (some 'a') = some ['r', 't', 'v'] :=
    ha.since (es.take 2) ['r'] (es.drop 3) rfl (by decide)
  have hwritable : ¬ IsWritable (some 'é') := fun h ↦ by simpa using h 'é' rfl
  exact ⟨hstack.digit 8 '9' rfl, hsince, ha.capital.trans hsince, (hother _ _).1.mpr hwritable,
    by rw [hlist]; decide, hread (some 'B') ['q'] rfl⟩

end LineEditor.Registers
