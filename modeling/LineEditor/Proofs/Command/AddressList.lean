import LineEditor.Proofs.Command.Terms

/-!
# Lists of addresses

A `TermList` is a text made of terms and of separators between them. Reading it gives back the terms
as addresses, with their offsets summed up and an empty address for each term of which nothing is
written. A separator has an address on either side, so an empty term is read as one wherever there
is a separator; without any it is no address at all.
-/

namespace LineEditor

namespace Command

open Address (Term IsSection)

/-- Terms with separators between them. -/
inductive TermList where
  /-- The last term. -/
  | last (t : Term)
  /-- A term, a separator and more terms. -/
  | more (t : Term) (c : Char) (token : AddressToken) (hc : separatorToken? c = some token)
    (terms : TermList)

namespace TermList

/-- The terms as they are written. -/
def text : TermList → Text
  | last t => t.text
  | more t c _ _ terms => t.text ++ c :: terms.text

/-- The addresses that are meant, and the separators. -/
def tokens : TermList → List AddressToken
  | last t => [.address t.address]
  | more t _ token _ terms => .address t.address :: token :: terms.tokens

/-- There is only one term, and it is empty. -/
def IsBlank : TermList → Prop
  | last t => t.IsEmpty
  | more .. => False

/-- The letters of flags that the text ends with. -/
def lastLetters : TermList → Text
  | last t => t.lastLetters
  | more _ _ _ _ terms => terms.lastLetters

end TermList

variable {t : Term} {c : Char} {token : AddressToken}

theorem eq_of_separatorToken? (hc : separatorToken? c = some token) : c = ',' ∨ c = ';' := by
  unfold separatorToken? at hc
  split at hc
  · next h => exact .inl h
  · split at hc
    · next h => exact .inr h
    · exact nomatch hc

/-- What can follow a term, behind the blanks. -/
theorem stops_of_separatorToken? (hc : separatorToken? c = some token) (rest : Text) :
    Address.Stops (c :: rest) := by
  rintro _ ⟨⟩
  rcases eq_of_separatorToken? hc with rfl | rfl
  · exact .inl (by decide)
  · exact .inl (by decide)

/-- What follows a term is no sign. -/
theorem ne_sign_of_isBlank_append {l rest : Text} (hl : ∀ c ∈ l, Text.isBlank c = true)
    (h : ∀ c ∈ rest.head?, c = ',' ∨ c = ';') :
    ∀ c ∈ (l ++ rest).head?, c ≠ '+' ∧ c ≠ '-' := by
  cases l with
  | nil =>
    intro c hc
    rcases h c hc with rfl | rfl <;> decide
  | cons d l =>
    rintro _ ⟨⟩
    have hd := hl d List.mem_cons_self
    exact ⟨Text.ne_of_holds hd rfl, Text.ne_of_holds hd rfl⟩

theorem address_of_isEmpty (ht : t.IsEmpty) : t.address = ⟨.empty, 0⟩ := by
  rw [Term.address, ht.1, ht.2]
  rfl

/-- A term before a separator is read, and the rest of the list behind the separator. -/
theorem addressesFrom_text_cons (t : Term) (hc : separatorToken? c = some token) (pending : Bool)
    (rest : Text) :
    addressesFrom pending (t.text ++ c :: rest) = (addressesFrom true rest).map fun read ↦
      (.address t.address :: token :: read.1, read.2) := by
  have hseparator := eq_of_separatorToken? hc
  have hstart : Text.trimStart (c :: rest) = c :: rest := by
    rcases hseparator with rfl | rfl <;> rfl
  by_cases ht : t.IsEmpty
  · have hscan : Address.scan? (Text.trimStart (t.text ++ c :: rest)) = .ok (none, c :: rest) := by
      rw [Term.trimStart_text_append_of_isEmpty ht, hstart]
      rcases hseparator with rfl | rfl <;> rfl
    rw [addressesFrom_of_separator hscan hstart hc, address_of_isEmpty ht]
    rfl
  · have hscan : Address.scan? (Text.trimStart (t.text ++ c :: rest))
        = .ok (some t.address, t.after ++ c :: rest) := by
      rw [Term.trimStart_text_append ht]
      refine Term.scan?_textFrom ht (Address.stops_of_isBlank_append t.isBlank_after
        (stops_of_separatorToken? hc rest)) ?_ fun _ _ ↦ by simp
      refine ne_sign_of_isBlank_append t.isBlank_after ?_
      rintro _ ⟨⟩
      exact hseparator
    have hafter : Text.trimStart (t.after ++ c :: rest) = c :: rest := by
      rw [Text.trimStart, List.dropWhile_append_of_pos t.isBlank_after]
      exact hstart
    rw [addressesFrom_of_separator hscan hafter hc]
    rfl

/-- The last term is read, if it does not end in letters. -/
theorem addressesFrom_text (ht : t.lastLetters = []) {pending : Bool}
    (hempty : t.IsEmpty → pending = true) :
    addressesFrom pending t.text = .ok ([.address t.address], []) := by
  by_cases hblank : t.IsEmpty
  · have hscan : Address.scan? (Text.trimStart t.text) = .ok (none, []) := by
      have hstart := Term.trimStart_text_append_of_isEmpty hblank []
      rw [List.append_nil] at hstart
      rw [hstart]
      rfl
    rw [addressesFrom_of_last hscan rfl, hempty hblank, address_of_isEmpty hblank]
    rfl
  · have hscan : Address.scan? (Text.trimStart t.text) = .ok (some t.address, t.after) := by
      have hstart := Term.trimStart_text_append hblank []
      have hsign : ∀ c ∈ (t.after ++ []).head?, c ≠ '+' ∧ c ≠ '-' :=
        ne_sign_of_isBlank_append t.isBlank_after nofun
      have hstops := Address.stops_of_isBlank_append t.isBlank_after Address.stops_nil
      simp only [List.append_nil] at hstart hsign hstops
      rw [hstart]
      refine Term.scan?_textFrom hblank hstops hsign fun hoffsets hletters hafter ↦ hletters ?_
      rwa [Term.lastLetters, if_pos ⟨hoffsets, hafter⟩] at ht
    have hafter : Text.trimStart t.after = [] := Text.dropWhile_eq_nil t.isBlank_after
    exact addressesFrom_of_last hscan hafter

/-- Letters at the end are left. -/
theorem exists_addressesFrom_text_of_lastLetters (ht : t.lastLetters ≠ []) (pending : Bool) :
    ∃ tokens, addressesFrom pending t.text = .ok (tokens, t.lastLetters) := by
  obtain ⟨hoffsets, hafter⟩ : t.offsets = [] ∧ t.after = [] :=
    Decidable.byContradiction fun hend ↦ ht (if_neg hend)
  have hletters : t.lastLetters = t.form.letters := if_pos ⟨hoffsets, hafter⟩
  rw [hletters] at ht ⊢
  obtain ⟨a, hscan⟩ : ∃ a, Address.scan? (Text.trimStart t.text)
      = .ok (some a, t.form.letters) := by
    have hstart : Text.trimStart t.text = t.form.text := by
      have hstart := Term.trimStart_text_append (t := t) (fun h ↦ ht (by rw [h.1]; rfl)) []
      simpa [Term.textFrom, hoffsets, hafter] using hstart
    rw [hstart]
    exact t.form.exists_scan?_of_letters ht
  obtain ⟨c, more, hcons⟩ := List.exists_cons_of_ne_nil ht
  have hc : c.isAlpha = true := t.form.isAlpha_of_mem_letters c (hcons ▸ List.mem_cons_self)
  have htrim : Text.trimStart t.form.letters = c :: more := by
    rw [hcons]
    exact List.dropWhile_cons_of_neg (by simp [Text.isBlank_of_isAlpha hc])
  have hnone : separatorToken? c = none := by
    rw [separatorToken?, if_neg (Text.ne_of_holds hc rfl), if_neg (Text.ne_of_holds hc rfl)]
  exact ⟨_, hcons ▸ addressesFrom_of_other hscan htrim hnone⟩

namespace TermList

variable {w : TermList}

/-- Reading a list of terms gives back its addresses, if it does not end in letters. -/
theorem addressesFrom_text (h : w.lastLetters = []) {pending : Bool}
    (hblank : w.IsBlank → pending = true) : addressesFrom pending w.text = .ok (w.tokens, []) := by
  induction w generalizing pending with
  | last t => exact Command.addressesFrom_text h hblank
  | more t c token hc terms ih =>
    rw [text, addressesFrom_text_cons t hc, ih h fun _ ↦ rfl]
    rfl

/-- Letters at the end of a list are left. -/
theorem exists_addressesFrom_text (h : w.lastLetters ≠ []) (pending : Bool) :
    ∃ tokens, addressesFrom pending w.text = .ok (tokens, w.lastLetters) := by
  induction w generalizing pending with
  | last t => exact exists_addressesFrom_text_of_lastLetters h pending
  | more t c token hc terms ih =>
    obtain ⟨tokens, hterms⟩ := ih h true
    rw [text, addressesFrom_text_cons t hc, hterms]
    exact ⟨_, rfl⟩

end TermList

/-- **A list of addresses is read as it is written.** The text of a list of terms is read as their
addresses, with the offsets summed up, and the separators between them; a term of which nothing is
written, between separators as well as before the first and behind the last, is an empty address.
Letters behind a pattern are flags only if something follows: a text that ends in them is refused.
The only other exception is a text of blanks, which holds no address. -/
theorem addressList_text (w : TermList) (hw : ¬ w.IsBlank) :
    addressList w.text
      = if w.lastLetters = [] then .ok w.tokens else .error (.badAddress w.text) := by
  rw [addressList]
  split
  · next h =>
    rw [w.addressesFrom_text h fun hblank ↦ absurd hblank hw]
    rfl
  · next h =>
    obtain ⟨tokens, hread⟩ := w.exists_addressesFrom_text h false
    simp only [hread, bind, Except.bind, if_neg h]
    rfl

/-- A delimiter in a pattern, flags before a sign, a mark, and a term with nothing written. -/
theorem addressList_text_search :
    addressList "/a\\/b/i+2 , 'x-;;%%".toList
      = .ok [.address ⟨.search ['a', '/', 'b'] ['i'] false, 2⟩, .comma, .address ⟨.mark 'x', -1⟩,
        .semicolon, .address ⟨.empty, 0⟩, .semicolon, .address ⟨.currentRange, 0⟩] := by
  have hpattern : IsSection '/' [] ['a', '/', 'b'] :=
    .plain (by decide) nofun (.plain (by decide) nofun (.plain (by decide) nofun .nil))
  have hblank : ∀ c ∈ [' '], Text.isBlank c = true := List.forall_mem_singleton.mpr rfl
  have hletter : ∀ c ∈ ['i'], c ∈ Address.flagLetters := List.forall_mem_singleton.mpr (by decide)
  let two : Address.Numeral := ⟨['2'], nofun, List.forall_mem_singleton.mpr rfl, by decide⟩
  let terms : TermList :=
    .more ⟨[], .search false _ hpattern ['i'] hletter, [⟨true, some two⟩], [' '], nofun, hblank⟩
      ',' _ rfl <|
    .more ⟨[' '], .mark 'x' rfl, [⟨false, none⟩], [], hblank, nofun⟩ ';' _ rfl <|
    .more ⟨[], .empty, [], [], nofun, nofun⟩ ';' _ rfl <|
    .last ⟨[], .currentRange, [], [], nofun, nofun⟩
  have htext : terms.text = "/a\\/b/i+2 , 'x-;;%%".toList := rfl
  have hletters : terms.lastLetters = [] := rfl
  have hread := addressList_text terms id
  rw [htext, if_pos hletters] at hread
  exact hread

/-- A number behind a sign that is greater than the greatest integer counts as that integer, so
that offsets of which the sum is one cancel out. -/
theorem not_addressList_sum :
    let text := ".+9223372036854775809-9223372036854775808".toList
    addressList text = .ok [.address ⟨.current, 0⟩] ∧
      addressList text ≠ .ok [.address ⟨.current, 9223372036854775809 - 9223372036854775808⟩] := by
  intro text
  have hread : addressList text = .ok [.address ⟨.current, 0⟩] :=
    eq_ok_of_toOption (by decide +kernel)
  refine ⟨hread, fun hsum ↦ ?_⟩
  rw [hread, Except.ok.injEq] at hsum
  exact absurd hsum (by decide)

end Command

end LineEditor
