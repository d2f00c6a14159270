import LineEditor.Proofs.Session.Commands
import LineEditor.Proofs.Text.Lines

/-!
# The lines that addresses mean

Whatever the addresses of a command are, the lines it is carried out on are lines of the text. An
address is cut to the lines that are counted. The range itself is not, and `%%` may mean a range
behind the last separator of the text; but even there it stands on a piece of the text. The number
of a line that is counted means that line.
-/

namespace LineEditor

/-! ## Spans -/

/-- A range stands on lines of the text. -/
theorem Document.lines_le (d : Document) (id : RangeId) :
    (d.lines id).2 ≤ d.text.lines.length :=
  Nat.max_le.mpr ⟨d.text.lineAt_le_length_lines _, d.text.lineAt_le_length_lines _⟩

/-- The lines are lines of the text, in order. -/
structure Span.Fits (span : Span) (t : Text) : Prop where
  /-- The first one comes first. -/
  le : span.first ≤ span.last
  /-- The last one is a line of the text. -/
  last_le : span.last ≤ t.lines.length

/-- The lines of a span, between those before and behind it. -/
theorem Span.Fits.lines_eq {span : Span} {t : Text} (h : span.Fits t) :
    t.lines = t.lines.take (max span.first 1 - 1) ++ t.lineRange (max span.first 1) span.last
      ++ t.lines.drop span.last := by
  have hle := h.le
  exact Text.lines_eq_lineRange (Nat.le_max_right _ _) (by omega)

theorem Span.Fits.length_eq {span : Span} {t : Text} (h : span.Fits t) :
    (t.lines.take (max span.first 1 - 1)).length + 1 = max span.first 1 ∧
      (t.lines.take (max span.first 1 - 1)).length
        + (t.lineRange (max span.first 1) span.last).length = span.last := by
  have hle := h.le
  have hlast := h.last_le
  have hfirst : max span.first 1 ≤ span.last + 1 := by omega
  rw [Text.length_lineRange (Nat.le_max_right _ _) hfirst hlast, List.length_take]
  omega

namespace Run

variable {α β : Type} {p : α → Prop} {s s' : Scene} {tokens : List AddressToken}

/-- Whatever the run results in from this scene has a property. -/
def Yields (p : α → Prop) (m : Run α) (s : Scene) : Prop := ∀ a s', m.run s = (.ok a, s') → p a

theorem yields_pure {a : α} (h : p a) : Yields p (pure a) s := by
  intro b s' hb
  obtain rfl := Except.ok.inj (Prod.mk.inj hb).1
  exact h

theorem yields_bind {m : Run β} {f : β → Run α}
    (h : ∀ b s', m.run s = (.ok b, s') → Yields p (f b) s') : Yields p (m >>= f) s := by
  intro a s' ha
  rw [run_bind] at ha
  rcases hm : m.run s with ⟨e | b, s₁⟩
  · rw [hm] at ha
    exact nomatch ha
  · rw [hm] at ha
    exact h b s₁ hm a s' ha

/-- A run that starts by looking at the scene or at its text knows what it finds. -/
theorem yields_get_bind {f : Scene → Run α} (h : Yields p (f s) s) : Yields p (get >>= f) s := h

theorem yields_text_bind {f : Text → Run α} (h : Yields p (f s.document.text) s) :
    Yields p (text >>= f) s := h

theorem yields_ite {q : Prop} [Decidable q] {m m' : Run α} (h : Yields p m s)
    (h' : Yields p m' s) : Yields p (if q then m else m') s := by
  split
  · exact h
  · exact h'

/-! ## From addresses to spans -/

/-- Without an address nothing is found, and nothing happens. -/
theorem run_foundLines_of_not_mem (h : ∀ a, .address a ∉ tokens) (alone : Bool)
    (lines : Nat × Nat) (current : Nat) (found : List Nat) :
    (foundLines alone lines tokens current found).run s = (.ok found, s) := by
  induction tokens generalizing current with
  | nil => rfl
  | cons token tokens ih =>
    have htail : ∀ a, .address a ∉ tokens := fun a ha ↦ h a (List.mem_cons_of_mem token ha)
    cases token with
    | comma => exact ih htail current
    | semicolon => exact ih htail _
    | address a => exact absurd List.mem_cons_self (h a)

/-- An address finds a line. -/
theorem yields_foundLines_ne_nil {alone : Bool} {lines : Nat × Nat} (current : Nat)
    {found : List Nat} (h : found ≠ [] ∨ ∃ a, .address a ∈ tokens) :
    Yields (· ≠ []) (foundLines alone lines tokens current found) s := by
  induction tokens generalizing current found s with
  | nil => exact yields_pure (h.resolve_right fun ⟨_, ha⟩ ↦ List.not_mem_nil ha)
  | cons token tokens ih =>
    cases token with
    | comma =>
      exact ih current (h.imp_right fun ⟨a, ha⟩ ↦ ⟨a, (List.mem_cons.mp ha).resolve_left nofun⟩)
    | semicolon =>
      exact ih _ (h.imp_right fun ⟨a, ha⟩ ↦ ⟨a, (List.mem_cons.mp ha).resolve_left nofun⟩)
    | address a =>
      rw [foundLines]
      split
      · refine yields_bind fun _ _ h ↦ ?_
        cases h
      · exact yields_text_bind (yields_bind fun _ _ _ ↦ ih _ (.inl (List.cons_ne_nil _ _)))

theorem resolve_eq_ok {o : Option Span} (h : (resolve tokens).run s = (.ok o, s')) :
    ∃ found, (foundLines (tokens.length = 1) (s.document.lines s.range) tokens
      (s.document.lines s.range).2 []).run s = (.ok found, s') ∧ Address.spanOf found = o := by
  obtain ⟨s₀, s₁, hget, h⟩ := run_bind_eq_ok.mp h
  cases hget
  obtain ⟨found, s₂, hfound, h⟩ := run_bind_eq_ok.mp h
  cases h
  exact ⟨found, hfound, rfl⟩

/-- Only without an address no lines are meant. -/
theorem resolve_eq_none (h : (resolve tokens).run s = (.ok none, s')) :
    (∀ a, .address a ∉ tokens) ∧ s' = s := by
  obtain ⟨found, hfound, hspan⟩ := resolve_eq_ok h
  have hnil : found = [] := by
    match found, hspan with
    | [], _ => rfl
    | [_], h | _ :: _ :: _, h => cases h
  have htokens : ∀ a, .address a ∉ tokens := fun a ha ↦
    yields_foundLines_ne_nil _ (.inr ⟨a, ha⟩) _ _ hfound hnil
  rw [run_foundLines_of_not_mem htokens] at hfound
  exact ⟨htokens, (Prod.mk.inj hfound).2.symm⟩

/-- A command is carried out on the lines that its addresses mean, or on those that it works on by
default. -/
theorem approach_eq_some {c : Command} {name : CommandName} {span : Span}
    (h : (approach c).run s = (.ok (some (name, span)), s')) :
    c.name = some name ∧
      ((∃ s₁, (resolve c.addresses).run s = (.ok (some span), s₁)) ∨
        (resolve c.addresses).run s = (.ok none, s) ∧
          span = name.defaultSpan (s.document.lines s.range) s.document.text.lineCount) := by
  obtain ⟨addressed, s₁, hresolve, hrun⟩ := run_bind_eq_ok.mp h
  clear h
  cases hname : c.name with
  | none =>
    cases addressed <;> (simp only [hname] at hrun; cases hrun)
  | some n =>
    have hspan : n = name ∧ addressed.getD
        (n.defaultSpan (s₁.document.lines s₁.range) s₁.document.text.lineCount) = span := by
      simp only [hname] at hrun
      by_cases hkeep : n.defaultLines = .keep
      · cases addressed <;>
          (simp only [hkeep, ne_eq, not_true, if_false] at hrun; cases hrun; exact ⟨rfl, rfl⟩)
      · cases addressed <;>
          (simp only [hkeep, ne_eq, not_false_iff, if_true] at hrun; cases hrun; exact ⟨rfl, rfl⟩)
    obtain ⟨rfl, rfl⟩ := hspan
    cases addressed with
    | none =>
      obtain ⟨-, rfl⟩ := resolve_eq_none hresolve
      exact ⟨rfl, .inr ⟨hresolve, rfl⟩⟩
    | some span => exact ⟨rfl, .inl ⟨s₁, hresolve⟩⟩

/-- Only addresses alone have nothing to be carried out. -/
theorem approach_eq_none {c : Command} (h : (approach c).run s = (.ok none, s')) :
    c.name = none := by
  obtain ⟨addressed, s₁, -, hrun⟩ := run_bind_eq_ok.mp h
  clear h
  cases hname : c.name with
  | none => rfl
  | some n =>
    simp only [hname] at hrun
    by_cases hkeep : n.defaultLines = .keep
    · cases addressed <;> (simp only [hkeep, ne_eq, not_true, if_false] at hrun; cases hrun)
    · cases addressed <;> (simp only [hkeep, ne_eq, not_false_iff, if_true] at hrun; cases hrun)

/-- Addresses mean lines of the text, up to any that is not less than those counted, and than that
of the range where `%%` may be meant. -/
theorem yields_foundLines {n : Nat} {alone : Bool} {lines : Nat × Nat}
    (hlines : alone → ∀ offset, .address ⟨.currentRange, offset⟩ ∈ tokens → lines.1 ≤ n)
    (current : Nat) {found : List Nat} (hfound : ∀ k ∈ found, k ≤ n)
    (hn : s.document.text.lineCount ≤ n) :
    Yields (∀ k ∈ ·, k ≤ n) (foundLines alone lines tokens current found) s := by
  induction tokens generalizing current found s with
  | nil => exact yields_pure hfound
  | cons token tokens ih =>
    have htail := fun halone offset h ↦ hlines halone offset (List.mem_cons_of_mem token h)
    cases token with
    | comma => exact ih htail current hfound hn
    | semicolon => exact ih htail _ hfound hn
    | address a =>
      rw [foundLines]
      split
      · refine yields_bind fun _ _ h ↦ ?_
        cases h
      · next hmeant =>
        refine yields_text_bind (yields_bind fun line s₂ hline ↦ ?_)
        have haside : s.document.Aside s₂.document :=
          (keeps_baseLine (P := Scene.On Document.Aside) current lines a.base).of_run hline
        refine ih htail _ (List.forall_mem_cons.mpr ⟨?_, ?_⟩) (haside.text ▸ hn)
        · rw [Address.lineAt]
          omega
        · have hone : 1 ≤ n := Nat.le_trans (Text.one_le_lineCount _) hn
          obtain ⟨base, offset⟩ := a
          cases base with
          | whole => exact List.forall_mem_cons.mpr ⟨hone, hfound⟩
          | currentRange =>
            have halone : alone = true := by simpa using hmeant
            exact List.forall_mem_cons.mpr ⟨hlines halone offset List.mem_cons_self, hfound⟩
          | _ => exact hfound

/-- A span is in order, and of the lines of which it is made. -/
theorem le_of_spanOf {found : List Nat} {n : Nat} (h : ∀ k ∈ found, k ≤ n) {span : Span}
    (hspan : Address.spanOf found = some span) : span.first ≤ span.last ∧ span.last ≤ n := by
  match found, hspan with
  | [k], hspan =>
    obtain rfl := Option.some.inj hspan
    exact ⟨Nat.le_refl k, h k List.mem_cons_self⟩
  | b :: a :: _, hspan =>
    obtain rfl := Option.some.inj hspan
    have hb := h b List.mem_cons_self
    have ha := h a (List.mem_cons_of_mem b List.mem_cons_self)
    exact ⟨by simp only [Span.between]; omega, Nat.max_le.mpr ⟨ha, hb⟩⟩

theorem yields_resolve (tokens : List AddressToken) (s : Scene) :
    Yields (∀ span, · = some span → span.Fits s.document.text) (resolve tokens) s := by
  have hlines := Nat.le_trans (s.document.lines_fst_le_snd s.range) (s.document.lines_le s.range)
  refine yields_get_bind (yields_bind fun found _ hfound ↦ yields_pure fun span hspan ↦ ?_)
  have hle := yields_foundLines (fun _ _ _ ↦ hlines) _ (fun _ h ↦ absurd h List.not_mem_nil)
    s.document.text.lineCount_le_length_lines _ _ hfound
  exact ⟨(le_of_spanOf hle hspan).1, (le_of_spanOf hle hspan).2⟩

/-- By default a command works on lines of the text. -/
theorem fits_defaultSpan (name : CommandName) (d : Document) (id : RangeId) :
    (name.defaultSpan (d.lines id) d.text.lineCount).Fits d.text := by
  have hcount := d.text.lineCount_le_length_lines
  unfold CommandName.defaultSpan
  cases name.defaultLines with
  | current | keep => exact ⟨d.lines_fst_le_snd id, d.lines_le id⟩
  | whole => exact ⟨d.text.one_le_lineCount, hcount⟩
  | last => exact ⟨Nat.le_refl _, hcount⟩

/-- A command is carried out on lines of the text. -/
theorem fits_of_approach {c : Command} {name : CommandName} {span : Span} {s s' : Scene}
    (h : (approach c).run s = (.ok (some (name, span)), s')) : span.Fits s.document.text := by
  obtain ⟨-, ⟨s₁, hresolve⟩ | ⟨-, rfl⟩⟩ := approach_eq_some h
  · exact yields_resolve c.addresses s _ s₁ hresolve span rfl
  · exact fits_defaultSpan name s.document s.range

end Run

/-! ## Lines addressed by their numbers -/

namespace Address

theorem lineAt_le (n : Nat) (offset : Int) (total : Nat) : lineAt n offset total ≤ total := by
  unfold lineAt
  omega

theorem one_le_lineAt {n total : Nat} (hn : 1 ≤ n) (htotal : 1 ≤ total) :
    1 ≤ lineAt n 0 total := by
  unfold lineAt Text.toInteger Text.maxInteger
  omega

/-- A number of a line that is counted means that line. -/
theorem lineAt_zero {n total : Nat} (h : n ≤ total) (hn : (n : Int) ≤ Text.maxInteger) :
    lineAt n 0 total = n := by
  unfold lineAt Text.toInteger
  omega

theorem lineAt_eq_zero_iff {n total : Nat} (htotal : 1 ≤ total) :
    lineAt n 0 total = 0 ↔ n = 0 := by
  unfold lineAt Text.toInteger Text.maxInteger
  omega

/-- The lines from one number to another, cut to those that are counted. -/
def spanBetween (a b : Nat) (t : Text) : Span :=
  .between (lineAt a 0 t.lineCount) (lineAt b 0 t.lineCount)

variable {a b : Nat} {t : Text}

theorem one_le_first_spanBetween (ha : 1 ≤ a) (hb : 1 ≤ b) : 1 ≤ (spanBetween a b t).first :=
  Nat.le_min.mpr ⟨one_le_lineAt ha t.one_le_lineCount, one_le_lineAt hb t.one_le_lineCount⟩

theorem first_le_last_spanBetween : (spanBetween a b t).first ≤ (spanBetween a b t).last :=
  Nat.le_trans (Nat.min_le_left _ _) (Nat.le_max_left _ _)

theorem last_spanBetween_le : (spanBetween a b t).last ≤ t.lineCount :=
  Nat.max_le.mpr ⟨lineAt_le a 0 _, lineAt_le b 0 _⟩

end Address

namespace Run

open Address (lineAt spanBetween)

variable {s : Scene}

/-- Addresses that leave the scene as it is mean the span of the lines they find. -/
theorem run_resolve {tokens : List AddressToken} {found : List Nat}
    (h : (foundLines (tokens.length = 1) (s.document.lines s.range) tokens
      (s.document.lines s.range).2 []).run s = (.ok found, s)) :
    (resolve tokens).run s = (.ok (Address.spanOf found), s) := by
  have hget : (get : Run Scene).run s = (.ok s, s) := rfl
  rw [resolve, run_bind, hget]
  simp only
  rw [run_bind, h]
  rfl

theorem run_resolve_number (n : Nat) (s : Scene) :
    (resolve [.address ⟨.line n, 0⟩]).run s
      = (.ok (some (.single (lineAt n 0 s.document.text.lineCount))), s) := by
  have hspan : Address.spanOf [lineAt n 0 s.document.text.lineCount]
      = some (.single (lineAt n 0 s.document.text.lineCount)) := rfl
  rw [← hspan]
  exact run_resolve rfl

theorem run_resolve_numbers (a b : Nat) (s : Scene) :
    (resolve [.address ⟨.line a, 0⟩, .comma, .address ⟨.line b, 0⟩]).run s
      = (.ok (some (spanBetween a b s.document.text)), s) := by
  have hspan : Address.spanOf [lineAt b 0 s.document.text.lineCount,
      lineAt a 0 s.document.text.lineCount] = some (spanBetween a b s.document.text) := rfl
  rw [← hspan]
  exact run_resolve rfl

theorem run_resolve_line {n : Nat} (h : n ≤ s.document.text.lineCount)
    (hn : (n : Int) ≤ Text.maxInteger) :
    (resolve [.address ⟨.line n, 0⟩]).run s = (.ok (some (.single n)), s) := by
  rw [run_resolve_number, Address.lineAt_zero h hn]

theorem run_resolve_lines {a b : Nat} (hab : a ≤ b) (h : b ≤ s.document.text.lineCount)
    (hb : (b : Int) ≤ Text.maxInteger) :
    (resolve [.address ⟨.line a, 0⟩, .comma, .address ⟨.line b, 0⟩]).run s
      = (.ok (some ⟨a, b⟩), s) := by
  have ha : (a : Int) ≤ Text.maxInteger := Int.le_trans (Int.ofNat_le.mpr hab) hb
  rw [run_resolve_numbers, spanBetween, Address.lineAt_zero (Nat.le_trans hab h) ha,
    Address.lineAt_zero h hb, Span.between, Nat.min_eq_left hab, Nat.max_eq_right hab]

end Run

end LineEditor
