import LineEditor.Proofs.Document.Substituting
import LineEditor.Proofs.Session.Copying
import LineEditor.Proofs.Session.Spans

/-!
# Substituting with a command

A command that substitutes reads its pattern and flags, finds out which lines are meant, and leaves
the rest to the document; then it counts what has been replaced, and puts the range on the line that
was replaced first, which is the last one in the text. `run_substitute` is the only place where the
command is taken apart, and `exists_run_substituting` says what comes of it together with what is
done before and behind it by any command.

The number of the line is noted when the line is replaced, and lines in front of it are replaced
afterwards. If one of these becomes several lines, the number belongs to another line then.
-/

namespace LineEditor

open Text (separator unlines)

/-- The command replaces matches of a pattern. -/
def CommandName.substitutes : CommandName → Bool
  | substitute | again | againWithSearch => true
  | _ => false

/-- What a substitution asks for: how matches are replaced, and the count behind the flags. -/
def Substitution.read (s : Substitution) (o : Options) :
    Except Error (Document.Replacement × Option Nat) :=
  match SubstitutionFlags.override ⟨o.global, o.ignorecase, []⟩ s.flags with
  | .error e => .error (.parse e)
  | .ok flags =>
    (Document.matcher { SearchFlags.ofOptions o with ignoreCase := flags.ignoreCase } s.pattern).map
      fun m ↦ (⟨m, s.replacement, flags.all, o.magic⟩, flags.count?)

/-- The matcher of a pattern that is well formed. -/
theorem Document.matcher_of_isSome {f : SearchFlags} {p : Text} (h : (f.matcher? p).isSome) :
    matcher f p = .ok ((f.matcher? p).getD ⟨fun _ _ ↦ none⟩) := by
  obtain ⟨m, hm⟩ := Option.isSome_iff_exists.mp h
  rw [matcher, hm]
  rfl

namespace Run

variable {c : Command} {name : CommandName} {span : Span} {s s₁ s₂ : Scene} {sub : Substitution}
  {r : Document.Replacement} {count : Option Nat} {parameter : Text}

theorem read_eq_ok {o : Options} :
    sub.read o = .ok (r, count) ↔
      ∃ flags m, SubstitutionFlags.override ⟨o.global, o.ignorecase, []⟩ sub.flags = .ok flags ∧
        Document.matcher { SearchFlags.ofOptions o with ignoreCase := flags.ignoreCase } sub.pattern
          = .ok m ∧ r = ⟨m, sub.replacement, flags.all, o.magic⟩ ∧ count = flags.count? := by
  unfold Substitution.read
  constructor
  · intro h
    split at h
    · exact absurd h nofun
    · next flags hflags =>
      cases hm : Document.matcher { SearchFlags.ofOptions o with ignoreCase := flags.ignoreCase }
          sub.pattern with
      | error e =>
        rw [hm] at h
        exact absurd h nofun
      | ok m =>
        rw [hm] at h
        cases h
        exact ⟨flags, m, hflags, hm, rfl, rfl⟩
  · rintro ⟨flags, m, hflags, hm, rfl, rfl⟩
    simp only [hflags, hm]
    rfl

theorem count_ne_zero_of_read {o : Options} (h : sub.read o = .ok (r, count)) :
    count ≠ some 0 := by
  obtain ⟨flags, m, -, -, -, rfl⟩ := read_eq_ok.mp h
  intro hzero
  exact absurd (Option.filter_eq_some_iff.mp hzero).2 (by decide)

/-- Replaces matches in lines, and fails or moves to one of them. -/
def replaceIn (r : Document.Replacement) (lines : Span) (sub : Substitution) : Run Unit := do
  let result := (← document).substituteLines r lines.first lines.last
  modifyDocument fun _ ↦ result.document
  modifySession fun session ↦ { session with lastSearch := some sub.pattern }
  if result.count = 0 then
    if (← session).inGlobal then return else throw (.patternNotFound sub.pattern)
  modifySession fun session ↦ { session with lastSubstitution := some sub }
  match result.line? with
  | some n => moveToLine (min n (← text).lineCount)
  | none => pure ()

theorem run_substitute (hsub : (substitutionOf name parameter).run s = (.ok sub, s₁))
    (hread : sub.read s₁.document.options = .ok (r, count)) :
    (substitute span name parameter).run s
      = (replaceIn r (span.counted count s₁.document.text.lineCount) sub).run s₁ := by
  obtain ⟨flags, m, hflags, hm, rfl, rfl⟩ := read_eq_ok.mp hread
  have hoptions : options.run s₁ = (.ok s₁.document.options, s₁) := rfl
  have htext : text.run s₁ = (.ok s₁.document.text, s₁) := rfl
  have hflags' : SubstitutionFlags.override ⟨s₁.document.options.global,
    (SearchFlags.ofOptions s₁.document.options).ignoreCase, []⟩ sub.flags = .ok flags := hflags
  rw [substitute, run_bind, hsub]
  simp only
  rw [run_bind, hoptions]
  simp only [hflags', pure_bind]
  rw [run_bind, htext]
  simp only
  rw [run_bind]
  simp only [hm]
  rfl

/-- The scene in which replacements have been made in lines, before they are counted. -/
def replacedIn (s : Scene) (made : Document.Substituted) (sub : Substitution) : Scene :=
  let s := s.withDocument made.document
  { s with session := { s.session with lastSearch := some sub.pattern } }

/-- The scene after that, if there are any. -/
def movedIn (s : Scene) (sub : Substitution) (n : Nat) : Scene :=
  let s := { s with session := { s.session with lastSubstitution := some sub } }
  let n := min n s.document.text.lineCount
  s.withDocument (s.document.moveToLines s.range n n)

theorem run_replaceIn (r : Document.Replacement) (lines : Span) (sub : Substitution) (s : Scene) :
    let made := s.document.substituteLines r lines.first lines.last
    (replaceIn r lines sub).run s = (do
      if made.count = 0 then
        if (← session).inGlobal then return else throw (.patternNotFound sub.pattern)
      modifySession fun session ↦ { session with lastSubstitution := some sub }
      match made.line? with
      | some n => moveToLine (min n (← text).lineCount)
      | none => pure () : Run Unit).run (replacedIn s made sub) := rfl

/-- Where nothing matches, nothing else happens. -/
theorem run_replaceIn_of_count_eq_zero {lines : Span}
    (h : (s.document.substituteLines r lines.first lines.last).count = 0) :
    (replaceIn r lines sub).run s
      = (if s.session.inGlobal then .ok () else .error (.patternNotFound sub.pattern),
        replacedIn s (s.document.substituteLines r lines.first lines.last) sub) := by
  rw [run_replaceIn, if_pos h]
  generalize s.document.substituteLines r lines.first lines.last = made
  have hsession : session.run (replacedIn s made sub)
      = (.ok (replacedIn s made sub).session, replacedIn s made sub) := rfl
  rw [run_bind, hsession]
  simp only
  have hglobal : (replacedIn s made sub).session.inGlobal = s.session.inGlobal := rfl
  rw [hglobal]
  cases s.session.inGlobal <;> rfl

/-- Otherwise the range is put on a line. -/
theorem run_replaceIn_of_line? {lines : Span} {n : Nat}
    (hcount : (s.document.substituteLines r lines.first lines.last).count ≠ 0)
    (hline : (s.document.substituteLines r lines.first lines.last).line? = some n) :
    (replaceIn r lines sub).run s
      = (.ok (), movedIn (replacedIn s (s.document.substituteLines r lines.first lines.last) sub)
          sub n) := by
  rw [run_replaceIn, if_neg hcount, hline]
  rfl

/-! ## Around a substitution -/

/-- A command that fails after its lines are found leaves no mark. -/
theorem run_executeWith_of_error {e : Error} {runLine : Text → Run Unit}
    (hwalk : name.walksHistory = false)
    (happroach : (approach c).run s = (.ok (some (name, span)), s₁))
    (hdispatch : (dispatch runLine name c span).run s₁.opened = (.error e, s₂)) :
    (executeWith runLine c).run s = (.error e, s₂.closed) := by
  rw [executeWith, run_bind, happroach]
  simp only
  rw [run_bind, carryOut, if_neg (by rw [hwalk]; exact Bool.false_ne_true), run_grouped, hdispatch]

theorem inGlobal_approach (h : (approach c).run s = (.ok (some (name, span)), s₁)) :
    s₁.opened.session.inGlobal = s.session.inGlobal := by
  obtain ⟨hname, ⟨s₀, hresolve⟩ | ⟨hresolve, -⟩⟩ := approach_eq_some h
  · have hglance : s.Glance s₀ := (keeps_resolve c.addresses).of_run hresolve
    obtain ⟨s', happroach, happroached⟩ := run_approach_of_resolve hname hresolve
    obtain ⟨-, rfl⟩ := Prod.mk.inj (happroach.symm.trans h)
    rw [happroached.session, hglance.inGlobal]
  · obtain ⟨-, rfl⟩ := Prod.mk.inj ((run_approach_of_none hname hresolve).symm.trans h)
    rfl

theorem dispatch_substitute (runLine : Text → Run Unit) (hname : name.substitutes = true)
    (c : Command) (span : Span) :
    dispatch runLine name c span = substitute span name c.parameter := by
  cases name with
  | substitute | again | againWithSearch => rfl
  | _ => exact absurd hname Bool.false_ne_true

/-- A substitution that has been read comes to what the document makes of it. -/
theorem exists_run_substituting (runLine : Text → Run Unit) (hname : name.substitutes = true)
    (happroach : (approach c).run s = (.ok (some (name, span)), s₁))
    (hsub : (substitutionOf name c.parameter).run s₁.opened = (.ok sub, s₂))
    (hread : sub.read s.document.options = .ok (r, count)) :
    let lines := span.counted count s.document.text.lineCount
    let made := s₂.document.substituteLines r lines.first lines.last
    s.document.Stays s₂.document ∧
      ∃ x s', (executeWith runLine c).run s = (x, s') ∧
        (x = .error (.patternNotFound sub.pattern) ∧ made.count = 0 ∧ s.session.inGlobal = false ∨
          x = .ok () ∧ (made.count ≠ 0 ∨ s.session.inGlobal = true)) ∧
        made.document.Stays s'.document ∧
        (s.IsApart → ∀ n, made.count ≠ 0 → made.line? = some n →
          s'.document.bounds s'.range
            = (made.document.moveToLines s.range (min n made.document.text.lineCount)
                (min n made.document.text.lineCount)).bounds s.range) := by
  intro lines made
  have hwalk : name.walksHistory = false := by cases name <;> first | rfl | cases hname
  have hglance : s₁.opened.Glance s₂ := (keeps_substitutionOf name c.parameter).of_run hsub
  have hstays : s.document.Stays s₂.document := hglance.document ▸ (stays_approach happroach).1
  have hglobal : s₂.session.inGlobal = s.session.inGlobal :=
    hglance.inGlobal.trans (inGlobal_approach happroach)
  have hdispatch : (dispatch runLine name c span).run s₁.opened
      = (replaceIn r lines sub).run s₂ := by
    rw [dispatch_substitute runLine hname, run_substitute hsub (hstays.options ▸ hread),
      hstays.text]
  have hrange : s₂.range = s.range :=
    hglance.range.trans ((keeps_approach (P := Scene.Aside) c).of_run happroach).range
  refine ⟨hstays, ?_⟩
  by_cases hcount : made.count = 0
  · have hrun := hdispatch.trans (run_replaceIn_of_count_eq_zero hcount)
    rw [hglobal] at hrun
    have hreplaced : made.document.Stays (replacedIn s₂ made sub).document := ⟨rfl, rfl⟩
    cases hinside : s.session.inGlobal with
    | true =>
      rw [hinside] at hrun
      obtain ⟨s', hexecute, -, hafter, -⟩ := exists_run_executeWith hwalk happroach hrun
      exact ⟨_, s', hexecute, .inr ⟨rfl, .inr rfl⟩, hreplaced.trans hafter,
        fun _ n hne ↦ absurd hcount hne⟩
    | false =>
      rw [hinside] at hrun
      exact ⟨_, _, run_executeWith_of_error hwalk happroach hrun, .inl ⟨rfl, hcount, rfl⟩,
        hreplaced.trans (Scene.stays_closed _), fun _ n hne ↦ absurd hcount hne⟩
  · obtain ⟨n, hline⟩ : ∃ n, made.line? = some n := Option.ne_none_iff_exists'.mp fun hnone ↦
      hcount ((s₂.document.count_substituteLines_eq_zero_iff r lines.first lines.last).mpr hnone)
    have hrun := hdispatch.trans (run_replaceIn_of_line? hcount hline)
    obtain ⟨s', hexecute, hmark, hafter, -⟩ := exists_run_executeWith hwalk happroach hrun
    have hmoved : made.document.Stays (movedIn (replacedIn s₂ made sub) sub n).document := ⟨rfl, rfl⟩
    refine ⟨_, s', hexecute, .inr ⟨rfl, .inl hcount⟩, hmoved.trans hafter, ?_⟩
    intro hs k hk hlast
    obtain rfl : n = k := Option.some.inj (hline.symm.trans hlast)
    have hapart : (movedIn (replacedIn s₂ made sub) sub n).IsApart :=
      (isApart_opened hs happroach).of_run
        (by rw [dispatch_substitute runLine hname]; exact keeps_substitute _ _ _) hrun
    rw [(bounds_closed_bookmark hapart hmark).2, ← hrange]
    rfl

end Run

end LineEditor
