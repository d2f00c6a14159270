import LineEditor.Proofs.Pattern.Looks
import LineEditor.Proofs.Search.Replacing
import LineEditor.Proofs.Session.Scan
import LineEditor.Proofs.Session.Searching

/-!
# Lines that match

Three commands ask whether a pattern matches in a line. Global commands and addresses take the line
by itself. A substitution takes the text up to the end of the line and searches it from the start of
the line on, so that the pattern sees what stands in front: nothing in the first line, and the
separator of the line before in any other.

To a program it makes no difference how much text there is in front of that separator. And the
separator itself makes a difference to a condition only that asks for the start of the text: such a
one holds at the start of a line that is alone, and nowhere in a line behind others. Without it, the
three commands agree.
-/

namespace LineEditor

open Text (separator closed)

/-- What a pattern says, read under the flags; `none` if it is malformed. -/
def SearchFlags.parsed? (f : SearchFlags) (pattern : Text) : Option Pattern.Parsed :=
  Pattern.parse?
    { ignoreCase := f.ignoreCase, multiLine := f.multiLine, dotAll := f.dotAll,
      unicode := f.unicode }
    (if f.magic then pattern else Pattern.literal pattern)

/-- The matcher of a pattern that has been read. -/
def Matcher.ofParsed (p : Pattern.Parsed) : Matcher :=
  ⟨(Pattern.Program.ofExpr p.expr p.groups).search⟩

theorem Document.matcher_of_parsed? {f : SearchFlags} {pattern : Text} {p : Pattern.Parsed}
    (h : f.parsed? pattern = some p) : matcher f pattern = .ok (.ofParsed p) := by
  have hmatcher : f.matcher? pattern = (f.parsed? pattern).map Matcher.ofParsed := rfl
  rw [matcher, hmatcher, h]
  rfl

/-! ## Replacing where something matches -/

namespace Search

variable {m : Matcher} {t hay template : Text} {all backward magic : Bool} {start : Nat}
  {region : Bounds}

theorem matchesFrom_eq_nil_iff (all : Bool) (h : start ≤ hay.length) :
    matchesFrom m hay all start none = [] ↔ m.firstFrom hay start = none := by
  rw [matchesFrom, dif_pos h]
  cases m.firstFrom hay start with
  | none => exact iff_of_true rfl rfl
  | some c =>
    have hnone : ¬ (c.whole.start = c.whole.stop ∧ none = some c.whole.start) := fun h ↦
      Option.some_ne_none c.whole.start h.2.symm
    simp only [if_neg hnone]
    exact iff_of_false (List.cons_ne_nil _ _) (Option.some_ne_none c)

/-- Nothing is replaced exactly if nothing matches from the start of the region on. -/
theorem replace_eq_none_iff (hle : region.start ≤ region.stop) (hstop : region.stop ≤ t.length) :
    replace m t region template all backward magic = none
      ↔ m.firstFrom (t.take region.stop) region.start = none := by
  have hstart : region.start ≤ (t.take region.stop).length := by
    rwa [List.length_take_of_le hstop]
  rw [replace_eq_none (Nat.le_trans hle hstop), matchesFrom_eq_nil_iff true hstart]

end Search

/-! ## A line behind others -/

namespace Matcher

variable {t : Text} {n : Nat}

/-- A search in a line, with the lines in front of it, sees the separator of the line before and
nothing else of them. -/
theorem isSome_firstFrom_closed (p : Pattern.Parsed) {xs : List Text} (hxs : xs ≠ []) (l : Text) :
    ((ofParsed p).firstFrom (closed xs ++ l) (closed xs).length).isSome
      = ((ofParsed p).firstFrom (separator :: l) 1).isSome := by
  have hlast : (Text.unlines xs ++ [separator]).getLast? = some separator := List.getLast?_concat
  have hsearch := Pattern.Program.search_append (p := .ofExpr p.expr p.groups) (Text.unlines xs)
    (separator :: l) (Nat.le_add_left 1 l.length) (hlast ▸ .refl _ _)
  rw [Text.closed_eq hxs, List.append_assoc, List.length_append]
  exact (congrArg Option.isSome hsearch).trans Option.isSome_map

/-- Unless the pattern asks for the start of the text, it does not see that either. -/
theorem isSome_firstFrom_separator {p : Pattern.Parsed} (h : .textStart ∉ p.expr.looks) (l : Text) :
    ((ofParsed p).firstFrom (separator :: l) 1).isSome = (ofParsed p).occursIn l := by
  have hsearch := Pattern.Program.search_append (p := .ofExpr p.expr p.groups) [separator] l
    (Nat.zero_le _) (Pattern.Program.alike_separator h p.groups)
  exact (congrArg Option.isSome hsearch).trans Option.isSome_map

end Matcher

/-- Something is replaced in a line exactly if a search in the text up to its end finds something
from its start on. -/
theorem Document.Replacement.inLine?_eq_none_iff {r : Document.Replacement} {t : Text} {n : Nat}
    (hn : n < t.lines.length) :
    r.inLine? t (n + 1) = none
      ↔ r.matcher.firstFrom (closed (t.lines.take n) ++ t.line (n + 1))
          (closed (t.lines.take n)).length = none := by
  obtain ⟨hle, hstop, -, htake, -⟩ := Bounds.splice_inLines hn (rfl : t.lines.take (n + 1) = _)
  rw [inLine?, Search.replace_eq_none_iff hle hstop, htake, Bounds.inLines_of_take hn rfl]

/-! ## Lines by themselves -/

/-- In each round of a scan, the line is hit as the matcher says of the line alone. -/
theorem Scan.hit_iff {m : Matcher} {expected : Bool} {body : Run Unit} {line last : Nat} {s : Scene}
    {rounds : List Round} {r : Except Error Unit × Scene}
    (h : Scan m expected body line last s rounds r) :
    ∀ round ∈ rounds, round.hit = true ↔ m.occursIn round.tested = expected := by
  induction h with
  | done => exact fun _ hround ↦ absurd hround List.not_mem_nil
  | pass _ hline _ ih => exact List.forall_mem_cons.mpr ⟨iff_of_false nofun hline, ih⟩
  | hit _ hline _ _ _ ih => exact List.forall_mem_cons.mpr ⟨iff_of_true rfl hline, ih⟩
  | fail _ hline _ =>
    exact List.forall_mem_cons.mpr
      ⟨iff_of_true rfl hline, fun _ hround ↦ absurd hround List.not_mem_nil⟩

/-- An address for a pattern can find a line exactly if the pattern matches in the line alone. -/
theorem Address.exists_searchLine?_iff {m : Matcher} {t : Text} {n : Nat} (hpos : 1 ≤ n)
    (hn : n ≤ t.lineCount) (wrap : Bool) :
    (∃ current, searchLine? m t current false wrap = some n) ↔ m.occursIn (t.line n) = true := by
  constructor
  · rintro ⟨current, hfound⟩
    rw [searchLine?_eq_find?] at hfound
    have hmatch := List.find?_some hfound
    exact hmatch
  · intro hmatch
    -- from the line in front, no line is nearer
    have hahead : n - 1 < n := Nat.sub_lt hpos Nat.one_pos
    have hsteps (k : Nat) (hk : k ≤ t.lineCount) :
        steps (n - 1) t.lineCount false n ≤ steps (n - 1) t.lineCount false k := by
      unfold steps
      grind
    exact ⟨n - 1, (searchLine?_eq_some_iff (Nat.le_trans (Nat.sub_le n 1) hn) m false wrap n).mpr
      ⟨⟨hpos, hn, .inr hahead⟩, hmatch, fun k hk _ ↦ hsteps k hk.2.1⟩⟩

namespace Run

/-! ## Patterns that are searched for -/

/-- A global command goes by the pattern that it notes as searched for. -/
theorem matcher_of_startGlobal {parameter body : Text} {s s' : Scene} {m : Matcher}
    (h : (startGlobal parameter).run s = (.ok (m, body), s')) :
    ∃ pattern, s'.session.lastSearch = some pattern ∧
      Document.matcher (SearchFlags.ofOptions s.document.options) pattern = .ok m := by
  obtain ⟨session, s₁, hsession, h⟩ := run_bind_eq_ok.mp h
  cases hsession
  by_cases hs : s.session.inGlobal = true
  · rw [if_pos hs] at h
    exact absurd h nofun
  rw [if_neg hs] at h
  extract_lets parameter' at h
  cases hc : delimiter? parameter' with
  | none =>
    rw [hc] at h
    exact absurd h nofun
  | some c =>
    rw [hc] at h
    obtain ⟨pattern, s₁, hpattern, h⟩ := run_bind_eq_ok.mp h
    obtain ⟨o, s₂, hoptions, h⟩ := run_bind_eq_ok.mp h
    obtain ⟨m', s₃, hm, h⟩ := run_bind_eq_ok.mp h
    have hglance : s.Glance s₁ := (keeps_patternOrLast _).of_run hpattern
    cases hoptions
    refine ⟨pattern, ?_⟩
    rw [← hglance.document]
    cases hmatcher : Document.matcher (SearchFlags.ofOptions s₁.document.options) pattern with
    | error e =>
      rw [hmatcher] at hm
      exact absurd hm nofun
    | ok m₁ =>
      rw [hmatcher] at hm
      cases hm
      cases h
      exact ⟨rfl, rfl⟩

/-- An address that is written with a pattern finds lines by the matcher of the pattern. -/
theorem baseLine_search_eq_ok_iff {written pattern : Text} {s : Scene} {m : Matcher} {n : Nat}
    (current : Nat) (lines : Nat × Nat)
    (hpattern : (patternOrLast written).run s = (.ok pattern, s))
    (hm : Document.matcher (SearchFlags.ofOptions s.document.options) pattern = .ok m) :
    ((baseLine current lines (.search written [] false)).run s).1 = .ok n
      ↔ Address.searchLine? m s.document.text current false s.document.options.wrapscan
        = some n := by
  rw [run_baseLine_search current lines false hpattern rfl hm]
  have hforward : ((SearchFlags.ofOptions s.document.options).backward ^^ false) = false := rfl
  have hwrap : (SearchFlags.ofOptions s.document.options).wrapScan = s.document.options.wrapscan :=
    rfl
  rw [hforward, hwrap]
  cases Address.searchLine? m s.document.text current false s.document.options.wrapscan with
  | none => exact iff_of_false nofun (Option.some_ne_none n).symm
  | some k =>
    exact ⟨fun h ↦ congrArg some (Except.ok.inj h), fun h ↦ congrArg Except.ok (Option.some.inj h)⟩

variable {c : Command} {name : CommandName} {span : Span} {s s₁ s₂ : Scene} {sub : Substitution}
  {r : Document.Replacement} {count : Option Nat} {p : Pattern.Parsed} {n : Nat}

/-- **Substitutions and lines that match.** A substitution on line `n` fails because nothing matches
unless a search that starts at the line finds something in it, seen behind the separator of the line
before if there is one. If the line is the first one, or if the pattern does not ask for the start
of the text, this is so exactly if the pattern matches in the line alone. And that is what global
commands for the pattern go by in each line that they look at, and what it takes for an address that
is written with the pattern to find the line. -/
theorem found_executeWith (runLine : Text → Run Unit) (hname : name.substitutes = true)
    (happroach : (approach c).run s = (.ok (some (name, span)), s₁))
    (hsub : (substitutionOf name c.parameter).run s₁.opened = (.ok sub, s₂))
    (hread : sub.read s.document.options = .ok (r, count))
    (hmultiline : s.document.options.multiline = false) (hout : s.session.inGlobal = false)
    (hparsed : (SearchFlags.ofOptions s.document.options).parsed? sub.pattern = some p)
    (hmatcher : r.matcher = .ofParsed p)
    (hline : span.counted count s.document.text.lineCount = .single n) :
    let result := (executeWith runLine c).run s
    let t := s.document.text
    let m := Matcher.ofParsed p
    let alone := m.occursIn (t.line n) = true
    let found := result.1 ≠ .error (.patternNotFound sub.pattern)
    (found ↔ if n = 1 then alone else (m.firstFrom (separator :: t.line n) 1).isSome = true) ∧
      (n = 1 ∨ .textStart ∉ p.expr.looks → (found ↔ alone)) ∧
      (∀ runLine span parameter s' m' body s'', s'.document.options = s.document.options →
        (startGlobal parameter).run s' = (.ok (m', body), s'') →
        s''.session.lastSearch = some sub.pattern →
        ∃ rounds e,
          Scan m' true (body.lines.forM runLine) (max span.first 1) span.last s'' rounds e ∧
          ((global runLine span parameter true).run s').1 = e.1 ∧
          ∀ round ∈ rounds, round.tested = t.line n → (round.hit = true ↔ alone)) ∧
      (n ≤ t.lineCount → ∀ written, (patternOrLast written).run s = (.ok sub.pattern, s) →
        ((∃ current lines,
          ((baseLine current lines (.search written [] false)).run s).1 = .ok n) ↔ alone)) := by
  intro result t m alone found
  obtain ⟨hstays, x, s', hrun, hends, -, -⟩ :=
    exists_run_substituting runLine hname happroach hsub hread
  obtain ⟨hfirst, hle, -, hlast⟩ :=
    (fits_of_approach happroach).counted (count_ne_zero_of_read hread)
  rw [hline] at hends hfirst hle hlast
  simp only [Span.single] at hends hfirst hle hlast
  obtain ⟨k, rfl⟩ : ∃ k, n = k + 1 := ⟨n - 1, (Nat.sub_add_cancel hfirst).symm⟩
  have hk : k < t.lines.length := hlast
  -- the substitution finds something if it can replace something in its line
  obtain ⟨-, -, hcount, -⟩ :=
    Document.substituteLines_eq (d := s₂.document)
      (by rw [hstays.options, hmultiline]) hfirst hle (by rw [hstays.text]; exact hlast) r
  have hone : List.range' (k + 1) (k + 1 + 1 - (k + 1)) = [k + 1] := by
    rw [Nat.add_sub_cancel_left]
    rfl
  rw [hone, List.forall_mem_singleton, hstays.text,
    Document.Replacement.inLine?_eq_none_iff hk, hmatcher] at hcount
  have hfound : found ↔ (m.firstFrom (closed (t.lines.take k) ++ t.line (k + 1))
      (closed (t.lines.take k)).length).isSome = true := by
    have hresult : result = (x, s') := hrun
    simp only [found, hresult]
    rw [Option.isSome_iff_ne_none]
    rcases hends with ⟨rfl, hzero, -⟩ | ⟨rfl, hne | hin⟩
    · exact iff_of_false (fun h ↦ h rfl) fun h ↦ h (hcount.mp hzero)
    · exact iff_of_true (by simp) fun h ↦ hne (hcount.mpr h)
    · exact absurd (hout.symm.trans hin) Bool.false_ne_true
  have hplace : found ↔ if k + 1 = 1 then alone
      else (m.firstFrom (separator :: t.line (k + 1)) 1).isSome = true := by
    rw [hfound]
    cases k with
    | zero => exact Iff.rfl
    | succ k =>
      have hfront : t.lines.take (k + 1) ≠ [] := by
        rw [Text.take_lines_succ (Nat.lt_of_succ_lt hk)]
        exact List.append_ne_nil_of_right_ne_nil _ (List.cons_ne_nil _ [])
      rw [Matcher.isSome_firstFrom_closed p hfront, if_neg (by omega)]
  refine ⟨hplace, fun h ↦ hplace.trans ?_, ?_, fun hn written hwritten ↦ ?_⟩
  · split
    · exact Iff.rfl
    · next hne => rw [Matcher.isSome_firstFrom_separator (h.resolve_left hne)]
  · intro runLine span parameter s' m' body s'' hoptions hstart hsearch
    obtain ⟨pattern, hpattern, hm'⟩ := matcher_of_startGlobal hstart
    obtain rfl : pattern = sub.pattern := Option.some.inj (hpattern.symm.trans hsearch)
    rw [hoptions, Document.matcher_of_parsed? hparsed] at hm'
    obtain rfl : m = m' := Except.ok.inj hm'
    obtain ⟨rounds, e, hscan⟩ := Scan.exists_rounds m true (body.lines.forM runLine)
      (max span.first 1) span.last s''
    refine ⟨rounds, e, hscan, ?_, fun round hround htested ↦ ?_⟩
    · rw [global, run_bind, hstart]
      simp only
      rw [run_endingGlobal, hscan.run_globalFrom]
    · rw [hscan.hit_iff round hround, htested]
  · have hm := Document.matcher_of_parsed? hparsed
    refine Iff.trans ?_
      (Address.exists_searchLine?_iff (Nat.le_add_left 1 k) hn s.document.options.wrapscan)
    refine exists_congr fun current ↦ ?_
    simp only [baseLine_search_eq_ok_iff current _ hwritten hm, exists_const]
    rfl

/-- A word that begins with the second line is found there, with a separator in front of it. -/
theorem found_executeWith_word :
    let s := Cli.initial {} {} [] "a\nb".toList
    let result := (execute (.onLine .substitute 2 "/\\bb$/X/".toList)).run s
    result.1 ≠ .error (.patternNotFound "\\bb$".toList) := by
  intro s result
  let c : Command := .onLine .substitute 2 "/\\bb$/X/".toList
  let sub : Substitution := ⟨"\\bb$".toList, ['X'], []⟩
  have happroach : (approach c).run s
      = (.ok (some (.substitute, ⟨2, 2⟩)), ((approach c).run s).2) := Prod.ext (by rfl) rfl
  have hsub : (substitutionOf .substitute c.parameter).run ((approach c).run s).2.opened
      = (.ok sub, ((approach c).run s).2.opened) := Prod.ext (by rfl) (by rfl)
  obtain ⟨p, hparsed⟩ : ∃ p, SearchFlags.parsed? {} "\\bb$".toList = some p :=
    Option.isSome_iff_exists.mp (by rfl)
  have hlooks : ∀ p ∈ SearchFlags.parsed? {} "\\bb$".toList, .textStart ∉ p.expr.looks := by
    decide
  have hread : sub.read s.document.options
      = .ok (⟨.ofParsed p, sub.replacement, false, true⟩, none) :=
    read_eq_ok.mpr ⟨⟨false, false, []⟩, _, rfl, Document.matcher_of_parsed? hparsed, rfl, rfl⟩
  obtain ⟨-, hfound, -⟩ :=
    found_executeWith innerLine rfl happroach hsub hread rfl rfl hparsed rfl (n := 2)
      (by rfl)
  have hresult : result = (executeWith innerLine c).run s := rfl
  rw [hresult]
  refine (hfound (.inr (hlooks p hparsed))).mpr ?_
  have halone : ∀ p ∈ SearchFlags.parsed? {} "\\bb$".toList,
      (Matcher.ofParsed p).occursIn ['b'] = true := by
    decide
  exact halone p hparsed

/-- Whether a run has failed with an error. -/
instance (x : Except Error Unit) (e : Error) : Decidable (x = .error e) :=
  match x with
  | .ok _ => isFalse nofun
  | .error e' => decidable_of_iff (e' = e) ⟨congrArg Except.error, Except.error.inj⟩

/-- The start of the text is found in the second line alone, and so a global command and an address
find it. A substitution does not, in the line behind the first one. -/
theorem not_found_executeWith :
    let s := Cli.initial {} {} [] "a\nb".toList
    let result (name : CommandName) (first : Nat) (parameter : String) :=
      (execute (.onLines name first 2 parameter.toList)).run s
    let m := Matcher.ofPattern? {} ['^', 'b']
    (result .substitute 2 "/^b/X/").1 = .error (.patternNotFound ['^', 'b']) ∧
      s.document.text.line 2 = ['b'] ∧ m.map (fun m ↦ m.occursIn ['b']) = some true ∧
      (result .global 1 "/^b/d").2.document.text = ['a'] ∧
      m.map (fun m ↦ Address.searchLine? m s.document.text 1 false true) = some (some 2) := by
  decide +kernel

end Run

end LineEditor
