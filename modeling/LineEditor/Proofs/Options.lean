import LineEditor.Config
import Mathlib.Data.List.Basic
import Mathlib.Data.List.TakeDrop
import Mathlib.Data.List.TakeWhile

/-!
# Requests about options

A value gets into the options by a direct setting, by a token of the `set` command in one of its
forms, by the option's own command, or by the settings that a document starts with. All of these
end in `set`, which checks first and puts the value in its place afterwards. Therefore options stay
*well kept*: each of them has a value that its kind admits, and a pattern can be read as one.

A call *names* one option, and no call but the one for all options names none. What a call that is
not refused comes to is a choice of two: it shows something and leaves the options alone, or it sets
the option that it names.
-/

namespace LineEditor

variable {o o' : Options} {option other : OptionName} {value : OptionValue} {a : Answer}
  {t : Text}

/-! ## Options that are well kept -/

/-- A kind of option admits a value. -/
def OptionKind.Admits : OptionKind → OptionValue → Prop
  | .flag, .flag _ => True
  | .number, .number _ => True
  | .pattern, .text t => Options.isPattern t
  | .text, .text _ => True
  | _, _ => False

namespace Options

/-- Every option has a value that its kind admits. -/
def IsWellKept (o : Options) : Prop := ∀ option : OptionName, option.kind.Admits (o.get option)

/-- Putting a value in its place leaves all other options alone. -/
theorem get_of_put?_of_ne (h : o.put? option value = some o') (hne : other ≠ option) :
    o'.get other = o.get other := by
  cases option <;> cases value <;> simp only [put?, Option.some.injEq, reduceCtorEq] at h <;>
    subst h <;> cases other <;> first | rfl | exact absurd rfl hne

/-- What can be set are the values that the kind of the option admits, whatever is set already. -/
theorem exists_set_iff (o : Options) (option : OptionName) (value : OptionValue) :
    (∃ o', o.set option value = .ok o') ↔ option.kind.Admits value := by
  cases option <;> cases value <;> simp [set, put?, OptionName.kind, OptionKind.Admits]
  -- a pattern is looked at before it is put in its place
  all_goals split <;> simp_all

/-- Setting an option leaves all others alone. -/
theorem get_of_set_of_ne (h : o.set option value = .ok o') (hne : other ≠ option) :
    o'.get other = o.get other :=
  get_of_put?_of_ne (put?_of_set h) hne

/-- Setting an option keeps options well kept. -/
theorem IsWellKept.set (hkept : o.IsWellKept) (h : o.set option value = .ok o') :
    o'.IsWellKept := fun other ↦ by
  by_cases hother : other = option
  · rw [hother, get_of_set h]
    exact (exists_set_iff o option value).mp ⟨o', h⟩
  · rw [get_of_set_of_ne h hother]
    exact hkept other

/-- The options that no settings have been made in are well kept. -/
theorem isWellKept_default : ({} : Options).IsWellKept := fun option ↦ by
  cases option
  case paragraphs => exact (by decide +kernel : isPattern "\\n[ \\t]*\\n".toList = true)
  case sections => exact (by decide +kernel : isPattern "\\n[ \\t]*\\n[ \\t]*\\n".toList = true)
  all_goals exact trivial

end Options

/-! ## What a token names -/

namespace OptionName

/-- The names of an option. -/
def spellings (option : OptionName) : List Text := option.name :: option.short?.toList

/-- A token is about an option: it is a name of it, or one with something in front or behind. -/
inductive InToken (option : OptionName) : Text → Prop
  /-- A name alone. -/
  | bare {name : Text} : name ∈ option.spellings → InToken option name
  /-- `noname`, to switch a flag off. -/
  | off {name : Text} : name ∈ option.spellings → InToken option ("no".toList ++ name)
  /-- `invname`, to switch a flag. -/
  | inverted {name : Text} : name ∈ option.spellings → InToken option ("inv".toList ++ name)
  /-- `name!`, which says the same. -/
  | switched {name : Text} : name ∈ option.spellings → InToken option (name ++ ['!'])
  /-- `name?`, to see the value. -/
  | asked {name : Text} : name ∈ option.spellings → InToken option (name ++ ['?'])
  /-- `name=value`. -/
  | written {name raw : Text} : name ∈ option.spellings → InToken option (name ++ '=' :: raw)

theorem mem_spellings_of_ofName? {name : Text} (h : ofName? name = some option) :
    name ∈ option.spellings := by
  have hspelled : option.name = name ∨ option.short? = some name := by
    simpa using List.find?_some h
  rcases hspelled with rfl | hshort
  · exact List.mem_cons_self
  · exact List.mem_cons_of_mem _ (Option.mem_toList.mpr hshort)

/-- The part of a token in front of a mark, the whole of it if there is none. -/
private def stem (token : Text) : Text := token.takeWhile (· ∉ ['=', '!', '?'])

/-- The option that a token is about, as its stem tells. -/
private def ofToken? (token : Text) : Option OptionName :=
  let name := stem token
  (ofName? name).or ((Options.behind? "no" name).or (Options.behind? "inv" name))

/-- No name has a mark in it, and no name is that of another option with a lead. -/
private theorem spellings_spec : ∀ option ∈ all, ∀ name ∈ option.spellings,
    (name.all fun c ↦ c ∉ ['=', '!', '?']) ∧
    ofToken? name = some option ∧ ofToken? ("no".toList ++ name) = some option ∧
      ofToken? ("inv".toList ++ name) = some option := by
  decide +kernel

private theorem ofToken?_append {name raw : Text} {c : Char} (hc : c ∈ ['=', '!', '?'])
    (hname : name ∈ option.spellings) : ofToken? (name ++ c :: raw) = some option := by
  obtain ⟨hmarks, hfound, -⟩ := spellings_spec option option.mem_all name hname
  have hstem : stem (name ++ c :: raw) = stem name := by
    have hall := List.all_eq_true.mp hmarks
    rw [stem, stem, List.takeWhile_append_of_pos hall, List.takeWhile_cons_of_neg (by simp [hc]),
      List.append_nil, List.takeWhile_eq_self_iff.mpr hall]
  rw [ofToken?, hstem]
  exact hfound

/-- A token is about one option at most. -/
theorem InToken.unique (h : option.InToken t) (h' : other.InToken t) : other = option := by
  have hfound : ∀ {x : OptionName}, x.InToken t → ofToken? t = some x := by
    intro x hx
    cases hx with
    | bare hname => exact (spellings_spec x x.mem_all _ hname).2.1
    | off hname => exact (spellings_spec x x.mem_all _ hname).2.2.1
    | inverted hname => exact (spellings_spec x x.mem_all _ hname).2.2.2
    | switched hname => exact ofToken?_append (by simp) hname
    | asked hname => exact ofToken?_append (by simp) hname
    | written hname => exact ofToken?_append (by simp) hname
  exact Option.some.inj ((hfound h').symm.trans (hfound h))

end OptionName

/-! ## What requests come to -/

namespace Options

/-- A request about one option shows something and leaves the options alone, or it sets the
option. -/
def Answers (o : Options) (option : OptionName) (o' : Options) (a : Answer) : Prop :=
  (o' = o ∧ ∃ t, a = .shown t) ∨
    ∃ value, o.set option value = .ok o' ∧ a = .assigned option value

/-- A request that is not refused has got through each of its steps. -/
private theorem bind_eq_ok {α β : Type} {x : Except OptionError α} {f : α → Except OptionError β}
    {b : β} (h : (x >>= f) = .ok b) : ∃ c, x = .ok c ∧ f c = .ok b := by
  cases x with
  | error e => cases h
  | ok c => exact ⟨c, rfl, h⟩

theorem answers_of_assign (h : o.assign option value = .ok (o', a)) :
    o.Answers option o' a := by
  obtain ⟨o₁, hset, hanswer⟩ := bind_eq_ok h
  obtain ⟨rfl, rfl⟩ := Prod.mk.inj (Except.ok.inj hanswer)
  exact .inr ⟨value, hset, rfl⟩

theorem answers_of_assignWritten {raw : Text} (h : o.assignWritten option raw = .ok (o', a)) :
    o.Answers option o' a := by
  obtain ⟨value, -, hassign⟩ := bind_eq_ok h
  exact answers_of_assign hassign

/-- A flag is set; nothing else is switched. -/
private theorem answers_of_switch
    (h : (if option.kind = .flag then o.assign option value else .error (.notFlag option)) =
      .ok (o', a)) : o.Answers option o' a := by
  split at h
  · exact answers_of_assign h
  · cases h

theorem answers_of_toggle (h : o.toggle option = .ok (o', a)) : o.Answers option o' a :=
  answers_of_switch h

theorem answers_of_switchOff (h : o.switchOff option = .ok (o', a)) : o.Answers option o' a :=
  answers_of_switch h

/-- Describing an option leaves the options alone. -/
private theorem answers_of_shown (h : (.ok (o, .shown t) : Except OptionError _) = .ok (o', a)) :
    o.Answers option o' a := by
  obtain ⟨rfl, rfl⟩ : o = o' ∧ Answer.shown t = a := by simpa using h
  exact .inl ⟨rfl, t, rfl⟩

theorem answers_of_command {parameter : Text} {bang : Bool}
    (h : o.command option parameter bang = .ok (o', a)) : o.Answers option o' a := by
  simp only [command] at h
  split at h
  · exact answers_of_shown h
  · split at h
    · split at h
      · exact answers_of_shown h
      · split at h
        · exact answers_of_toggle h
        · exact answers_of_assign h
    · exact answers_of_assignWritten h

end Options

/-! ## Tokens read -/

namespace Text

theorem eq_append_of_dropLead? {lead t rest : Text} (h : dropLead? lead t = some rest) :
    t = lead ++ rest := by
  induction lead generalizing t with
  | nil => exact Option.some.inj h
  | cons c lead ih =>
    cases t with
    | nil => simp [dropLead?] at h
    | cons c' t =>
      simp only [dropLead?] at h
      split at h
      · next hc => rw [hc, ih h, List.cons_append]
      · simp at h

theorem eq_append_of_dropFinal? {t body : Text} {c : Char} (h : t.dropFinal? c = some body) :
    t = body ++ [c] := by
  unfold dropFinal? at h
  split at h
  · next hlast =>
    rw [← Option.some.inj h]
    exact (List.dropLast_append_getLast? c hlast).symm
  · simp at h

theorem eq_append_of_span {t name raw : Text} {c mark : Char}
    (h : t.span (· ≠ mark) = (name, c :: raw)) : t = name ++ mark :: raw := by
  rw [List.span_eq_takeWhile_dropWhile, Prod.mk.injEq] at h
  obtain ⟨rfl, hrest⟩ := h
  have hmark : c = mark := by
    have hhead := List.head?_dropWhile_not (fun x ↦ decide (x ≠ mark)) t
    rw [hrest] at hhead
    simpa using hhead
  calc t = t.takeWhile (· ≠ mark) ++ t.dropWhile (· ≠ mark) := List.takeWhile_append_dropWhile.symm
    _ = t.takeWhile (· ≠ mark) ++ mark :: raw := by rw [hrest, hmark]

end Text

namespace Options

open OptionName (InToken mem_spellings_of_ofName?)

theorem mem_spellings_of_named {name : Text} (h : named name = .ok option) :
    name ∈ option.spellings := by
  unfold named at h
  split at h
  · next hfound =>
    rw [← Except.ok.inj h]
    exact mem_spellings_of_ofName? hfound
  · simp at h

theorem exists_spelling_of_behind? {lead : String} {token : Text}
    (h : behind? lead token = some option) :
    ∃ name ∈ option.spellings, token = lead.toList ++ name := by
  obtain ⟨name, hdrop, hfound⟩ := Option.bind_eq_some_iff.mp h
  exact ⟨name, mem_spellings_of_ofName? hfound, Text.eq_append_of_dropLead? hdrop⟩

/-- A token that is not refused asks for all options, or it is about one. -/
theorem answers_of_applyToken {token : Text} (h : o.applyToken token = .ok (o', a)) :
    (o' = o ∧ ∃ t, a = .shown t) ∨ ∃ option, InToken option token ∧ o.Answers option o' a := by
  simp only [applyToken] at h
  split at h
  · exact .inl ⟨(Prod.mk.inj (Except.ok.inj h)).1.symm, _, (Prod.mk.inj (Except.ok.inj h)).2.symm⟩
  · right
    split at h
    · next hspan =>
      obtain ⟨option, hname, hassign⟩ := bind_eq_ok h
      rw [Text.eq_append_of_span hspan]
      exact ⟨option, .written (mem_spellings_of_named hname), answers_of_assignWritten hassign⟩
    · split at h
      · next hdrop =>
        obtain ⟨option, hname, hshown⟩ := bind_eq_ok h
        rw [Text.eq_append_of_dropFinal? hdrop]
        exact ⟨option, .asked (mem_spellings_of_named hname), answers_of_shown hshown⟩
      · next hdrop =>
        obtain ⟨option, hname, htoggle⟩ := bind_eq_ok h
        rw [Text.eq_append_of_dropFinal? hdrop]
        exact ⟨option, .switched (mem_spellings_of_named hname), answers_of_toggle htoggle⟩
      · split at h
        · next hfound =>
          exact ⟨_, .bare (mem_spellings_of_ofName? hfound), answers_of_command h⟩
        · next hbehind =>
          obtain ⟨name, hname, rfl⟩ := exists_spelling_of_behind? hbehind
          exact ⟨_, .inverted hname, answers_of_toggle h⟩
        · next hbehind =>
          obtain ⟨name, hname, rfl⟩ := exists_spelling_of_behind? hbehind
          exact ⟨_, .off hname, answers_of_switchOff h⟩
        · simp at h

end Options

/-! ## Calls -/

/-- A call that may set an option. -/
inductive OptionCall where
  /-- The option is set to a value. -/
  | set (option : OptionName) (value : OptionValue)
  /-- A token of the `set` command is applied. -/
  | token (t : Text)
  /-- The option's own command is run. -/
  | command (option : OptionName) (parameter : Text) (bang : Bool)

namespace OptionCall

/-- The request that a call makes. -/
def request : OptionCall → Options → Except OptionError (Options × Answer)
  | set option value, o => o.assign option value
  | token t, o => o.applyToken t
  | command option parameter bang, o => o.command option parameter bang

/-- A call names an option. -/
def Names : OptionCall → OptionName → Prop
  | set named _, option => option = named
  | token t, option => option.InToken t
  | command named _ _, option => option = named

/-- A call names one option at most. -/
theorem Names.unique {call : OptionCall} (h : call.Names option) (h' : call.Names other) :
    other = option := by
  cases call with
  | set named v => exact Eq.trans h' h.symm
  | token t => exact OptionName.InToken.unique h h'
  | command named p b => exact Eq.trans h' h.symm

/-- What a call that is not refused comes to. -/
theorem request_cases {call : OptionCall} (h : call.request o = .ok (o', a)) :
    (o' = o ∧ ∃ t, a = .shown t) ∨
      ∃ option, call.Names option ∧ ∃ value, o.set option value = .ok o' ∧
        a = .assigned option value := by
  cases call with
  | set option v =>
    exact (Options.answers_of_assign h).imp_right fun hset ↦ ⟨option, rfl, hset⟩
  | command option p b =>
    exact (Options.answers_of_command h).imp_right fun hset ↦ ⟨option, rfl, hset⟩
  | token t =>
    rcases Options.answers_of_applyToken h with hshown | ⟨option, hnames, hanswers⟩
    · exact .inl hshown
    · exact hanswers.imp_right fun hset ↦ ⟨option, hnames, hset⟩

end OptionCall

namespace Options

/-- The options after a call; a call that is refused changes nothing. -/
def after (o : Options) (call : OptionCall) : Options :=
  match call.request o with
  | .ok (o', _) => o'
  | .error _ => o

/-- A value that is refused changes nothing. -/
theorem after_set (o : Options) (option : OptionName) (value : OptionValue) :
    o.after (.set option value) = (o.set option value).toOption.getD o := by
  simp only [after, OptionCall.request, assign]
  cases o.set option value <;> rfl

/-- The options after calls, one after the other. -/
def afterAll (o : Options) (calls : List OptionCall) : Options := calls.foldl after o

/-- A call keeps options well kept. -/
theorem IsWellKept.after (hkept : o.IsWellKept) (call : OptionCall) :
    (o.after call).IsWellKept := by
  unfold Options.after
  split
  · next o' a hok =>
    rcases OptionCall.request_cases hok with ⟨rfl, -⟩ | ⟨option, -, value, hset, -⟩
    · exact hkept
    · exact hkept.set hset
  · exact hkept

/-- Calls keep options well kept. -/
theorem IsWellKept.afterAll (hkept : o.IsWellKept) (calls : List OptionCall) :
    (o.afterAll calls).IsWellKept := by
  induction calls generalizing o with
  | nil => exact hkept
  | cons call calls ih => exact ih (hkept.after call)

end Options

/-! ## Settings to start with -/

namespace OptionDefaults

/-- The calls that make the settings. -/
def calls (c : OptionDefaults) : List OptionCall := [
  .set .autoindent (.flag c.autoindent), .set .ignorecase (.flag c.ignorecase),
  .set .wrapscan (.flag c.wrapscan), .set .magic (.flag c.magic), .set .global (.flag c.global),
  .set .multiline (.flag c.multiline), .set .tabsize (.number c.tabsize),
  .set .shiftwidth (.number c.shiftwidth), .set .paragraphs (.text c.paragraphs),
  .set .sections (.text c.sections)]

/-- Options are seeded by calls. -/
theorem seed_eq_afterAll (c : OptionDefaults) (o : Options) : c.seed o = o.afterAll c.calls := by
  by_cases hparagraphs : Options.isPattern c.paragraphs <;>
    by_cases hsections : Options.isPattern c.sections <;>
      simp [Options.afterAll, calls, Options.after_set, Options.set, Options.put?, OptionName.kind,
        seed, Except.toOption, hparagraphs, hsections]

/-- Options that are seeded stay well kept. -/
theorem isWellKept_seed (c : OptionDefaults) (hkept : o.IsWellKept) : (c.seed o).IsWellKept := by
  rw [seed_eq_afterAll]
  exact hkept.afterAll c.calls

end OptionDefaults

end LineEditor
