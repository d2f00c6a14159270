import LineEditor.Proofs.Options
import LineEditor.Proofs.Text.Words

/-!
# Tokens written and read

The `set` command takes a row of tokens with blanks between them. A token is a word, or a name and
behind `=` a value, and a value that is a quoted text may hold anything: blanks, quotes,
backslashes. The reader of tokens looks out for quotes and backslashes in a way of its own and knows
nothing of the notation of quoted texts. It need not: a text as it is written in quotes brings the
reader back to where it stood, and on the way every character of it is kept. So a row of tokens is
read as it was written.

What is read of a value is then the text that was put in quotes. Listing an option prints its text
in quotes, and this can be given back to the option, as a token or to its own command.
-/

namespace LineEditor

open Text (isBlank AllBlank)
open Text.Quoted (encode encodeChar)

/-! ## What the reader keeps whole -/

namespace Options

variable {t u : Text}

/-- Outside of quotes, the reader takes all of a text into the token that it is reading. -/
def KeepsWhole (t : Text) : Prop :=
  ∀ current rest,
    tokensFrom .plain current (t ++ rest) = tokensFrom .plain (t.reverse ++ current) rest

theorem KeepsWhole.append (ht : KeepsWhole t) (hu : KeepsWhole u) : KeepsWhole (t ++ u) := by
  intro current rest
  rw [List.append_assoc, ht, hu, List.reverse_append, List.append_assoc]

/-- A text without blanks and quotes. -/
def IsBare (t : Text) : Prop := ∀ c ∈ t, isBlank c = false ∧ c ≠ '"'

instance (t : Text) : Decidable (IsBare t) :=
  List.decidableBAll (fun c ↦ isBlank c = false ∧ c ≠ '"') t

theorem keepsWhole_of_isBare (h : IsBare t) : KeepsWhole t := by
  intro current rest
  induction t generalizing current with
  | nil => rfl
  | cons c t ih =>
    obtain ⟨hblank, hquote⟩ := h c List.mem_cons_self
    rw [List.cons_append, tokensFrom, if_neg hquote,
      if_neg (by rw [hblank]; exact Bool.false_ne_true),
      ih fun d hd ↦ h d (List.mem_cons_of_mem c hd), List.reverse_cons, List.append_assoc]
    rfl

/-- Inside quotes, characters that are neither quotes nor backslashes leave the reader there. -/
private theorem tokensFrom_quoted_plain (h : ∀ c ∈ t, c ≠ '"' ∧ c ≠ '\\') (current rest : Text) :
    tokensFrom .quoted current (t ++ rest) = tokensFrom .quoted (t.reverse ++ current) rest := by
  induction t generalizing current with
  | nil => rfl
  | cons c t ih =>
    obtain ⟨hquote, hslash⟩ := h c List.mem_cons_self
    rw [List.cons_append, tokensFrom, if_neg hslash, if_neg hquote,
      ih fun d hd ↦ h d (List.mem_cons_of_mem c hd), List.reverse_cons, List.append_assoc]
    rfl

/-- A character as it is written inside quotes leaves the reader inside. -/
private theorem tokensFrom_encodeChar (c : Char) (current rest : Text) :
    tokensFrom .quoted current (encodeChar c ++ rest)
      = tokensFrom .quoted ((encodeChar c).reverse ++ current) rest := by
  rcases Text.Quoted.encodeChar_cases c with ⟨h, hc⟩ | ⟨d, more, h, hmore⟩
  · rw [h]
    exact tokensFrom_quoted_plain (fun e he ↦ List.mem_singleton.mp he ▸ hc) current rest
  · -- the backslash makes the reader pass over whatever comes next
    have hescape : tokensFrom .quoted current (('\\' :: d :: more) ++ rest)
        = tokensFrom .quoted (d :: '\\' :: current) (more ++ rest) := rfl
    rw [h, hescape, tokensFrom_quoted_plain hmore, List.reverse_cons, List.reverse_cons,
      List.append_assoc, List.append_assoc]
    rfl

/-- A text written in quotes is kept whole. -/
theorem keepsWhole_encode (s : Text) : KeepsWhole (encode s) := by
  intro current rest
  have hbody : ∀ current, tokensFrom .quoted current (s.flatMap encodeChar ++ '"' :: rest)
      = tokensFrom .plain ('"' :: ((s.flatMap encodeChar).reverse ++ current)) rest := by
    induction s with
    | nil => exact fun current ↦ rfl
    | cons c s ih =>
      intro current
      rw [List.flatMap_cons, List.append_assoc, tokensFrom_encodeChar, ih, List.reverse_append,
        List.append_assoc]
  have hopen : tokensFrom .plain current (encode s ++ rest)
      = tokensFrom .quoted ('"' :: current) (s.flatMap encodeChar ++ '"' :: rest) := by
    rw [encode, List.append_assoc]
    rfl
  have hreverse : (encode s).reverse = '"' :: ((s.flatMap encodeChar).reverse ++ ['"']) := by
    simp [encode]
  rw [hopen, hbody, hreverse, List.cons_append, List.append_assoc]
  rfl

/-! ## Blanks -/

/-- Blanks in front of a token are passed over. -/
private theorem tokensFrom_allBlank (h : t.AllBlank) (rest : Text) :
    tokensFrom .plain [] (t ++ rest) = tokensFrom .plain [] rest := by
  induction t with
  | nil => rfl
  | cons c t ih =>
    have hblank : isBlank c = true := h c List.mem_cons_self
    have hquote : c ≠ '"' := by
      rintro rfl
      exact absurd hblank (by decide)
    rw [List.cons_append, tokensFrom, if_neg hquote, if_pos hblank, if_pos rfl,
      ih fun d hd ↦ h d (List.mem_cons_of_mem c hd)]

/-- Blanks behind a token end it. -/
private theorem tokensFrom_append_allBlank (ht : KeepsWhole t) (hne : t ≠ []) {blanks : Text}
    (hblanks : blanks.AllBlank) (hsome : blanks ≠ []) (rest : Text) :
    tokensFrom .plain [] (t ++ (blanks ++ rest)) = t :: tokensFrom .plain [] rest := by
  obtain ⟨c, more, rfl⟩ := List.exists_cons_of_ne_nil hsome
  have hblank : isBlank c = true := hblanks c List.mem_cons_self
  have hquote : c ≠ '"' := by
    rintro rfl
    exact absurd hblank (by decide)
  have hcurrent : t.reverse ++ [] ≠ [] := by simpa using hne
  rw [ht, List.cons_append, tokensFrom, if_neg hquote, if_pos hblank, if_neg hcurrent,
    tokensFrom_allBlank fun d hd ↦ hblanks d (List.mem_cons_of_mem c hd)]
  simp

end Options

/-! ## Rows of tokens -/

/-- A token of the `set` command as it is written. -/
inductive OptionToken where
  /-- A word. -/
  | word (w : Text) (hne : w ≠ []) (hbare : Options.IsBare w)
  /-- A name with a quoted text for a value. -/
  | quoting (name value : Text) (hbare : Options.IsBare name)

namespace OptionToken

/-- What is written. -/
def text : OptionToken → Text
  | word w _ _ => w
  | quoting name value _ => name ++ '=' :: encode value

theorem text_ne_nil (token : OptionToken) : token.text ≠ [] := by
  cases token with
  | word w hne hbare => exact hne
  | quoting name value hbare => exact List.append_ne_nil_of_right_ne_nil name (List.cons_ne_nil _ _)

theorem keepsWhole_text (token : OptionToken) : Options.KeepsWhole token.text := by
  cases token with
  | word w hne hbare => exact Options.keepsWhole_of_isBare hbare
  | quoting name value hbare =>
    have hmark : Options.IsBare ['='] := by decide
    exact (Options.keepsWhole_of_isBare hbare).append
      ((Options.keepsWhole_of_isBare hmark).append (Options.keepsWhole_encode value))

/-- A text is a row of tokens, with one or more blanks between any two. -/
inductive Joined : List OptionToken → Text → Prop
  | nil : Joined [] []
  | last (token : OptionToken) : Joined [token] token.text
  | cons {token next : OptionToken} {more : List OptionToken} {blanks rest : Text}
    (hblanks : blanks.AllBlank) (hsome : blanks ≠ []) (h : Joined (next :: more) rest) :
    Joined (token :: next :: more) (token.text ++ (blanks ++ rest))

/-- A row of tokens is read as it was written. -/
theorem Joined.tokens_eq {row : List OptionToken} {t : Text} (h : Joined row t) :
    Options.tokens t = row.map text := by
  induction h with
  | nil => rfl
  | last token =>
    have hend := token.keepsWhole_text [] []
    rw [List.append_nil, List.append_nil] at hend
    rw [Options.tokens, hend, Options.tokensFrom, if_neg (by simpa using token.text_ne_nil)]
    simp
  | @cons token next more blanks rest hblanks hsome h ih =>
    rw [Options.tokens, Options.tokensFrom_append_allBlank token.keepsWhole_text token.text_ne_nil
      hblanks hsome]
    exact congrArg (token.text :: ·) ih

end OptionToken

/-! ## Values given back -/

namespace OptionName

/-- A name is a word without `=`, and it is the name of one option. -/
theorem spelling_spec {option : OptionName} {name : Text} (h : name ∈ option.spellings) :
    ('=' ∉ name ∧ Options.IsBare name) ∧ ofName? name = some option := by
  have hall : ∀ option ∈ all, ∀ name ∈ option.spellings,
      ('=' ∉ name ∧ Options.IsBare name) ∧ ofName? name = some option := by
    decide +kernel
  exact hall option option.mem_all name h

end OptionName

namespace Options

variable {option : OptionName} {name s : Text}

/-- A request stores a text in an option and leaves all others alone. -/
def Stores (o : Options) (option : OptionName) (s : Text)
    (r : Except OptionError (Options × Answer)) : Prop :=
  ∃ o', r = .ok (o', .assigned option (.text s)) ∧ o'.get option = .text s ∧
    ∀ other, other ≠ option → o'.get other = o.get other

theorem unquote_encode (s : Text) : unquote (encode s) = s := by
  rw [unquote, Text.Quoted.decode?_encode, Option.getD_some]

/-- A text that an option admits is stored when it is written in quotes. -/
theorem stores_assignWritten (h : option.kind.Admits (.text s)) (o : Options) :
    o.Stores option s (o.assignWritten option (encode s)) := by
  have hvalue : parseValue option (encode s) = .ok (.text s) := by
    unfold parseValue
    split
    · next hkind => rw [hkind] at h; exact h.elim
    · next hkind => rw [hkind] at h; exact h.elim
    all_goals rw [unquote_encode]
  obtain ⟨o', hset⟩ := (exists_set_iff o option (.text s)).mpr h
  refine ⟨o', ?_, get_of_set hset, fun other ↦ get_of_set_of_ne hset⟩
  rw [assignWritten, hvalue]
  change o.assign option (.text s) = _
  rw [assign, hset]
  rfl

/-- A token that hands it over is acted upon in this way. -/
theorem applyToken_quoting (hname : name ∈ option.spellings) (o : Options) (raw : Text) :
    o.applyToken (name ++ '=' :: raw) = o.assignWritten option raw := by
  obtain ⟨⟨hmark, -⟩, hfound⟩ := OptionName.spelling_spec hname
  have hall : name ++ '=' :: raw ≠ "all".toList := by
    intro h
    have hmem : '=' ∈ "all".toList := h ▸ List.mem_append_right name List.mem_cons_self
    exact absurd hmem (by decide)
  have hne : ∀ c ∈ name, decide (c ≠ '=') = true :=
    fun c hc ↦ decide_eq_true fun h ↦ hmark (h ▸ hc)
  have hspan : (name ++ '=' :: raw).span (fun c ↦ decide (c ≠ '=')) = (name, '=' :: raw) := by
    rw [List.span_eq_takeWhile_dropWhile, List.takeWhile_append_of_pos hne,
      List.dropWhile_append_of_pos hne]
    simp
  have hnamed : named name = .ok option := by rw [named, hfound]
  rw [applyToken, if_neg hall, hspan]
  change (named name >>= fun option ↦ o.assignWritten option raw) = _
  rw [hnamed]
  rfl

/-- So is a parameter of the option's own command. -/
theorem command_encode (o : Options) (option : OptionName) (s : Text) (bang : Bool) :
    o.command option (encode s) bang = o.assignWritten option (encode s) := by
  have hquotes : encode s = '"' :: (s.flatMap encodeChar ++ ['"']) := rfl
  have hcore : (encode s).IsCore := by
    refine ⟨⟨'"', _, hquotes, by decide⟩, ⟨_, '"', rfl, by decide⟩⟩
  have hnil : (encode s).trim = encode s := by
    have hstart := hcore.trimStart_append (a := []) nofun []
    have hend := hcore.trimEnd_append [] (b := []) nofun
    rw [List.nil_append, List.append_nil] at hstart hend
    rw [Text.trim, hstart, hend]
  have hask : encode s ≠ ['?'] := by
    rw [hquotes]
    exact fun h ↦ absurd (List.cons.inj h).1 (by decide)
  have hsome : encode s ≠ [] := List.cons_ne_nil _ _
  rw [command, hnil]
  simp only [if_neg hask, if_neg hsome]

end Options

namespace OptionToken

/-- **Tokens are read as they are written.** A row of tokens is cut at the blanks between them and
nowhere else, whatever texts are quoted in it. A quoted text is stored as it is by the option whose
name it comes with, if the option holds texts of which this is one. And what is listed of an option
that holds a text can be given back, to any options, as a token or to the option's own command. -/
theorem reads_joined {row : List OptionToken} {t : Text} (h : Joined row t) :
    Options.tokens t = row.map text ∧
      (∀ (option : OptionName) (s : Text), option.kind.Admits (.text s) →
        ∀ name ∈ option.spellings, ∀ o : Options,
          o.Stores option s (o.applyToken (name ++ '=' :: encode s))) ∧
      ∀ o : Options, o.IsWellKept → ∀ (option : OptionName) (s : Text), o.get option = .text s →
        ∃ listed, o.describe option = option.name ++ ' ' :: listed ∧ ∀ o' : Options,
          o'.Stores option s (o'.applyToken (option.name ++ '=' :: listed)) ∧
          ∀ bang, o'.Stores option s (o'.command option listed bang) := by
  refine ⟨h.tokens_eq, fun option s hadmits name hname o ↦ ?_, fun o hkept option s hget ↦ ?_⟩
  · rw [Options.applyToken_quoting hname]
    exact Options.stores_assignWritten hadmits o
  · have hadmits : option.kind.Admits (.text s) := hget ▸ hkept option
    refine ⟨encode s, ?_, fun o' ↦ ⟨?_, fun bang ↦ ?_⟩⟩
    · rw [Options.describe, hget]
      rfl
    · rw [Options.applyToken_quoting List.mem_cons_self]
      exact Options.stores_assignWritten hadmits o'
    · rw [Options.command_encode]
      exact Options.stores_assignWritten hadmits o'

/-- A blank, a quote and a backslash in a quoted text, and blanks of two kinds between tokens. The
pattern between paragraphs, which has backslashes in it, is listed and given back. -/
theorem reads_joined_quoted :
    let t := "ai \t file=\"a \\\"\\\\\" ts=2".toList
    (∃ row, Joined row t ∧
      Options.tokens t = ["ai".toList, "file=\"a \\\"\\\\\"".toList, "ts=2".toList]) ∧
      ({} : Options).Stores .file "a \"\\".toList
        (({} : Options).applyToken "file=\"a \\\"\\\\\"".toList) ∧
      ∃ listed, ({} : Options).describe .paragraphs = "paragraphs ".toList ++ listed ∧
        ({} : Options).Stores .paragraphs "\\n[ \\t]*\\n".toList
          (({} : Options).applyToken ("paragraphs=".toList ++ listed)) := by
  intro t
  have htab : Text.AllBlank " \t ".toList := List.all_eq_true.mp (by decide)
  have hspace : Text.AllBlank " ".toList := List.all_eq_true.mp (by decide)
  have hrow : Joined [.word "ai".toList (by decide) (by decide),
      .quoting "file".toList "a \"\\".toList (by decide),
      .word "ts=2".toList (by decide) (by decide)] t :=
    .cons htab (by decide) (.cons hspace (by decide) (.last _))
  obtain ⟨htokens, hstores, hlists⟩ := reads_joined hrow
  obtain ⟨listed, hlisted, hback⟩ := hlists {} Options.isWellKept_default .paragraphs _ rfl
  exact ⟨⟨_, hrow, htokens⟩, hstores .file "a \"\\".toList trivial "file".toList (by decide) {},
    listed, hlisted, (hback {}).1⟩

end OptionToken

end LineEditor
