import LineEditor.Pattern.Expr
import LineEditor.Text.Numeral

/-!
# Reading patterns

Patterns are regular expressions in their usual notation: groups, named groups and inline flags,
bracketed sets with nesting and set operations, counted and lazy repetition, Unicode properties and
word boundaries. There are no back references and no conditions on text around groups.

Reading answers the expression with its flags worked in, or `none` where the pattern is malformed.
Outside Unicode mode a pattern may only take whole characters; one that could take a single byte
of a longer character is malformed too.
-/

namespace LineEditor.Pattern

/-- What the flags of a pattern switch on. -/
structure Flags where
  /-- Case does not matter. -/
  ignoreCase : Bool := false
  /-- `^` and `$` look for ends of lines. -/
  multiLine : Bool := false
  /-- `.` takes a separator, too. -/
  dotAll : Bool := false
  /-- Repetition is lazy unless marked. -/
  swapGreed : Bool := false
  /-- Sets are sets of characters, not of bytes. -/
  unicode : Bool := true
  /-- A carriage return ends lines, too. -/
  returns : Bool := false
  /-- Blanks and comments in the pattern are skipped. -/
  extended : Bool := false
  deriving Inhabited

namespace Reader

/-! ## Skipping -/

/-- Skips blanks and comments, which run from `#` to the end of a line. -/
private def skipExtended (inComment : Bool) : Text → Text
  | [] => []
  | c :: rest =>
    if inComment then skipExtended (c ≠ '\n') rest
    else if c = '#' then skipExtended true rest
    else if Text.isBlank c then skipExtended false rest
    else c :: rest

/-- Skips what the flags say does not count. -/
private def skip (flags : Flags) (t : Text) : Text :=
  if flags.extended then skipExtended false t else t

/-! ## Single items -/

/-- One item of a pattern outside brackets and groups. -/
inductive Item where
  /-- A character; `byte` says that it was written as a byte. -/
  | char (c : Char) (byte : Bool)
  /-- A named set. -/
  | set (s : CharSet)
  /-- A condition. -/
  | look (l : Look)

/-- The characters that stand for themselves after a backslash because they mean something else
without it. -/
def isMeta (c : Char) : Bool := "\\.+*?()|[]\x7b\x7d^$#&-~".toList.contains c

/-- The character with a code point, if there is one. -/
private def charOf? (n : Nat) : Option Char :=
  if h : n.isValidChar then some (Char.ofNatAux n h) else none

/-- Takes characters up to `stop`, skipping blanks and comments between them. -/
private def takeUntil (flags : Flags) (stop : Char) : (fuel : Nat) → Text → Option (Text × Text)
  | 0, _ => none
  | fuel + 1, t =>
    match skip flags t with
    | [] => none
    | c :: rest =>
      if c = stop then some ([], rest)
      else (takeUntil flags stop fuel rest).map fun (taken, rest) ↦ (c :: taken, rest)

/-- Takes `count` characters, skipping blanks and comments between them. -/
private def takeCount (flags : Flags) : (count : Nat) → Text → Option (Text × Text)
  | 0, t => some ([], skip flags t)
  | count + 1, t =>
    match skip flags t with
    | [] => none
    | c :: rest => (takeCount flags count rest).map fun (taken, rest) ↦ (c :: taken, rest)

/-- The character of a hexadecimal escape, after its letter. -/
private def hexEscape? (flags : Flags) (letter : Char) (t : Text) : Option (Item × Text) := do
  match skip flags t with
  | '\x7b' :: rest =>
    let (digits, rest) ← takeUntil flags '\x7d' (rest.length + 1) rest
    let c ← charOf? (← Text.natInBase? 16 digits)
    return (.char c false, skip flags rest)
  | t =>
    let count := if letter = 'x' then 2 else if letter = 'u' then 4 else 8
    let (digits, rest) ← takeCount flags count t
    let c ← charOf? (← Text.natInBase? 16 digits)
    return (.char c (letter = 'x'), rest)

/-- The set of a `\p` or `\P` escape, after its letter. -/
private def propertyEscape? (flags : Flags) (negated : Bool) (t : Text) :
    Option (Item × Text) := do
  if !flags.unicode then none
  let (name, rest) ← match skip flags t with
    | [] => none
    | '\x7b' :: rest => takeUntil flags '\x7d' (rest.length + 1) rest
    | c :: rest => if c = '\\' then none else some ([c], skip flags rest)
  let (name, negated) := match name.span (· ≠ '!') with
    | (kind, '!' :: '=' :: value) => (kind ++ '=' :: value, !negated)
    | _ => (name, negated)
  let s ← CharSet.named? name
  let s := if flags.ignoreCase then CharSet.anyCase s else s
  return (.set (CharSet.complIf negated s), rest)

/-- The set of a `\d`, `\s` or `\w` escape. Outside Unicode mode the complement holds bytes that are
no characters. -/
private def classEscape? (flags : Flags) (s : CharSet) (negated : Bool) : Option Item :=
  if negated && !flags.unicode then none else some (.set (CharSet.complIf negated s))

/-- The special word boundaries `\b\x7bstart\x7d` and the like: `none` when malformed, and
`some none` when a repetition follows instead. -/
private def specialBoundary? (flags : Flags) (t : Text) : Option (Option (Look × Text)) := do
  let letter (c : Char) : Bool := c.isAlpha || c = '-'
  match skip flags t with
  | [] => none
  | c :: rest =>
    if !letter c then return none
    let (name, rest) ← takeUntil flags '\x7d' (rest.length + 2) (c :: rest)
    if !name.all letter then none
    let look ← match String.ofList name with
      | "start" => some (Look.wordStart flags.unicode)
      | "end" => some (Look.wordEnd flags.unicode)
      | "start-half" => some (Look.wordStartHalf flags.unicode)
      | "end-half" => some (Look.wordEndHalf flags.unicode)
      | _ => none
    return some (look, rest)

/-- The item of an escape, after its backslash. -/
def escape? (flags : Flags) : Text → Option (Item × Text)
  | [] => none
  | c :: rest =>
    let plain (x : Char) : Option (Item × Text) := some (.char x false, rest)
    let look (l : Look) : Option (Item × Text) := some (.look l, rest)
    let named (s : CharSet) (negated : Bool) : Option (Item × Text) :=
      (classEscape? flags s negated).map (·, rest)
    let u := flags.unicode
    match c with
    | 'x' | 'u' | 'U' => hexEscape? flags c rest
    | 'p' => propertyEscape? flags false rest
    | 'P' => propertyEscape? flags true rest
    | 'd' => named (CharSet.digit u) false
    | 'D' => named (CharSet.digit u) true
    | 's' => named (CharSet.blank u) false
    | 'S' => named (CharSet.blank u) true
    | 'w' => named (CharSet.word u) false
    | 'W' => named (CharSet.word u) true
    | 'a' => plain '\x07'
    | 'f' => plain '\x0c'
    | 't' => plain '\t'
    | 'n' => plain '\n'
    | 'r' => plain '\r'
    | 'v' => plain '\x0b'
    | 'A' => look .textStart
    | 'z' => look .textEnd
    | 'B' => look (.notWordBoundary u)
    | '<' => look (.wordStart u)
    | '>' => look (.wordEnd u)
    | 'b' =>
      match rest with
      | '\x7b' :: more =>
        match specialBoundary? flags more with
        | none => none
        | some none => look (.wordBoundary u)
        | some (some (l, rest)) => some (.look l, rest)
      | _ => look (.wordBoundary u)
    | c => if c.toNat < 128 && !c.isAlphanum then plain c else none

/-! ## Bracketed sets -/

/-- The set operations inside brackets. -/
private inductive SetOp where
  | inter
  | diff
  | symmDiff

/-- Closes a set under change of case if case does not matter. -/
private def caseClosed (flags : Flags) (s : CharSet) : CharSet :=
  if !flags.ignoreCase then s
  else if flags.unicode then .anyCase s
  else .anyAsciiCase s

/-- A set with case and negation worked in; outside Unicode mode it must stay within ASCII. -/
private def finishSet? (flags : Flags) (negated : Bool) (s : CharSet) : Option CharSet :=
  let s := CharSet.complIf negated (caseClosed flags s)
  if flags.unicode || s.isAscii then some s else none

/-- The set built so far: the operand still being gathered, joined to the earlier ones by the
pending operation. -/
private def applyOp (flags : Flags) (pending : Option (SetOp × CharSet)) (s : CharSet) : CharSet :=
  match pending with
  | none => s
  | some (.inter, lhs) => .inter (caseClosed flags lhs) (caseClosed flags s)
  | some (.diff, lhs) => .diff (caseClosed flags lhs) (caseClosed flags s)
  | some (.symmDiff, lhs) => .symmDiff (caseClosed flags lhs) (caseClosed flags s)

/-- The name of an ASCII set written `[:name:]`, after its first bracket: whether it is negated, the
set, and the rest. Anything else in brackets is a set inside the set. -/
private def asciiSet? (t : Text) : Option (Bool × CharSet × Text) := do
  let (negated, t) ← match t with
    | ':' :: '^' :: rest => some (true, rest)
    | ':' :: rest => some (false, rest)
    | _ => none
  match t.span (· ≠ ':') with
  | (name, ':' :: ']' :: rest) => return (negated, ← CharSet.asciiNamed? name, rest)
  | _ => none

/-- One item inside brackets. -/
private def setItem? (flags : Flags) : Text → Option (Item × Text)
  | [] => none
  | '\\' :: rest => escape? flags rest
  | c :: rest => some (.char c false, rest)

/-- The character of an item, for the end of a range. Outside Unicode mode it must be an ASCII
one. -/
private def rangeEnd? (flags : Flags) : Item → Option Char
  | .char c _ => if flags.unicode || c.toNat < 128 then some c else none
  | _ => none

/-- The set of an item that is no range. -/
private def itemSet? (flags : Flags) : Item → Option CharSet
  | .set s => some s
  | item => (rangeEnd? flags item).map CharSet.single

/-- The next character that is neither a blank nor the mark of a comment. -/
private def peek? (flags : Flags) (t : Text) : Option Char :=
  if !flags.extended then t.head?
  else match t.dropWhile Text.isBlank with
    | '#' :: comment => (comment.dropWhile Text.isBlank).head?
    | t => t.head?

/-- A single item or a range inside brackets. A `-` makes no range before a bracket or another
`-`. -/
private def setRange? (flags : Flags) (t : Text) : Option (CharSet × Text) := do
  let (item, rest) ← setItem? flags t
  match skip flags rest with
  | [] => none
  | '-' :: more =>
    if peek? flags more = some ']' || peek? flags more = some '-' then
      return (← itemSet? flags item, '-' :: more)
    else
      let (last, rest) ← setItem? flags (skip flags more)
      let a ← rangeEnd? flags item
      let b ← rangeEnd? flags last
      if b < a then none
      return (.ranges [(a.toNat, b.toNat)], rest)
  | rest => return (← itemSet? flags item, rest)

/-- Takes the leading `-` characters of a bracket. -/
private def leadingDashes (flags : Flags) : (fuel : Nat) → CharSet → Text → CharSet × Text × Bool
  | 0, s, t => (s, t, false)
  | fuel + 1, s, t =>
    match t with
    | '-' :: rest =>
      let (s, t, _) := leadingDashes flags fuel (.union s (.single '-')) (skip flags rest)
      (s, t, true)
    | t => (s, t, false)

/-- The start of a bracketed set, after its bracket: whether it is negated, and the characters that
stand for themselves at this place only. -/
private def openSet (flags : Flags) (t : Text) : Bool × CharSet × Text :=
  let (negated, t) := match skip flags t with
    | '^' :: rest => (true, skip flags rest)
    | t => (false, t)
  let (s, t, dashes) := leadingDashes flags t.length .empty t
  match t with
  | ']' :: rest => if dashes then (negated, s, t) else (negated, .single ']', skip flags rest)
  | t => (negated, s, t)

/-- The rest of a bracketed set up to its closing bracket. -/
private def bracketFrom? (flags : Flags) :
    (fuel : Nat) → (negated : Bool) → Option (SetOp × CharSet) → CharSet → Text →
      Option (CharSet × Text)
  | 0, _, _, _, _ => none
  | fuel + 1, negated, pending, s, t =>
    let continueWith (op : SetOp) (rest : Text) :=
      bracketFrom? flags fuel negated (some (op, applyOp flags pending s)) .empty rest
    match skip flags t with
    | [] => none
    | '[' :: rest =>
      match asciiSet? rest with
      | some (innerNegated, inner, rest) =>
        match finishSet? flags innerNegated inner with
        | some inner => bracketFrom? flags fuel negated pending (.union s inner) rest
        | none => none
      | none =>
        let (innerNegated, start, rest) := openSet flags rest
        match bracketFrom? flags fuel innerNegated none start rest with
        | some (inner, rest) => bracketFrom? flags fuel negated pending (.union s inner) rest
        | none => none
    | ']' :: rest => (finishSet? flags negated (applyOp flags pending s)).map (·, rest)
    | '&' :: '&' :: rest => continueWith .inter rest
    | '-' :: '-' :: rest => continueWith .diff rest
    | '~' :: '~' :: rest => continueWith .symmDiff rest
    | t =>
      match setRange? flags t with
      | some (item, rest) => bracketFrom? flags fuel negated pending (.union s item) rest
      | none => none

/-- A bracketed set, after its bracket. -/
def bracket? (flags : Flags) (t : Text) : Option (CharSet × Text) :=
  let (negated, start, rest) := openSet flags t
  bracketFrom? flags (rest.length + 1) negated none start rest

/-! ## Repetition -/

/-- A decimal number with blanks around it. -/
private def number? (flags : Flags) (t : Text) : Option Nat × Text :=
  let rec digits : (fuel : Nat) → Text → Text × Text
    | 0, t => ([], t)
    | fuel + 1, t =>
      match t with
      | c :: rest =>
        if c.isDigit then
          let (ds, rest) := digits fuel (skip flags rest)
          (c :: ds, rest)
        else ([], c :: rest)
      | [] => ([], [])
  let t := Text.trimStart t
  let (ds, rest) := digits t.length t
  let value := (Text.natOfDigits? ds).filter (· < 0x100000000)
  (value, Text.trimStart rest)

/-- The bounds of a counted repetition, after its brace. -/
private def counts? (flags : Flags) (t : Text) : Option (Nat × Option Nat × Text) := do
  let (least, rest) := number? flags (skip flags t)
  let least ← least
  match rest with
  | '\x7d' :: rest => return (least, some least, rest)
  | ',' :: rest =>
    match skip flags rest with
    | '\x7d' :: rest => return (least, none, rest)
    | rest =>
      let (most, rest) := number? flags rest
      let most ← most
      match rest with
      | '\x7d' :: rest => if least ≤ most then some (least, some most, rest) else none
      | _ => none
  | _ => none

/-- A repetition operator: its bounds, and whether it is marked lazy. -/
private def repetition? (flags : Flags) : Text → Option (Nat × Option Nat × Bool × Text)
  | c :: rest =>
    let marked (least : Nat) (most : Option Nat) (rest : Text) :=
      match rest with
      | '?' :: rest => some (least, most, true, rest)
      | rest => some (least, most, false, rest)
    match c with
    | '*' => marked 0 none rest
    | '+' => marked 1 none rest
    | '?' => marked 0 (some 1) rest
    | _ => do
      let (least, most, rest) ← counts? flags rest
      marked least most (skip flags rest)
  | [] => none

/-! ## Groups -/

/-- The flags written in a group, up to its `:` or `)`: the flags they lead to, whether any was
written, the character that ends them, and the rest. -/
private def groupFlags? :
    Text → Flags → (on : Bool) → (seen : List Char) → Option (Flags × Bool × Char × Text)
  | [], _, _, _ => none
  | c :: rest, flags, on, seen =>
    if c = ':' || c = ')' then
      if seen.head? = some '-' then none else some (flags, !seen.isEmpty, c, rest)
    else if seen.contains c then none
    else
      let next (flags : Flags) := groupFlags? rest flags on (c :: seen)
      match c with
      | '-' => groupFlags? rest flags false (c :: seen)
      | 'i' => next { flags with ignoreCase := on }
      | 'm' => next { flags with multiLine := on }
      | 's' => next { flags with dotAll := on }
      | 'U' => next { flags with swapGreed := on }
      | 'u' => next { flags with unicode := on }
      | 'R' => next { flags with returns := on }
      | 'x' => next { flags with extended := on }
      | _ => none

/-- The name of a group, up to its `>`. -/
private def groupName? (t : Text) : Option (Text × Text) :=
  match t.span (· ≠ '>') with
  | (first :: more, '>' :: rest) =>
    let inName (c : Char) : Bool :=
      c = '_' || c = '.' || c = '[' || c = ']' || Unicode.isAlphanumeric c
    if (first = '_' || Unicode.isAlphabetic first) && more.all inName then
      some (first :: more, rest)
    else none
  | _ => none

/-! ## Whole patterns -/

/-- A group still open: the branches and the row of parts read so far, and what to restore when it
closes. A part `none` is a change of flags, which cannot be repeated. -/
private structure Frame where
  /-- The index under which the group remembers, if it does. -/
  index : Option Nat := none
  /-- The flags outside the group. -/
  outer : Flags
  /-- Finished branches, latest first. -/
  branches : List Expr := []
  /-- Parts of the current branch, latest first. -/
  parts : List (Option Expr) := []

/-- The expression of a branch from its parts, latest first. -/
private def branchExpr (parts : List (Option Expr)) : Expr :=
  match parts.filterMap id with
  | [] => .empty
  | last :: earlier => earlier.foldl (fun e part ↦ .seq part e) last

/-- The expression of a group from its branches, latest first. -/
private def groupExpr (branches : List Expr) : Expr :=
  match branches with
  | [] => .empty
  | last :: earlier => earlier.foldl (fun e branch ↦ .alt branch e) last

namespace Frame

/-- The frame with one more part. -/
private def push (f : Frame) (e : Expr) : Frame := { f with parts := some e :: f.parts }

/-- The frame with its branch finished. -/
private def nextBranch (f : Frame) : Frame :=
  { f with branches := branchExpr f.parts :: f.branches, parts := [] }

/-- The expression of the finished group. -/
private def expr (f : Frame) : Expr := groupExpr f.nextBranch.branches

end Frame

/-- What has been read of a pattern. -/
private structure Progress where
  /-- The flags in force. -/
  flags : Flags
  /-- The innermost open group, or the whole pattern. -/
  frame : Frame
  /-- The groups around it, innermost first. -/
  around : List Frame := []
  /-- The number of remembering groups opened. -/
  groups : Nat := 0
  /-- The names given to groups. -/
  names : List Text := []

/-- The expression of a single character. -/
private def charExpr? (flags : Flags) (c : Char) (byte : Bool) : Option Expr :=
  if !flags.unicode && byte && 128 ≤ c.toNat then none
  else some (.set (caseClosed flags (.single c)))

/-- The expression of `.`. -/
private def dotExpr? (flags : Flags) : Option Expr :=
  if !flags.unicode then none
  else if flags.dotAll then some (.set (.compl .empty))
  else if flags.returns then some (.set (.compl (.ranges [(0xA, 0xA), (0xD, 0xD)])))
  else some (.set (.compl (.single '\n')))

/-- The condition of `^`. -/
private def startLook (flags : Flags) : Look :=
  if !flags.multiLine then .textStart else if flags.returns then .lineStartReturn else .lineStart

/-- The condition of `$`. -/
private def endLook (flags : Flags) : Look :=
  if !flags.multiLine then .textEnd else if flags.returns then .lineEndReturn else .lineEnd

/-- Groups nest to this depth at most. -/
private def depthLimit : Nat := 250

/-- Opens a group, after its parenthesis; or changes the flags if the parenthesis says only that. -/
private def openGroup? (p : Progress) (t : Text) : Option (Progress × Text) :=
  let opened (index : Option Nat) (flags : Flags) (p : Progress) : Progress :=
    { p with flags, frame := ⟨index, p.flags, [], []⟩, around := p.frame :: p.around }
  let named (rest : Text) : Option (Progress × Text) := do
    let (name, rest) ← groupName? rest
    if p.names.contains name then none
    let p := { p with groups := p.groups + 1, names := name :: p.names }
    return (opened (some p.groups) p.flags p, rest)
  if depthLimit ≤ p.around.length then none
  else match skip p.flags t with
  | '?' :: '=' :: _ | '?' :: '!' :: _ | '?' :: '<' :: '=' :: _ | '?' :: '<' :: '!' :: _ => none
  | '?' :: 'P' :: '<' :: rest | '?' :: '<' :: rest => named rest
  | '?' :: rest =>
    match groupFlags? rest p.flags true [] with
    | none => none
    | some (flags, written, stop, rest) =>
      if stop = ':' then some (opened none flags p, rest)
      else if !written then none
      else
        let frame := { p.frame with parts := none :: p.frame.parts }
        some ({ p with flags, frame }, rest)
  | t =>
    let p := { p with groups := p.groups + 1 }
    some (opened (some p.groups) p.flags p, t)

/-- Closes the innermost group. -/
private def closeGroup? (p : Progress) : Option Progress :=
  match p.around with
  | [] => none
  | outer :: around =>
    let e := p.frame.expr
    let e := match p.frame.index with
      | some index => .group index e
      | none => e
    some { p with flags := p.frame.outer, frame := outer.push e, around }

/-- Reads one part of a pattern that is not empty. -/
private def step? (p : Progress) (c : Char) (rest : Text) : Option (Progress × Text) :=
  let add (e : Expr) (rest : Text) : Option (Progress × Text) :=
    some ({ p with frame := p.frame.push e }, rest)
  match c with
  | '(' => openGroup? p rest
  | ')' => (closeGroup? p).map (·, rest)
  | '|' => some ({ p with frame := p.frame.nextBranch }, rest)
  | '[' => do
    let (s, rest) ← bracket? p.flags rest
    add (.set s) rest
  | '?' | '*' | '+' | '\x7b' =>
    match p.frame.parts with
    | some e :: parts => do
      let (least, most, isLazy, rest) ← repetition? p.flags (c :: rest)
      let e := e.repeated least most (isLazy == p.flags.swapGreed)
      some ({ p with frame := { p.frame with parts := some e :: parts } }, rest)
    | _ => none
  | '\\' => do
    let (item, rest) ← escape? p.flags rest
    match item with
    | .char c byte => add (← charExpr? p.flags c byte) rest
    | .set s => add (.set s) rest
    | .look l => add (.look l) rest
  | '.' => do add (← dotExpr? p.flags) rest
  | '^' => add (.look (startLook p.flags)) rest
  | '$' => add (.look (endLook p.flags)) rest
  | c => do add (← charExpr? p.flags c false) rest

/-- Reads the rest of a pattern. -/
private def readFrom? : (fuel : Nat) → Progress → Text → Option Progress
  | 0, _, _ => none
  | fuel + 1, p, t =>
    match skip p.flags t with
    | [] => some p
    | c :: rest =>
      match step? p c rest with
      | some (p, rest) => readFrom? fuel p rest
      | none => none

/-! ## Groups are counted from one -/

/-- The expressions read so far have their groups counted from one. -/
private structure Frame.IsNumbered (f : Frame) : Prop where
  /-- The group itself. -/
  index : ∀ index, f.index = some index → 1 ≤ index
  /-- The finished branches. -/
  branches : ∀ e ∈ f.branches, e.IsNumbered
  /-- The parts of the current branch. -/
  parts : ∀ e, some e ∈ f.parts → e.IsNumbered

/-- So have those of all groups that are open. -/
private structure Progress.IsNumbered (p : Progress) : Prop where
  /-- The innermost group. -/
  frame : p.frame.IsNumbered
  /-- The groups around it. -/
  around : ∀ f ∈ p.around, f.IsNumbered

private theorem isNumbered_branchExpr {parts : List (Option Expr)}
    (h : ∀ e, some e ∈ parts → e.IsNumbered) : (branchExpr parts).IsNumbered := by
  have hparts : ∀ e ∈ parts.filterMap id, e.IsNumbered := by
    intro e he
    obtain ⟨part, hpart, heq⟩ := List.mem_filterMap.mp he
    exact h e (heq ▸ hpart)
  rw [branchExpr]
  split
  · trivial
  · next last earlier hrow =>
    rw [hrow] at hparts
    exact List.foldlRecOn earlier _ (hparts last List.mem_cons_self) fun e he part hpart ↦
      ⟨hparts part (List.mem_cons_of_mem last hpart), he⟩

private theorem isNumbered_groupExpr {branches : List Expr}
    (h : ∀ e ∈ branches, e.IsNumbered) : (groupExpr branches).IsNumbered := by
  cases branches with
  | nil => trivial
  | cons last earlier =>
    exact List.foldlRecOn earlier _ (h last List.mem_cons_self) fun e he branch hbranch ↦
      ⟨h branch (List.mem_cons_of_mem last hbranch), he⟩

namespace Frame.IsNumbered

variable {f : Frame}

private theorem push (h : f.IsNumbered) {e : Expr} (he : e.IsNumbered) : (f.push e).IsNumbered := by
  refine ⟨h.index, h.branches, fun e' he' ↦ ?_⟩
  rcases List.mem_cons.mp he' with heq | hmem
  · exact Option.some.inj heq ▸ he
  · exact h.parts e' hmem

private theorem nextBranch (h : f.IsNumbered) : f.nextBranch.IsNumbered :=
  ⟨h.index, List.forall_mem_cons.mpr ⟨isNumbered_branchExpr h.parts, h.branches⟩,
    fun _ he ↦ absurd he List.not_mem_nil⟩

private theorem expr (h : f.IsNumbered) : f.expr.IsNumbered :=
  isNumbered_groupExpr h.nextBranch.branches

end Frame.IsNumbered

variable {p p' : Progress} {rest rest' : Text} {c : Char}

/-- A group that is opened is counted. -/
private theorem isNumbered_openGroup? (h : p.IsNumbered)
    (hopen : openGroup? p rest = some (p', rest')) : p'.IsNumbered := by
  have hopened (index : Option Nat) (hindex : ∀ i, index = some i → 1 ≤ i) (flags outer : Flags)
      (groups : Nat) (names : List Text) :
      Progress.IsNumbered ⟨flags, ⟨index, outer, [], []⟩, p.frame :: p.around, groups, names⟩ :=
    ⟨⟨hindex, fun _ he ↦ absurd he List.not_mem_nil, fun _ he ↦ absurd he List.not_mem_nil⟩,
      List.forall_mem_cons.mpr ⟨h.frame, h.around⟩⟩
  have hcounted : ∀ i, some (p.groups + 1) = some i → 1 ≤ i := fun i hi ↦
    Option.some.inj hi ▸ Nat.le_add_left 1 p.groups
  unfold openGroup? at hopen
  extract_lets opened named q at hopen
  have hnamed {t : Text} (hname : named t = some (p', rest')) : p'.IsNumbered := by
    obtain ⟨⟨name, t'⟩, -, hname⟩ := Option.bind_eq_some_iff.mp hname
    simp only at hname
    split at hname
    · cases hname
    · obtain ⟨rfl, -⟩ := Prod.mk.inj (Option.some.inj hname)
      exact hopened _ hcounted _ _ _ _
  split at hopen
  · cases hopen
  · split at hopen
    · cases hopen
    · cases hopen
    · cases hopen
    · cases hopen
    · exact hnamed hopen
    · exact hnamed hopen
    · split at hopen
      · cases hopen
      · split at hopen
        · obtain ⟨rfl, -⟩ := Prod.mk.inj (Option.some.inj hopen)
          exact hopened none (fun _ hi ↦ absurd hi.symm (Option.some_ne_none _)) _ _ _ _
        · split at hopen
          · cases hopen
          · -- a change of flags is a part without an expression
            obtain ⟨rfl, -⟩ := Prod.mk.inj (Option.some.inj hopen)
            refine ⟨⟨h.frame.index, h.frame.branches, fun e he ↦ ?_⟩, h.around⟩
            rcases List.mem_cons.mp he with heq | hmem
            · cases heq
            · exact h.frame.parts e hmem
    · obtain ⟨rfl, -⟩ := Prod.mk.inj (Option.some.inj hopen)
      exact hopened _ hcounted _ _ _ _

private theorem isNumbered_closeGroup? (h : p.IsNumbered) (hclose : closeGroup? p = some p') :
    p'.IsNumbered := by
  unfold closeGroup? at hclose
  split at hclose
  · cases hclose
  · next outer around haround =>
    obtain rfl := Option.some.inj hclose
    obtain ⟨houter, haround⟩ := List.forall_mem_cons.mp (haround ▸ h.around)
    refine ⟨houter.push ?_, haround⟩
    split
    · next index hindex => exact ⟨h.frame.index index hindex, h.frame.expr⟩
    · exact h.frame.expr

/-- A part that is repeated has the groups it had. -/
private theorem Progress.IsNumbered.repeated (h : p.IsNumbered) {e : Expr}
    {parts : List (Option Expr)} (hparts : p.frame.parts = some e :: parts) (least : Nat)
    (most : Option Nat) (greedy : Bool) :
    Progress.IsNumbered { p with frame := { p.frame with
      parts := some (e.repeated least most greedy) :: parts } } := by
  have hframe := hparts ▸ h.frame.parts
  refine ⟨⟨h.frame.index, h.frame.branches, fun e' he' ↦ ?_⟩, h.around⟩
  rcases List.mem_cons.mp he' with heq | hmem
  · exact Option.some.inj heq ▸ (hframe e List.mem_cons_self).repeated least most greedy
  · exact hframe e' (List.mem_cons_of_mem _ hmem)

private theorem isNumbered_charExpr? {flags : Flags} {byte : Bool} {e : Expr}
    (h : charExpr? flags c byte = some e) : e.IsNumbered := by
  obtain ⟨-, heq⟩ := Option.ite_none_left_eq_some.mp h
  exact Option.some.inj heq ▸ trivial

private theorem isNumbered_dotExpr? {flags : Flags} {e : Expr} (h : dotExpr? flags = some e) :
    e.IsNumbered := by
  unfold dotExpr? at h
  split at h
  · cases h
  · split at h
    · exact Option.some.inj h ▸ trivial
    · split at h
      · exact Option.some.inj h ▸ trivial
      · exact Option.some.inj h ▸ trivial

/-- One more part is read. -/
private theorem isNumbered_step? (h : p.IsNumbered) (hstep : step? p c rest = some (p', rest')) :
    p'.IsNumbered := by
  unfold step? at hstep
  extract_lets add at hstep
  have hadd {e : Expr} {t : Text} (he : e.IsNumbered) (hadd : add e t = some (p', rest')) :
      p'.IsNumbered := by
    obtain ⟨rfl, -⟩ := Prod.mk.inj (Option.some.inj hadd)
    exact ⟨h.frame.push he, h.around⟩
  split at hstep
  · exact isNumbered_openGroup? h hstep
  · obtain ⟨q, hclose, heq⟩ := Option.map_eq_some_iff.mp hstep
    cases heq
    exact isNumbered_closeGroup? h hclose
  · obtain ⟨rfl, -⟩ := Prod.mk.inj (Option.some.inj hstep)
    exact ⟨h.frame.nextBranch, h.around⟩
  · obtain ⟨⟨s, t⟩, -, hstep⟩ := Option.bind_eq_some_iff.mp hstep
    exact hadd (e := .set s) trivial hstep
  -- the four signs of repetition
  iterate 4
    · split at hstep
      · next e parts hparts =>
        obtain ⟨⟨least, most, isLazy, t⟩, -, hstep⟩ := Option.bind_eq_some_iff.mp hstep
        obtain ⟨rfl, -⟩ := Prod.mk.inj (Option.some.inj hstep)
        exact h.repeated hparts _ _ _
      · cases hstep
  · obtain ⟨⟨item, t⟩, -, hstep⟩ := Option.bind_eq_some_iff.mp hstep
    simp only at hstep
    split at hstep
    · obtain ⟨e, he, hstep⟩ := Option.bind_eq_some_iff.mp hstep
      exact hadd (isNumbered_charExpr? he) hstep
    · exact hadd (e := .set _) trivial hstep
    · exact hadd (e := .look _) trivial hstep
  · obtain ⟨e, he, hstep⟩ := Option.bind_eq_some_iff.mp hstep
    exact hadd (isNumbered_dotExpr? he) hstep
  · exact hadd (e := .look _) trivial hstep
  · exact hadd (e := .look _) trivial hstep
  · obtain ⟨e, he, hstep⟩ := Option.bind_eq_some_iff.mp hstep
    exact hadd (isNumbered_charExpr? he) hstep

private theorem isNumbered_readFrom? {fuel : Nat} {t : Text} (h : p.IsNumbered)
    (hread : readFrom? fuel p t = some p') : p'.IsNumbered := by
  induction fuel generalizing p t with
  | zero => cases hread
  | succ fuel ih =>
    rw [readFrom?] at hread
    split at hread
    · exact Option.some.inj hread ▸ h
    · split at hread
      · next hstep => exact ih (isNumbered_step? h hstep) hread
      · cases hread

end Reader

/-- A pattern that has been read: its expression and the number of its remembering groups. -/
structure Parsed where
  /-- The expression. -/
  expr : Expr
  /-- The number of groups that remember what they take. -/
  groups : Nat

/-- Reads a pattern under the given flags, `none` if it is malformed or too large. -/
def parse? (flags : Flags) (source : Text) : Option Parsed := do
  let p ← Reader.readFrom? (source.length + 1) ⟨flags, { outer := flags }, [], 0, []⟩ source
  if !p.around.isEmpty || Expr.sizeLimit < p.frame.expr.size then none
  return ⟨p.frame.expr, p.groups⟩

/-- The groups of a pattern are counted from one. -/
theorem isNumbered_of_parse? {flags : Flags} {source : Text} {p : Parsed}
    (h : parse? flags source = some p) : p.expr.IsNumbered := by
  obtain ⟨q, hread, h⟩ := Option.bind_eq_some_iff.mp h
  have hstart : Reader.Progress.IsNumbered ⟨flags, { outer := flags }, [], 0, []⟩ :=
    ⟨⟨fun _ hi ↦ absurd hi.symm (Option.some_ne_none _), fun _ he ↦ absurd he List.not_mem_nil,
      fun _ he ↦ absurd he List.not_mem_nil⟩, fun _ hf ↦ absurd hf List.not_mem_nil⟩
  have hq := Reader.isNumbered_readFrom? hstart hread
  simp only at h
  split at h
  · cases h
  · obtain rfl := Option.some.inj h
    exact hq.frame.expr

/-- The pattern that takes exactly the given text: every character that could mean something else
stands behind a backslash. -/
def literal (t : Text) : Text := t.flatMap fun c ↦ if Reader.isMeta c then ['\\', c] else [c]

end LineEditor.Pattern
