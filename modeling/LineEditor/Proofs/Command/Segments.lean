import LineEditor.Proofs.Command.Locality

/-!
# Segments of a command line

A command line is cut into segments and read into commands by two loops over the same scanner:
`split` keeps the text that a command was read from, `commands` the command. The segments are cut
where the commands end, and how far a command reaches depends on what was read of it. So it has to
be shown that a segment still reads as the command it was cut behind, now that the rest of the
line is gone. This is what locality of the scanners gives, since a command that is not the last one
leaves a rest that starts with a bar.

An error ends both loops at the same place. Until there, the line can be put together again from
its segments, and each of them is read alone as it is in its place.
-/

namespace LineEditor.Command

variable {line n : Text} {command : Command}

/-! ## Where a command stops -/

theorem fromBar_eq_cons {state : ParameterState} {t : Text} {c : Char}
    (h : fromBar state t = c :: n) : c = '|' := by
  fun_induction fromBar state t with
  | case1 => exact absurd h.symm (List.cons_ne_nil c n)
  | case2 => exact (List.cons.inj h).1.symm
  | case3 _ _ _ ih | case4 _ _ ih | case5 _ _ ih | case6 _ _ ih => exact ih h

theorem afterParameter_eq_cons {name : Option CommandName} {t : Text} {c : Char}
    (h : afterParameter name t = c :: n) : c = '|' := by
  unfold afterParameter at h
  split at h
  · split at h
    · exact nomatch h
    · split at h
      · unfold fromBarAfterSections at h
        split at h
        · split at h
          · exact fromBar_eq_cons h
          · exact fromBar_eq_cons h
        · exact nomatch h
      · exact fromBar_eq_cons h
  · exact fromBar_eq_cons h

theorem finish_eq_ok {source t rest : Text} {addresses : List AddressToken}
    {name : Option CommandName} {spelled : Option Text} {repeats : Nat}
    (h : finish source addresses name spelled repeats t = .ok (command, rest)) :
    rest = afterParameter name (splitBang t).2 := by
  unfold finish at h
  extract_lets bang rest' parameter at h
  split at h
  · exact nomatch h
  · exact (Prod.mk.inj (Except.ok.inj h)).2.symm

/-- What a command leaves starts with a bar, if it is anything. -/
theorem scan_eq_cons {c : Char} (h : scan line = .ok (command, c :: n)) : c = '|' := by
  unfold scan at h
  split at h
  · exact nomatch h
  · split at h
    · exact nomatch h
    · exact afterParameter_eq_cons (finish_eq_ok h).symm

/-- The piece before a bar at which a command stops is that command, and nothing is left of it. -/
theorem scan_segment (h : scan line = .ok (command, '|' :: n)) :
    segment line ('|' :: n) ++ '|' :: n = line ∧
      scan (segment line ('|' :: n)) = .ok (command, []) := by
  obtain ⟨s, rfl⟩ := scan_suffix h
  have hs : segment (s ++ '|' :: n) ('|' :: n) = s := by
    rw [segment, List.length_append, Nat.add_sub_cancel, List.take_left]
  rw [hs]
  exact ⟨rfl, scan_of_append (r := []) h⟩

theorem parse_eq_ok {rest : Text} (h : scan line = .ok (command, rest)) :
    parse line = .ok command := by
  rw [parse, h]
  rfl

theorem parse_eq_error {e : Error} (h : scan line = .error e) : parse line = .error e := by
  rw [parse, h]
  rfl

/-! ## The two loops -/

/-- The reading of a segment is answered: it is an error or a command that is not empty. -/
def isAnswer : Except Error Command → Bool
  | .ok command => !command.isEmpty
  | .error _ => true

/-- Each of the segments is read alone as in its place, where the segments from it on and `rest`
are what is left of the line. -/
def ReadInPlace (segments rest : List Text) : Prop :=
  ∀ i (hi : i < segments.length), ∃ command, parse segments[i] = .ok command ∧
    parse (Text.join ['|'] (segments.drop i ++ rest)) = .ok command

theorem readInPlace_nil (rest : List Text) : ReadInPlace [] rest :=
  fun _ hi ↦ absurd hi (Nat.not_lt_zero _)

theorem ReadInPlace.cons {segments rest : List Text} {s : Text} (h : ReadInPlace segments rest)
    (hs : parse s = .ok command)
    (hline : parse (Text.join ['|'] (s :: segments ++ rest)) = .ok command) :
    ReadInPlace (s :: segments) rest := by
  intro i hi
  cases i with
  | zero => exact ⟨command, hs, hline⟩
  | succ i => exact h i (Nat.lt_of_succ_lt_succ hi)

theorem split_ne_nil {segments : List Text} (h : split line = .ok segments) : segments ≠ [] := by
  rintro rfl
  rw [split] at h
  split at h
  · simp at h
  · simp at h
  · next next _ =>
    cases hn : split next <;> simp [hn, bind, Except.bind, pure, Except.pure] at h

theorem filter_isAnswer_ok (command : Command) :
    [.ok command].filter isAnswer = if command.isEmpty then [] else [.ok command] := by
  cases h : command.isEmpty <;> simp [isAnswer, h]

theorem commands_of_last (h : scan line = .ok (command, [])) :
    commands line = [parse line].filter isAnswer := by
  rw [commands, parse_eq_ok h, filter_isAnswer_ok]
  split <;> simp_all

theorem eq_ok_of_toOption {ε α : Type} {r : Except ε α} {a : α} (h : r.toOption = some a) :
    r = .ok a := by
  cases r with
  | error e => exact nomatch h
  | ok b => exact congrArg Except.ok (Option.some.inj h)

/-- A line that is read as one command up to its end holds that command. -/
theorem commands_of_scan (h : (scan line).toOption = some (command, []))
    (hcommand : command.isEmpty = false) : commands line = [.ok command] := by
  have hscan : scan line = .ok (command, []) := eq_ok_of_toOption h
  rw [commands_of_last hscan, parse_eq_ok hscan, filter_isAnswer_ok, hcommand]
  rfl

theorem commands_of_bar {c : Char} (h : scan line = .ok (command, c :: n)) :
    commands line = [.ok command].filter isAnswer ++ commands n := by
  rw [commands, filter_isAnswer_ok]
  split
  · simp_all
  · simp_all
  · next hscan =>
    obtain ⟨rfl, -, rfl⟩ : _ ∧ _ ∧ _ := by simpa using h.symm.trans hscan
    split <;> rfl

theorem split_of_last (h : scan line = .ok (command, [])) : split line = .ok [line] := by
  rw [split]
  split <;> simp_all

theorem split_of_bar {c : Char} (h : scan line = .ok (command, c :: n)) :
    split line = (split n).map (segment line (c :: n) :: ·) := by
  rw [split]
  split
  · simp_all
  · simp_all
  · next hscan =>
    obtain ⟨-, rfl, rfl⟩ : _ ∧ _ ∧ _ := by simpa using h.symm.trans hscan
    cases split n <;> rfl

/-- The segments of a line are what its commands are read from: joined with bars they are the line,
each is read alone as in its place, and the commands are the segments read one by one without the
empty ones. If the line cannot be split, it is cut like this up to the segment that cannot be read;
the commands end with its error, which is the one that splitting gives. -/
theorem commands_eq_of_split (line : Text) :
    match split line with
    | .ok segments =>
      Text.join ['|'] segments = line ∧ ReadInPlace segments [] ∧
        commands line = (segments.map parse).filter isAnswer
    | .error e =>
      ∃ segments rest, Text.join ['|'] (segments ++ [rest]) = line ∧
        ReadInPlace segments [rest] ∧ parse rest = .error e ∧
        commands line = (segments.map parse).filter isAnswer ++ [.error e] := by
  fun_induction split line with
  | case1 line e h =>
    refine ⟨[], line, rfl, readInPlace_nil _, parse_eq_error h, ?_⟩
    rw [commands]
    split <;> simp_all
  | case2 line command h =>
    have hline : parse line = .ok command := parse_eq_ok h
    exact ⟨rfl, (readInPlace_nil []).cons hline hline, commands_of_last h⟩
  | case3 line command bar next h ih =>
    obtain rfl := scan_eq_cons h
    obtain ⟨hline, hs⟩ := scan_segment h
    have hhead := parse_eq_ok hs
    cases hn : split next with
    | ok segments =>
      simp only [hn, bind, Except.bind, pure, Except.pure] at ih ⊢
      obtain ⟨hjoin, hread, hcommands⟩ := ih
      have hall : Text.join ['|'] (segment line ('|' :: next) :: segments) = line := by
        rw [Text.join_cons _ _ (split_ne_nil hn), hjoin, List.append_assoc]
        exact hline
      refine ⟨hall, hread.cons hhead ?_, ?_⟩
      · rw [List.append_nil, hall, parse_eq_ok h]
      · rw [commands_of_bar h, hcommands, ← hhead, ← List.filter_append]
        rfl
    | error e =>
      simp only [hn, bind, Except.bind] at ih ⊢
      obtain ⟨segments, rest, hjoin, hread, hrest, hcommands⟩ := ih
      have hall : Text.join ['|'] (segment line ('|' :: next) :: segments ++ [rest]) = line := by
        rw [List.cons_append, Text.join_cons _ _ (by simp), hjoin, List.append_assoc]
        exact hline
      refine ⟨segment line ('|' :: next) :: segments, rest, hall, hread.cons hhead ?_, hrest, ?_⟩
      · rw [hall, parse_eq_ok h]
      · rw [commands_of_bar h, hcommands, ← hhead, ← List.append_assoc, ← List.filter_append]
        rfl

end LineEditor.Command
