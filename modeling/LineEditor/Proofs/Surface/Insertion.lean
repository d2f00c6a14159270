import LineEditor.Proofs.Surface.Cuts

/-!
# Inserting into a forest

New text goes into the first text leaf that touches its offset. Where no leaf does, it becomes a
node of its own, but only in the top row: it is put before the first node of the row that starts at
or after the offset. An offset inside an element of the row is not such a place, and then the new
text ends up behind the element. `slip` is by how many characters it misses its offset.

Replacing a stretch of a forest is therefore splicing its content, except that the new text slips.
-/

namespace LineEditor.Forest

/-- A text leaf touches the offset. -/
def touchesText : Forest → (offset : Nat) → Bool
  | nil, _ => false
  | leaf l next, offset =>
    (match l with
      | .text chars => offset ≤ chars.length
      | .lineBreak => false) || (l.length ≤ offset && next.touchesText (offset - l.length))
  | element _ inner next, offset =>
    (offset ≤ inner.length && inner.touchesText offset)
      || (inner.length ≤ offset && next.touchesText (offset - inner.length))

/-- The offset at which the first node of the row starts that does so at or after `offset`; the end
if there is none. -/
def rowOffset : Forest → (offset : Nat) → Nat
  | nil, _ => 0
  | leaf l next, offset => if offset = 0 then 0 else l.length + next.rowOffset (offset - l.length)
  | element _ inner next, offset =>
    if offset = 0 then 0 else inner.length + next.rowOffset (offset - inner.length)

/-- By how many characters text inserted at `offset` misses it. -/
def slip (f : Forest) (offset : Nat) : Nat :=
  if f.touchesText offset then 0 else f.rowOffset offset - offset

/-! ## Inserting into a leaf -/

/-- Splicing at an offset behind a part of a text leaves that part alone. -/
private theorem splice_append_of_le {t u piece : Text} {n : Nat} (h : t.length ≤ n) :
    (t ++ u).splice n n piece = t ++ u.splice (n - t.length) (n - t.length) piece := by
  simp only [Text.splice]
  rw [List.take_append, List.drop_append, List.take_of_length_le h, List.drop_of_length_le h,
    List.nil_append]
  simp only [List.append_assoc]

/-- Splicing at an offset inside a part of a text leaves the rest alone. -/
private theorem splice_append_of_ge {t u piece : Text} {n : Nat} (h : n ≤ t.length) :
    (t ++ u).splice n n piece = t.splice n n piece ++ u := by
  simp only [Text.splice]
  rw [List.take_append_of_le_length h, List.drop_append_of_le_length h, List.append_assoc,
    List.append_assoc, List.append_assoc]

/-- The later nodes of a row are looked at only if the offset lies behind the first one. -/
private theorem later_eq_some {next g : Forest} {wrap : Forest → Forest} {n m : Nat} {piece : Text}
    (h : (if n < m then none else (next.insertText? (n - m) piece).map wrap) = some g) :
    m ≤ n ∧ ∃ g', next.insertText? (n - m) piece = some g' ∧ wrap g' = g := by
  split at h
  · exact absurd h (by simp)
  · next hn => exact ⟨Nat.not_lt.mp hn, Option.map_eq_some_iff.mp h⟩

private theorem isSome_later {next : Forest} {wrap : Forest → Forest} {n m : Nat} {piece : Text}
    (h : (next.insertText? (n - m) piece).isSome = next.touchesText (n - m)) :
    (if n < m then none else (next.insertText? (n - m) piece).map wrap).isSome
      = (decide (m ≤ n) && next.touchesText (n - m)) := by
  split
  · next hn => rw [decide_eq_false (Nat.not_le.mpr hn)]; rfl
  · next hn => rw [decide_eq_true (Nat.not_lt.mp hn), Option.isSome_map, h, Bool.true_and]

/-- There is a leaf to insert into exactly if one touches the offset, whatever is inserted. -/
theorem isSome_insertText? (f : Forest) (n : Nat) (piece : Text) :
    (f.insertText? n piece).isSome = f.touchesText n := by
  induction f generalizing n with
  | nil => rfl
  | leaf l next ih =>
    cases l with
    | text chars =>
      simp only [insertText?, touchesText]
      split
      · next hn => rw [decide_eq_true hn]; rfl
      · next hn => rw [isSome_later (ih _), decide_eq_false hn, Bool.false_or]
    | lineBreak =>
      simp only [insertText?, touchesText]
      rw [isSome_later (ih _), Bool.false_or]
  | element tag inner next ihi ihn =>
    simp only [insertText?, touchesText]
    rw [← ihi n]
    split
    · next hn =>
      rw [decide_eq_true hn, Bool.true_and]
      cases inner.insertText? n piece with
      | some inner' => rfl
      | none => exact isSome_later (ihn _)
    · next hn => rw [isSome_later (ihn _), decide_eq_false hn, Bool.false_and, Bool.false_or]

/-- Text inserted into a leaf stands at its offset. -/
theorem content_insertText? {f g : Forest} {n : Nat} {piece : Text}
    (h : f.insertText? n piece = some g) : g.content = f.content.splice n n piece := by
  induction f generalizing n g with
  | nil => exact absurd h (by simp [insertText?])
  | leaf l next ih =>
    have hlater : (if n < l.length then none
        else (next.insertText? (n - l.length) piece).map (leaf l)) = some g →
          g.content = (leaf l next).content.splice n n piece := by
      intro hsome
      obtain ⟨hn, g', hg', rfl⟩ := later_eq_some hsome
      rw [content, content, ih hg', splice_append_of_le hn]
      rfl
    cases l with
    | text chars =>
      simp only [insertText?] at h
      split at h
      · next hn =>
        obtain rfl := Option.some.inj h
        exact (splice_append_of_ge hn).symm
      · exact hlater h
    | lineBreak => exact hlater h
  | element tag inner next ihi ihn =>
    have hlen : inner.content.length = inner.length := inner.length_eq_length_content.symm
    have hlater : (if n < inner.length then none
        else (next.insertText? (n - inner.length) piece).map (element tag inner)) = some g →
          g.content = (element tag inner next).content.splice n n piece := by
      intro hsome
      obtain ⟨hn, g', hg', rfl⟩ := later_eq_some hsome
      rw [content, content, ihn hg', splice_append_of_le (hlen ▸ hn), hlen]
    simp only [insertText?] at h
    split at h
    · next hn =>
      cases hinner : inner.insertText? n piece with
      | some inner' =>
        rw [hinner] at h
        obtain rfl := Option.some.inj h
        rw [content, content, ihi hinner, splice_append_of_ge (hlen ▸ hn)]
      | none =>
        rw [hinner] at h
        exact hlater h
    · exact hlater h

/-! ## Inserting a node -/

/-- A node is never put in front of its offset. -/
theorem le_rowOffset {f : Forest} {n : Nat} (h : n ≤ f.length) : n ≤ f.rowOffset n := by
  induction f generalizing n with
  | nil => exact h
  | leaf l next ih =>
    rw [length] at h
    rw [rowOffset]
    split
    · omega
    · have := ih (n := n - l.length) (by omega)
      omega
  | element tag inner next _ ih =>
    rw [length] at h
    rw [rowOffset]
    split
    · omega
    · have := ih (n := n - inner.length) (by omega)
      omega

theorem content_insertRow (f row : Forest) (n : Nat) :
    (f.insertRow n row).content
      = f.content.splice (f.rowOffset n) (f.rowOffset n) row.content := by
  induction f generalizing n with
  | nil => simp [insertRow, content, Text.splice]
  | leaf l next ih =>
    rw [insertRow, rowOffset]
    split
    · rw [content_append]
      rfl
    · have hlen : l.content.length ≤ l.length + next.rowOffset (n - l.length) :=
        Nat.le_add_right _ _
      rw [content, content, ih, splice_append_of_le hlen, ← Leaf.length, Nat.add_sub_cancel_left]
  | element tag inner next _ ih =>
    rw [insertRow, rowOffset]
    split
    · rw [content_append]
      rfl
    · have hlen : inner.content.length ≤ inner.length + next.rowOffset (n - inner.length) := by
        rw [← length_eq_length_content]
        exact Nat.le_add_right _ _
      rw [content, content, ih, splice_append_of_le hlen, ← length_eq_length_content,
        Nat.add_sub_cancel_left]

/-! ## Replacing -/

/-- A text put in at an offset: into a leaf that touches it, or else as a node of the row. -/
def insert (f : Forest) (offset : Nat) (piece : Text) : Forest :=
  match f.insertText? offset piece with
  | some g => g
  | none => f.insertRow offset (leaf (.text piece) nil)

theorem content_insert {f : Forest} {n : Nat} (h : n ≤ f.length) (piece : Text) :
    (f.insert n piece).content = f.content.splice (n + f.slip n) (n + f.slip n) piece := by
  have htouches := f.isSome_insertText? n piece
  unfold insert slip
  cases hinsert : f.insertText? n piece with
  | some g =>
    rw [hinsert] at htouches
    rw [← htouches]
    exact content_insertText? hinsert
  | none =>
    rw [hinsert] at htouches
    have hrow := le_rowOffset h
    rw [← htouches, Option.isSome_none, if_neg Bool.false_ne_true, Nat.add_sub_cancel' hrow,
      content_insertRow]
    simp only [content, Leaf.content, List.append_nil]

/-- The text behind a removed stretch that text put in its place slips over. -/
def skipped (f : Forest) (start stop : Nat) : Text :=
  (f.content.drop stop).take ((f.cleared start stop).slip start)

/-- The text behind a removed stretch that text put in its place does not slip over. -/
def unskipped (f : Forest) (start stop : Nat) : Text :=
  (f.content.drop stop).drop ((f.cleared start stop).slip start)

theorem skipped_append_unskipped (f : Forest) (start stop : Nat) :
    f.skipped start stop ++ f.unskipped start stop = f.content.drop stop :=
  List.take_append_drop _ _

/-- Replacing is splicing, with the new text behind what it skips. -/
theorem content_replace (f : Forest) {start stop : Nat} (hle : start ≤ stop)
    (hstop : stop ≤ f.length) (piece : Text) :
    (f.replace start stop piece).content
      = f.content.take start
        ++ (f.skipped start stop ++ piece ++ f.unskipped start stop) := by
  have hcontent := f.content_cleared hle
  have htake : (f.content.take start).length = start :=
    List.length_take_of_le (by rw [← length_eq_length_content]; omega)
  have hreplace : f.replace start stop piece
      = if piece = [] then f.cleared start stop else (f.cleared start stop).insert start piece := rfl
  rw [hreplace]
  split
  · next hpiece => rw [hpiece, List.append_nil, skipped_append_unskipped, hcontent]
  · -- the text is put into what is left, where only the part behind the stretch can be skipped
    have hstart : start ≤ (f.cleared start stop).length := by
      rw [length_eq_length_content, hcontent, List.length_append, htake]
      exact Nat.le_add_right _ _
    have hle' : (f.content.take start).length ≤ start + (f.cleared start stop).slip start := by
      rw [htake]
      exact Nat.le_add_right _ _
    rw [content_insert hstart, hcontent, splice_append_of_le hle', htake, Nat.add_sub_cancel_left]
    rfl

theorem length_content_replace (f : Forest) {start stop : Nat} (hle : start ≤ stop)
    (hstop : stop ≤ f.length) (piece : Text) :
    (f.replace start stop piece).content.length
      = start + piece.length + (f.content.length - stop) := by
  have hrest := congrArg List.length (f.skipped_append_unskipped start stop)
  rw [List.length_append, List.length_drop] at hrest
  rw [f.content_replace hle hstop, List.length_append, List.length_append, List.length_append,
    List.length_take_of_le (by rw [← length_eq_length_content]; omega)]
  omega

end LineEditor.Forest
