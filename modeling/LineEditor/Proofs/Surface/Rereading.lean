import LineEditor.Proofs.Surface.Selecting
import LineEditor.Proofs.Surface.Starting
import LineEditor.Proofs.Surface.Undisturbed

/-!
# The selection of wrapped content

Wrapping leaves the two points of the selection as they are, although it changes the nodes that they
lead to: a leaf that is split is two nodes of its row, and nodes that are gathered are one. So what
is read afterwards depends on where the points lie.

Points that lead to a leaf in front of the stretch are cut to its start. Where the stretch starts
with a leaf, the points in that leaf stay unless the leaf is hidden. Behind the stretch, points stay
from where nothing is disturbed any more.
-/

namespace LineEditor

namespace Forest

/-- The offset that is read, once a stretch is wrapped, from the point that `n` had before. -/
def reread (f : Forest) (w : Bounds) (tag : Text) (n : Nat) : Nat :=
  (f.wrap w.start w.stop tag).offsetOf (f.locate n)

/-- The point of `n` leads to a leaf that starts in front of the stretch. -/
def InFront (f : Forest) (w : Bounds) (n : Nat) : Prop := n < w.start + (f.locate n).offset

instance (f : Forest) (w : Bounds) (n : Nat) : Decidable (f.InFront w n) :=
  inferInstanceAs (Decidable (n < w.start + (f.locate n).offset))

/-- The places at which a point stays when the stretch is wrapped. -/
inductive Stays (f : Forest) (w : Bounds) (n : Nat) : Prop
  /-- Not behind the start of the stretch, in a leaf that starts in front of it. -/
  | inFront (h : f.InFront w n) (hn : n ≤ w.start)
  /-- At a stretch that is empty. -/
  | atEmpty (h : w.start = w.stop) (hn : n = w.start)
  /-- In the leaf that the stretch starts with, which no element hides. -/
  | inFirst (h : w.start < w.stop) (hn : n = w.start + (f.locate n).offset)
      (hshown : f.hidesStart w.start w.stop = false)
  /-- Behind what is disturbed. -/
  | behind (h : w.start < w.stop) (hn : f.disturbedTo w.start w.stop ≤ n)
      (hend : f.disturbedTo w.start w.stop < f.length)

section Reread

variable {f : Forest} {w : Bounds} {n : Nat}

/-- Where the leaf of a point starts in front of the stretch, the point is cut to its start. -/
theorem reread_of_inFront (hle : w.start ≤ w.stop) (hstop : w.stop ≤ f.length) (hn : n ≤ f.length)
    (h : f.InFront w n) (tag : Text) : f.reread w tag n = min n w.start := by
  rw [InFront] at h
  obtain ⟨first, l, hleaf, hoffset, h₁, h₂, -⟩ := exists_leafAt_locate hn (by omega)
  have hfirst : first < w.start := by omega
  obtain ⟨l', hleaf', hlength⟩ := hleaf.wrap hfirst hle tag
  rw [reread, offsetOf, hleaf'.offsetAlong, hoffset, hlength]
  omega

/-- A point at an empty stretch stays where it is. -/
theorem reread_of_empty (hn : n ≤ f.length) (tag : Text) : f.reread ⟨n, n⟩ tag n = n := by
  rcases Nat.eq_zero_or_pos (f.locate n).offset with hzero | hpos
  · have hcut : f.Cut n := by
      rcases Nat.eq_or_lt_of_le hn with rfl | hlt
      · exact cut_of_length_le (Nat.le_refl _)
      · obtain ⟨start, l, hleaf, hoffset, h₁, -⟩ := exists_leafAt_locate hn (.inl hlt)
        obtain rfl : start = n := by omega
        exact hleaf.cut
    have hback := f.offsetOf_locate hn
    rw [offsetOf, hzero] at hback
    rw [reread, wrap, if_pos (Nat.le_refl n), hcut.splitAt_eq, hcut.splitAt_eq, offsetOf, hzero]
    exact offsetAlong_insertRow_empty hback tag
  · rw [reread_of_inFront (Nat.le_refl n) hn hn (Nat.lt_add_of_pos_right hpos), Nat.min_self]

/-- Where the leaf of a point starts with the stretch, it stays where it is unless it is hidden, and
if it is, then its start does not. -/
theorem reread_of_start (hlt : w.start < w.stop) (hstop : w.stop ≤ f.length) (hn : n ≤ f.length)
    (h : n = w.start + (f.locate n).offset) (tag : Text) :
    if f.hidesStart w.start w.stop then n = w.start → f.reread w tag n ≠ n
    else f.reread w tag n = n := by
  obtain ⟨first, l, hleaf, hoffset, h₁, h₂, h₃⟩ := exists_leafAt_locate hn (by omega)
  obtain rfl : w.start = first := by omega
  obtain ⟨l', hleaf', hlength⟩ := hleaf.splitAt hlt
  have hreads := readsFrom_wrapFrom hleaf' (by omega) (Nat.zero_add _) hlt (cut_splitAt f w.stop)
    tag
  rw [Nat.sub_zero, hidesStart_splitAt hlt, ReadsFrom] at hreads
  have hwrap : f.wrap w.start w.stop tag
      = (f.splitAt w.stop).wrapFrom tag 0 w.start w.stop nil := by
    rw [wrap, if_neg (Nat.not_le.mpr hlt), hleaf.cut.splitAt_eq]
  rw [reread, hwrap, offsetOf]
  split
  · next hhidden =>
    rw [if_pos hhidden] at hreads
    intro hstart hread
    rw [show (f.locate n).offset = 0 by omega] at hread
    exact hreads (hread.trans hstart)
  · next hhidden =>
    rw [if_neg hhidden] at hreads
    rw [hreads, ← h]

/-- Behind what is disturbed, a point stays where it is. -/
theorem reread_of_behind (hlt : w.start < w.stop) (hn : n ≤ f.length)
    (h : f.disturbedTo w.start w.stop ≤ n) (hend : f.disturbedTo w.start w.stop < f.length)
    (tag : Text) : f.reread w tag n = n := by
  have hback := f.offsetOf_locate hn
  have hplace := f.hasPlace_locate hn
  rw [HasPlace, if_neg (by rintro rfl; exact Nat.not_lt_zero _ hend)] at hplace
  obtain ⟨m, htip, hm⟩ := hplace
  have hbeyond : f.disturbedTo w.start w.stop < f.offsetAlong (f.locate n).path m := by
    rcases Nat.eq_or_lt_of_le hn with rfl | hin
    · have hmono := f.offsetAlong_mono (f.locate f.length).path hm
      rw [offsetOf] at hback
      omega
    · -- in front of the end, the tip is a leaf that reaches beyond the offset
      obtain ⟨first, l, hleaf, -, -, -, hreach⟩ := exists_leafAt_locate hn (.inl hin)
      obtain rfl := Option.some.inj (hleaf.tipLength?.symm.trans htip)
      rw [hleaf.offsetAlong, Nat.min_self]
      exact Nat.lt_of_le_of_lt h (hreach hin)
  have hwrap : f.wrap w.start w.stop tag = f.wrapRow tag 0 w.start w.stop := by
    rw [wrap, if_neg (Nat.not_le.mpr hlt)]
    rfl
  rw [reread, hwrap, offsetOf,
    offsetAlong_wrapRow (Nat.zero_lt_of_lt hlt) hlt htip hbeyond]
  exact hback

/-- **Points that stay.** At such a place, a point is read as before. -/
theorem Stays.reread_eq (h : f.Stays w n) (hle : w.start ≤ w.stop) (hstop : w.stop ≤ f.length)
    (hn : n ≤ f.length) (tag : Text) : f.reread w tag n = n := by
  cases h with
  | inFront h hstart => rw [reread_of_inFront hle hstop hn h, Nat.min_eq_left hstart]
  | atEmpty h hstart =>
    obtain ⟨start, stop⟩ := w
    obtain rfl : start = stop := h
    obtain rfl : n = start := hstart
    exact reread_of_empty hn tag
  | inFirst hlt h hshown =>
    have hread := reread_of_start hlt hstop hn h tag
    rwa [hshown, if_neg Bool.false_ne_true] at hread
  | behind hlt h hend => exact reread_of_behind hlt hn h hend tag

end Reread

end Forest

namespace Surface

/-- **The selection of wrapped content.** What is read after wrapping are the two points that were
set before. If both stay, the selection is read as before. A point in a leaf that starts in front of
the stretch is cut to the start of the stretch. A point where a leaf and the stretch start stays if
and only if no element hides it. -/
theorem rereads_selection (nodes : Forest) (selection : Option (Point × Point))
    (viewport : Viewport) (b w : Bounds) (tag : Text) :
    let s := (Surface.mk (.content nodes selection) viewport).select b
    let ends := b.clamp nodes.content.length
    let stretch := w.clamp nodes.content.length
    let read := nodes.reread stretch tag
    ∃ s', s.wrap? w tag = some s' ∧
      s'.selection = some ⟨min (read ends.start) (read ends.stop),
        max (read ends.start) (read ends.stop)⟩ ∧
      (nodes.Stays stretch ends.start → nodes.Stays stretch ends.stop →
        s'.selection = s.selection) ∧
      (∀ n ≤ nodes.content.length, nodes.InFront stretch n → read n = min n stretch.start) ∧
      (stretch.start < stretch.stop → (nodes.locate stretch.start).offset = 0 →
        (read stretch.start = stretch.start ↔
          nodes.hidesStart stretch.start stretch.stop = false)) := by
  intro s ends stretch read
  have hlength : nodes.content.length = nodes.length := nodes.length_eq_length_content.symm
  have hends : ends.start ≤ ends.stop := b.clamp_start_le _
  have hends' : ends.stop ≤ nodes.length := hlength ▸ b.clamp_stop_le _
  have hle : stretch.start ≤ stretch.stop := w.clamp_start_le _
  have hstop : stretch.stop ≤ nodes.length := hlength ▸ w.clamp_stop_le _
  have hstart : ends.start ≤ nodes.length := Nat.le_trans hends hends'
  refine ⟨⟨.content (nodes.wrap stretch.start stretch.stop tag)
    (some (nodes.locate ends.start, nodes.locate ends.stop)), viewport⟩, rfl, rfl,
    fun h₁ h₂ ↦ ?_, fun n hn h ↦ ?_, fun hlt hzero ↦ ?_⟩
  · rw [selection_select]
    exact selection_of_points (h₁.reread_eq hle hstop hstart tag)
      (h₂.reread_eq hle hstop hends' tag) hends
  · exact Forest.reread_of_inFront hle hstop (hlength ▸ hn) h tag
  · have hread := Forest.reread_of_start hlt hstop (Nat.le_trans hle hstop)
      (by rw [hzero, Nat.add_zero]) tag
    constructor
    · intro hstays
      rw [Bool.eq_false_iff]
      intro hhidden
      rw [hhidden, if_pos rfl] at hread
      exact hread rfl hstays
    · intro hshown
      rwa [hshown, if_neg Bool.false_ne_true] at hread

/-- A stretch in an element, a selection around the element, and a point in it. Where the stretch is
the whole element, an empty one hides its start. -/
theorem rereads_selection_around_element :
    let two : Forest := .element ['i'] .nil (.leaf (.text "Two".toList) .nil)
    let nodes : Forest := .leaf (.text "One".toList)
      (.element ['b'] two (.leaf (.text "Three".toList) .nil))
    let mark := "mark".toList
    (∃ s', ((ofContent nodes).select ⟨1, 8⟩).wrap? ⟨4, 6⟩ mark = some s' ∧
      s'.selection = some ⟨1, 8⟩) ∧
    nodes.reread ⟨4, 6⟩ mark 5 = 4 ∧ nodes.reread ⟨3, 6⟩ mark 3 ≠ 3 := by
  intro two nodes mark
  refine ⟨?_, ?_, ?_⟩
  · obtain ⟨s', hwrap, -, hstays, -⟩ := rereads_selection nodes none {} ⟨1, 8⟩ ⟨4, 6⟩ mark
    have hselection := hstays (.inFront (by decide) (by decide))
      (.behind (by decide) (by decide) (by decide))
    exact ⟨s', hwrap, hselection.trans (by decide)⟩
  · obtain ⟨s', -, -, -, hfront, -⟩ := rereads_selection nodes none {} ⟨1, 8⟩ ⟨4, 6⟩ mark
    exact hfront 5 (by decide) (by decide)
  · obtain ⟨s', -, -, -, -, hstart⟩ := rereads_selection nodes none {} ⟨1, 8⟩ ⟨3, 6⟩ mark
    intro hread
    have hshown := (hstart (by decide) (by decide)).mp hread
    exact absurd hshown (by decide)

/-- A selected part of a text is wrapped: what was selected is not any more. -/
theorem not_rereads_selection :
    let s := (ofContent (.leaf (.text "abc".toList) .nil)).select ⟨1, 2⟩
    s.selection = some ⟨1, 2⟩ ∧
      (s.wrap? ⟨1, 2⟩ ['b']).map selection = some (some ⟨1, 1⟩) := by
  decide

end Surface

end LineEditor
