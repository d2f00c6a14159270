import LineEditor.Table
import Mathlib.Data.List.Basic

/-!
# Sorted tables

The bindings of a table stand in the order of their keys, each key once: that is what binding a key
keeps, and what makes a table readable in two ways. Looking up a row of ascending keys, among which
are all that are bound, gives the bindings as they stand.
-/

namespace LineEditor.Table

variable {α β : Type}

/-- A key that comes with no binding is not bound. -/
theorem get?_of_forall_ne [DecidableEq α] {key : α} {t : Table α β} (h : ∀ e ∈ t, e.1 ≠ key) :
    get? key t = none := by
  induction t with
  | nil => rfl
  | cons e rest ih =>
    rw [get?, if_neg (h e List.mem_cons_self), ih fun e' he' ↦ h e' (List.mem_cons_of_mem e he')]

variable [LT α]

/-- The keys of the bindings ascend. -/
def IsSorted (t : Table α β) : Prop := t.Pairwise fun a b ↦ a.1 < b.1

variable [DecidableEq α]

section Insert

variable [DecidableLT α]

/-- A binding adds nothing but itself. -/
theorem eq_or_mem_of_mem_insert {key : α} {value : β} {t : Table α β} {e : α × β}
    (h : e ∈ insert key value t) : e = (key, value) ∨ e ∈ t := by
  induction t with
  | nil => exact .inl (List.mem_singleton.mp h)
  | cons e' rest ih =>
    obtain ⟨k, v⟩ := e'
    rw [insert] at h
    split at h
    · exact (List.mem_cons.mp h).imp_right (List.mem_cons_of_mem _)
    split at h
    · exact List.mem_cons.mp h
    · rcases List.mem_cons.mp h with rfl | hrest
      · exact .inr List.mem_cons_self
      · exact (ih hrest).imp_right (List.mem_cons_of_mem _)

/-- Of two bindings of one key, the later one counts. -/
theorem insert_insert (key : α) (value value' : β) (t : Table α β) :
    insert key value' (insert key value t) = insert key value' t := by
  induction t with
  | nil => exact if_pos rfl
  | cons e rest ih =>
    obtain ⟨k, v⟩ := e
    by_cases heq : k = key
    · rw [insert, insert, if_pos heq, if_pos heq, insert, if_pos rfl]
    by_cases hlt : key < k
    · rw [insert, insert, if_neg heq, if_neg heq, if_pos hlt, if_pos hlt, insert, if_pos rfl]
    · rw [insert, insert, if_neg heq, if_neg heq, if_neg hlt, if_neg hlt, insert, if_neg heq,
        if_neg hlt, ih]

variable [Trans (fun a b : α ↦ a < b) (fun a b ↦ a < b) (fun a b ↦ a < b)]
  [Std.Trichotomous fun a b : α ↦ a < b]

/-- Binding a key keeps a table sorted. -/
theorem IsSorted.insert {t : Table α β} (h : t.IsSorted) (key : α) (value : β) :
    (t.insert key value).IsSorted := by
  induction t with
  | nil => exact List.pairwise_singleton _ _
  | cons e rest ih =>
    obtain ⟨k, v⟩ := e
    obtain ⟨hfirst, hrest⟩ := List.pairwise_cons.mp h
    rw [Table.insert]
    split
    · next heq => exact List.pairwise_cons.mpr ⟨heq ▸ hfirst, hrest⟩
    split
    · next hlt =>
      refine List.pairwise_cons.mpr ⟨fun e' he' ↦ ?_, h⟩
      rcases List.mem_cons.mp he' with rfl | hmem
      · exact hlt
      · exact Std.lt_trans hlt (hfirst e' hmem)
    · next hne hnlt =>
      refine List.pairwise_cons.mpr ⟨fun e' he' ↦ ?_, ih hrest⟩
      rcases eq_or_mem_of_mem_insert he' with rfl | hmem
      · rcases Std.lt_trichotomy k key with hlt | heq | hgt
        · exact hlt
        · exact absurd heq hne
        · exact absurd hgt hnlt
      · exact hfirst e' hmem

end Insert

variable [Trans (fun a b : α ↦ a < b) (fun a b ↦ a < b) (fun a b ↦ a < b)]
  [Std.Irrefl fun a b : α ↦ a < b]

/-- A sorted table is what looking up ascending keys gives, among which are all of its own. -/
theorem IsSorted.eq_filterMap {t : Table α β} {keys : List α} (h : t.IsSorted)
    (hkeys : keys.Pairwise (· < ·)) (hmem : ∀ e ∈ t, e.1 ∈ keys) :
    t = keys.filterMap fun k ↦ (get? k t).map (k, ·) := by
  induction keys generalizing t with
  | nil => exact List.eq_nil_iff_forall_not_mem.mpr fun e he ↦ List.not_mem_nil (hmem e he)
  | cons key keys ih =>
    obtain ⟨hfirst, hkeys⟩ := List.pairwise_cons.mp hkeys
    have hne : ∀ k ∈ keys, key ≠ k := fun k hk heq ↦ Std.lt_irrefl (heq ▸ hfirst k hk)
    by_cases hbound : ∃ value rest, t = (key, value) :: rest
    · obtain ⟨value, rest, rfl⟩ := hbound
      obtain ⟨hbehind, hrest⟩ := List.pairwise_cons.mp h
      have hother : ∀ e ∈ rest, e.1 ∈ keys := fun e he ↦
        (List.mem_cons.mp (hmem e (List.mem_cons_of_mem _ he))).resolve_left fun heq ↦
          Std.lt_irrefl (heq ▸ hbehind e he)
      -- the other keys are looked up behind the first binding
      have hlater : (keys.filterMap fun k ↦ (get? k ((key, value) :: rest)).map (k, ·))
          = keys.filterMap fun k ↦ (get? k rest).map (k, ·) :=
        List.filterMap_congr fun k hk ↦ by rw [get?, if_neg (hne k hk)]
      rw [List.filterMap_cons, get?, if_pos rfl, hlater, ← ih hrest hkeys hother]
      rfl
    · have hother : ∀ e ∈ t, e.1 ≠ key := by
        rintro e he rfl
        cases t with
        | nil => exact List.not_mem_nil he
        | cons e' rest =>
          rcases List.mem_cons.mp he with rfl | hrest
          · exact hbound ⟨e.2, rest, rfl⟩
          · -- the first binding would have a key in front of all that are looked up
            have hlt := (List.pairwise_cons.mp h).1 e hrest
            rcases List.mem_cons.mp (hmem e' List.mem_cons_self) with heq | hkey
            · exact Std.lt_irrefl (heq ▸ hlt)
            · exact Std.lt_irrefl (Std.lt_trans hlt (hfirst e'.1 hkey))
      rw [List.filterMap_cons, get?_of_forall_ne hother]
      exact ih h hkeys fun e he ↦ (List.mem_cons.mp (hmem e he)).resolve_left (hother e he)

end LineEditor.Table
