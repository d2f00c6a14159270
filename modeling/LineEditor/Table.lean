/-!
# Ordered tables

A table binds keys to values and lists its bindings in the order of the keys. It backs everything
that is looked up by name and shown in order: letter registers, marks and stored files.
-/

namespace LineEditor

/-- Bindings of keys to values, in the order of the keys. -/
abbrev Table (α β : Type) := List (α × β)

namespace Table

variable {α β : Type} [DecidableEq α]

/-- The value bound to a key. -/
def get? (key : α) : Table α β → Option β
  | [] => none
  | (k, v) :: rest => if k = key then some v else get? key rest

/-- The table with a key bound to a value, in place of an earlier value. -/
def insert [LT α] [DecidableLT α] (key : α) (value : β) : Table α β → Table α β
  | [] => [(key, value)]
  | (k, v) :: rest =>
    if k = key then (key, value) :: rest
    else if key < k then (key, value) :: (k, v) :: rest
    else (k, v) :: insert key value rest

/-- The table without a key. -/
def erase (key : α) (t : Table α β) : Table α β := t.filter fun entry ↦ entry.1 ≠ key

/-- Reading after a binding: the new value under its key, the old table elsewhere. -/
theorem get?_insert [LT α] [DecidableLT α] (key other : α) (value : β) (t : Table α β) :
    get? other (insert key value t) = if key = other then some value else get? other t := by
  induction t with
  | nil => simp [insert, get?]
  | cons entry rest ih =>
    obtain ⟨k, v⟩ := entry
    simp only [insert]
    split
    · next h => subst h; simp only [get?]; split <;> rfl
    · split
      · simp [get?]
      · simp only [get?, ih]
        split
        · next h => subst h; rw [if_neg]; rintro rfl; contradiction
        · rfl

theorem get?_erase (key other : α) (t : Table α β) :
    get? other (erase key t) = if key = other then none else get? other t := by
  induction t with
  | nil => simp [erase, get?]
  | cons entry rest ih =>
    obtain ⟨k, v⟩ := entry
    unfold erase at *
    by_cases hk : k = key
    · subst hk
      rw [List.filter_cons_of_neg (by simp), ih, get?]
      split <;> simp_all
    · rw [List.filter_cons_of_pos (by simpa using hk), get?, ih, get?]
      by_cases h : key = other
      · rw [if_pos h, if_pos h, if_neg (by rw [← h]; exact hk)]
      · rw [if_neg h, if_neg h]

end Table

end LineEditor
