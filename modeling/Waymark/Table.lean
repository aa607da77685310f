/-! Tables: entries under strings, in the order of the strings and each string once. -/

namespace Waymark

/-- Entries under keys. -/
abbrev Table (α : Type) := List (String × α)

namespace Table
variable {α : Type} {t : Table α} {k l : String} {a : α}

/-- The first entry under a key. -/
def get? : (t : Table α) → (key : String) → Option α
  | [], _ => none
  | (k, a) :: rest, key => if key = k then some a else get? rest key

/-- The table with an entry under `key`, in place of the one there if there is one. -/
def insert (key : String) (a : α) : Table α → Table α
  | [] => [(key, a)]
  | (k, b) :: rest =>
    if key < k then (key, a) :: (k, b) :: rest
    else if key = k then (key, a) :: rest
    else (k, b) :: insert key a rest

/-- The table without the entry under a key. -/
def erase (key : String) : Table α → Table α
  | [] => []
  | (k, b) :: rest => if k = key then erase key rest else (k, b) :: erase key rest

/-- The entries of `base` overlaid with those of `top`, the later ones winning. -/
def overlay (base top : List (String × α)) : Table α :=
  top.foldl (fun t e => insert e.1 e.2 t) base

@[simp] theorem get?_nil : get? ([] : Table α) l = none := rfl

theorem get?_insert : (insert k a t).get? l = if l = k then some a else t.get? l := by
  induction t with
  | nil => simp [insert, get?]
  | cons e t ih =>
    obtain ⟨m, b⟩ := e
    unfold insert
    split
    · simp [get?]
    · split
      · next h => subst h; simp only [get?]; split <;> rfl
      · next h =>
        simp only [get?, ih]
        by_cases hm : l = m
        · subst hm; simp [Ne.symm h]
        · simp [hm]

@[simp] theorem get?_insert_self : (insert k a t).get? k = some a := by simp [get?_insert]

theorem get?_insert_of_ne (h : l ≠ k) : (insert k a t).get? l = t.get? l := by
  simp [get?_insert, h]

theorem get?_erase : (erase k t).get? l = if l = k then none else t.get? l := by
  induction t with
  | nil => simp [erase]
  | cons e t ih =>
    obtain ⟨m, b⟩ := e
    unfold erase
    split
    · next h =>
      subst h
      simp only [ih, get?]
      split <;> rfl
    · next h =>
      simp only [get?, ih]
      by_cases hm : l = m
      · subst hm; simp [h]
      · simp [hm]

@[simp] theorem get?_erase_self : (erase k t).get? k = none := by simp [get?_erase]

end Table

end Waymark
