/-! Sorting that keeps equal entries in the order they came in. -/

namespace Waymark.Order
variable {α : Type}

/-- Puts `x` before the first entry that it does not come after. -/
def insert (le : α → α → Bool) (x : α) : List α → List α
  | [] => [x]
  | y :: ys => if le x y then x :: y :: ys else y :: insert le x ys

/-- Entries that are equal under `le` stay in order, since each one is put in before the
later ones. -/
def sort (le : α → α → Bool) (xs : List α) : List α := xs.foldr (insert le) []

variable {le : α → α → Bool} {x : α} {xs : List α}

@[simp] theorem sort_nil : sort le [] = [] := rfl

@[simp] theorem sort_cons : sort le (x :: xs) = insert le x (sort le xs) := rfl

theorem insert_perm : (insert le x xs).Perm (x :: xs) := by
  induction xs with
  | nil => exact .refl _
  | cons y ys ih =>
    unfold insert
    split
    · exact .refl _
    · exact (ih.cons y).trans (.swap x y ys)

theorem sort_perm : (sort le xs).Perm xs := by
  induction xs with
  | nil => exact .refl _
  | cons x xs ih => exact insert_perm.trans (ih.cons x)

@[simp] theorem length_sort : (sort le xs).length = xs.length := sort_perm.length_eq

end Waymark.Order
