import Waymark.Order

/-! What sorting gives: an ordered list in which entries that tie stand as they came in, and the
only ordered list there is where no two entries tie. -/

namespace Waymark.Order
variable {α β : Type} {le : α → α → Bool} {x : α} {xs ys : List α}

theorem mem_insert {y : α} : y ∈ insert le x xs ↔ y = x ∨ y ∈ xs := by
  rw [insert_perm.mem_iff, List.mem_cons]

theorem mem_sort {y : α} : y ∈ sort le xs ↔ y ∈ xs := sort_perm.mem_iff

section
variable {r : α → α → Prop}

theorem pairwise_insert (total : ∀ a b, le a b ∨ le b a)
    (trans : ∀ a b c, le a b → le b c → le a c) (hx : ∀ y ∈ xs, r x y)
    (h : xs.Pairwise fun a b => le a b ∧ (le b a → r a b)) :
    (insert le x xs).Pairwise fun a b => le a b ∧ (le b a → r a b) := by
  induction xs with
  | nil => simp [insert]
  | cons y ys ih =>
    obtain ⟨hy, hys⟩ := List.pairwise_cons.mp h
    unfold insert
    split
    · next hxy =>
      refine List.pairwise_cons.mpr ⟨?_, h⟩
      intro z hz
      refine ⟨?_, fun _ => hx z hz⟩
      rcases List.mem_cons.mp hz with rfl | hz
      · exact hxy
      · exact trans x y z hxy (hy z hz).1
    · next hxy =>
      refine List.pairwise_cons.mpr ⟨?_, ih (fun z hz => hx z (List.mem_cons_of_mem y hz)) hys⟩
      intro z hz
      rcases mem_insert.mp hz with rfl | hz
      · exact ⟨(total z y).resolve_left hxy, fun hzy => absurd hzy hxy⟩
      · exact hy z hz

/-- Entries that tie stand as they came in. -/
theorem pairwise_sort_of_pairwise (total : ∀ a b, le a b ∨ le b a)
    (trans : ∀ a b c, le a b → le b c → le a c) (h : xs.Pairwise r) :
    (sort le xs).Pairwise fun a b => le a b ∧ (le b a → r a b) := by
  induction xs with
  | nil => exact .nil
  | cons x xs ih =>
    obtain ⟨hx, hxs⟩ := List.pairwise_cons.mp h
    exact pairwise_insert total trans (fun y hy => hx y (mem_sort.mp hy)) (ih hxs)

end

theorem pairwise_sort (total : ∀ a b, le a b ∨ le b a)
    (trans : ∀ a b c, le a b → le b c → le a c) : (sort le xs).Pairwise (le · ·) := by
  have hall : xs.Pairwise fun _ _ => True := List.pairwise_of_forall fun _ _ => trivial
  exact (pairwise_sort_of_pairwise total trans hall).imp And.left

section
variable {p : α → Bool}

theorem filter_insert_of_not (h : ¬ p x) : (insert le x xs).filter p = xs.filter p := by
  induction xs with
  | nil => simp [insert, h]
  | cons y ys ih =>
    unfold insert
    split
    · simp [h]
    · rw [List.filter_cons, List.filter_cons, ih]

theorem filter_insert (h : p x) (tie : ∀ y ∈ xs, p y → le x y) :
    (insert le x xs).filter p = x :: xs.filter p := by
  induction xs with
  | nil => simp [insert, h]
  | cons y ys ih =>
    unfold insert
    split
    · simp [h]
    · next hxy =>
      have hy : ¬ p y := fun hy => hxy (tie y (by simp) hy)
      rw [List.filter_cons_of_neg hy, List.filter_cons_of_neg hy,
        ih fun z hz => tie z (List.mem_cons_of_mem y hz)]

/-- Sorting does not move entries that tie past each other. -/
theorem filter_sort (tie : ∀ a b, p a → p b → le a b) : (sort le xs).filter p = xs.filter p := by
  induction xs with
  | nil => rfl
  | cons x xs ih =>
    rw [sort_cons]
    by_cases hx : p x
    · rw [filter_insert hx fun y _ hy => tie x y hx hy, ih, List.filter_cons_of_pos hx]
    · rw [filter_insert_of_not hx, ih, List.filter_cons_of_neg hx]

end

theorem sort_eq_self (h : xs.Pairwise (le · ·)) : sort le xs = xs := by
  induction xs with
  | nil => rfl
  | cons x xs ih =>
    obtain ⟨hx, hxs⟩ := List.pairwise_cons.mp h
    rw [sort_cons, ih hxs]
    cases xs with
    | nil => rfl
    | cons y ys => rw [insert, if_pos (hx y (by simp))]

/-- Where entries that tie are equal, an ordered list has no rival. -/
theorem sort_eq_of_perm (total : ∀ a b, le a b ∨ le b a)
    (trans : ∀ a b c, le a b → le b c → le a c) (hp : ys.Perm xs)
    (hs : ys.Pairwise (le · ·)) (tie : ∀ a ∈ ys, ∀ b ∈ ys, le a b → le b a → a = b) :
    sort le xs = ys := by
  have hperm : (sort le xs).Perm ys := sort_perm.trans hp.symm
  apply hperm.eq_of_pairwise ?_ (pairwise_sort total trans) hs
  intro a b ha hb
  exact tie a (hperm.mem_iff.mp ha) b hb

variable {leβ : β → β → Bool} {f : α → β}

theorem map_insert (h : ∀ a b, leβ (f a) (f b) = le a b) :
    (insert le x xs).map f = insert leβ (f x) (xs.map f) := by
  induction xs with
  | nil => rfl
  | cons y ys ih =>
    simp only [insert, List.map_cons, h]
    split <;> simp [ih]

/-- Sorting looks at nothing but the order. -/
theorem map_sort (h : ∀ a b, leβ (f a) (f b) = le a b) :
    (sort le xs).map f = sort leβ (xs.map f) := by
  induction xs with
  | nil => rfl
  | cons x xs ih => rw [sort_cons, map_insert h, ih, List.map_cons, sort_cons]

end Waymark.Order
