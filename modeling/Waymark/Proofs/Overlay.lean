import Mathlib.Data.String.Basic
import Waymark.Table

/-! Overlaid tables. Their keys stand in order, each of them once, and under a key the latest entry
is found. -/

namespace Waymark.Table
variable {α : Type} {t base top : Table α} {k : String} {a : α} {e : String × α}

/-- The keys stand in their order, each of them once. -/
def Sorted (t : Table α) : Prop := t.Pairwise fun e f => e.1 < f.1

theorem mem_insert (h : e ∈ insert k a t) : e = (k, a) ∨ e ∈ t := by
  induction t with
  | nil => exact .inl (List.mem_singleton.mp h)
  | cons f t ih =>
    rw [insert.eq_def] at h
    dsimp only at h
    split at h
    · exact List.mem_cons.mp h
    · split at h
      · exact (List.mem_cons.mp h).imp_right (List.mem_cons_of_mem f)
      · obtain rfl | hmem := List.mem_cons.mp h
        · exact .inr List.mem_cons_self
        · exact (ih hmem).imp_right (List.mem_cons_of_mem f)

theorem sorted_insert (h : t.Sorted) : (insert k a t).Sorted := by
  induction t with
  | nil => exact List.pairwise_singleton _ _
  | cons f t ih =>
    obtain ⟨hf, ht⟩ := List.pairwise_cons.mp h
    rw [insert.eq_def]
    dsimp only
    split
    · next hlt =>
      refine List.pairwise_cons.mpr ⟨fun e he => ?_, h⟩
      obtain rfl | he := List.mem_cons.mp he
      · exact hlt
      · exact hlt.trans (hf e he)
    · next hlt =>
      split
      · next heq =>
        subst heq
        exact List.pairwise_cons.mpr ⟨hf, ht⟩
      · next hne =>
        refine List.pairwise_cons.mpr ⟨fun e he => ?_, ih ht⟩
        obtain rfl | he := mem_insert he
        · exact lt_of_le_of_ne (not_lt.mp hlt) (Ne.symm hne)
        · exact hf e he

theorem sorted_overlay (h : base.Sorted) : (overlay base top).Sorted := by
  induction top generalizing base with
  | nil => exact h
  | cons e top ih => exact ih (sorted_insert h)

theorem get?_eq_some_iff (h : t.Sorted) : t.get? k = some a ↔ (k, a) ∈ t := by
  induction t with
  | nil => simp
  | cons f t ih =>
    obtain ⟨l, b⟩ := f
    obtain ⟨hf, ht⟩ := List.pairwise_cons.mp h
    rw [get?]
    split
    · next heq =>
      subst heq
      have hnot : (k, a) ∉ t := fun hmem => lt_irrefl k (hf _ hmem)
      simp [hnot, eq_comm]
    · next hne => simp [ih ht, hne]

/-- What is on top goes before what is below. -/
theorem get?_overlay (base top : Table α) :
    (overlay base top).get? k = ((overlay [] top).get? k).or (base.get? k) := by
  induction top generalizing base with
  | nil => rfl
  | cons e top ih =>
    have hbase : (overlay base (e :: top)).get? k = _ := ih (insert e.1 e.2 base)
    have hnil : (overlay [] (e :: top)).get? k = _ := ih (insert e.1 e.2 [])
    rw [hbase, hnil, get?_insert, get?_insert, Option.or_assoc]
    split <;> rfl

theorem get?_overlay_of_notMem (h : k ∉ top.map Prod.fst) :
    (overlay base top).get? k = base.get? k := by
  induction top generalizing base with
  | nil => rfl
  | cons e top ih =>
    obtain ⟨hne, hk⟩ := not_or.mp (mt List.mem_cons.mpr h)
    exact (ih hk).trans (get?_insert_of_ne hne)

theorem get?_overlay_of_mem (hk : (top.map Prod.fst).Nodup) (h : (k, a) ∈ top) :
    (overlay base top).get? k = some a := by
  induction top generalizing base with
  | nil => exact absurd h List.not_mem_nil
  | cons e top ih =>
    obtain ⟨he, hk⟩ := List.nodup_cons.mp hk
    obtain rfl | h := List.mem_cons.mp h
    · exact (get?_overlay_of_notMem he).trans get?_insert_self
    · exact ih hk h

theorem get?_filter_ne {l : String} (h : k ≠ l) :
    Table.get? (t.filter fun e => e.1 != l) k = t.get? k := by
  induction t with
  | nil => rfl
  | cons e t ih =>
    obtain ⟨m, a⟩ := e
    by_cases hm : m = l
    · subst hm
      simp [get?, ih, h]
    · have hkept : ((m, a).1 != l) = true := by simpa using hm
      simp [hkept, get?, ih]

end Waymark.Table
