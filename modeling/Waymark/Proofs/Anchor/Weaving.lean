import Waymark.Anchor.Edit
import Waymark.Proofs.Order

/-! Weaving splices into a text: they can be woven if none starts before the ones ahead of it have
stopped, so only in order, and inserts leave all of the text in place. -/

namespace Waymark.Splice
open scoped List
variable {s a b c : Splice} {ss : List Splice} {cursor : Nat} {rest out tail : Text}

theorem le_iff : Splice.le a b ↔ a.start < b.start ∨ a.start = b.start ∧ a.stop ≤ b.stop := by
  simp [Splice.le]

theorem le_total (a b : Splice) : Splice.le a b ∨ Splice.le b a := by
  simp only [le_iff]
  omega

theorem le_trans (a b c : Splice) (h : Splice.le a b) (h' : Splice.le b c) : Splice.le a c := by
  simp only [le_iff] at *
  omega

theorem weave_cons_eq_some : weave cursor rest (s :: ss) = some out ↔
    cursor ≤ s.start ∧ ∃ tail, weave s.stop (rest.drop (s.stop - cursor)) ss = some tail ∧
      rest.take (s.start - cursor) ++ s.text ++ tail = out := by
  rw [weave]
  split
  · next h => simp [Nat.not_le.mpr h]
  · next h => simp [Nat.not_lt.mp h]

/-- Splices can be woven just if each starts where the ones ahead of it have stopped, or later. -/
theorem exists_weave_iff : (∃ out, weave cursor rest ss = some out) ↔
    (∀ s ∈ ss, cursor ≤ s.start) ∧ ss.Pairwise fun a b => a.stop ≤ b.start := by
  induction ss generalizing cursor rest with
  | nil => simp [weave]
  | cons s ss ih =>
    have hle := s.start_le_stop
    constructor
    · rintro ⟨out, h⟩
      obtain ⟨hs, tail, ht, -⟩ := weave_cons_eq_some.mp h
      obtain ⟨hstarts, hpairs⟩ := ih.mp ⟨tail, ht⟩
      refine ⟨?_, List.pairwise_cons.mpr ⟨hstarts, hpairs⟩⟩
      intro a ha
      rcases List.mem_cons.mp ha with rfl | ha
      · exact hs
      · have := hstarts a ha
        omega
    · rintro ⟨hcursor, hpairs⟩
      obtain ⟨hstarts, hpairs⟩ := List.pairwise_cons.mp hpairs
      obtain ⟨tail, ht⟩ : ∃ tail, weave s.stop (rest.drop (s.stop - cursor)) ss = some tail :=
        ih.mpr ⟨hstarts, hpairs⟩
      exact ⟨_, weave_cons_eq_some.mpr ⟨hcursor s (by simp), tail, ht, rfl⟩⟩

/-- Splices that can be woven in turn are in order. -/
theorem pairwise_of_weave (h : weave cursor rest ss = some out) :
    (∀ s ∈ ss, cursor ≤ s.start) ∧ ss.Pairwise (Splice.le · ·) := by
  obtain ⟨hstarts, hpairs⟩ := exists_weave_iff.mp ⟨out, h⟩
  refine ⟨hstarts, hpairs.imp fun {a b} hab => ?_⟩
  have := a.start_le_stop
  have := b.start_le_stop
  rw [le_iff]
  omega

theorem sort_of_weave (h : weave cursor rest ss = some out) : Order.sort Splice.le ss = ss :=
  Order.sort_eq_self (pairwise_of_weave h).2

/-- Inserts of what `p` does not keep are not seen through `p`. -/
theorem filter_weave {p : Char → Bool} (h : weave cursor rest ss = some out)
    (hins : ∀ s ∈ ss, s.stop = s.start ∧ s.text.filter p = []) : out.filter p = rest.filter p := by
  induction ss generalizing cursor rest out with
  | nil => simp_all [weave]
  | cons s ss ih =>
    obtain ⟨hs, tail, ht, rfl⟩ := weave_cons_eq_some.mp h
    obtain ⟨hstop, htext⟩ := hins s (by simp)
    have htail := ih ht (fun a ha => hins a (by simp [ha]))
    rw [List.filter_append, List.filter_append, htext, htail, hstop, List.append_nil,
      ← List.filter_append, List.take_append_drop]

/-- Inserts add their texts and take nothing away. -/
theorem weave_perm (h : weave cursor rest ss = some out)
    (hins : ∀ s ∈ ss, s.stop = s.start) : out.Perm (ss.flatMap (·.text) ++ rest) := by
  induction ss generalizing cursor rest out with
  | nil => simp_all [weave]
  | cons s ss ih =>
    obtain ⟨hs, tail, ht, rfl⟩ := weave_cons_eq_some.mp h
    have htail := ih ht (fun a ha => hins a (by simp [ha]))
    rw [hins s (by simp)] at htail
    calc rest.take (s.start - cursor) ++ s.text ++ tail
      _ ~ s.text ++ rest.take (s.start - cursor) ++ tail := List.perm_append_comm.append_right _
      _ ~ s.text ++ rest.take (s.start - cursor) ++
            (ss.flatMap (·.text) ++ rest.drop (s.start - cursor)) := htail.append_left _
      _ ~ s.text ++ (ss.flatMap (·.text) ++
            (rest.take (s.start - cursor) ++ rest.drop (s.start - cursor))) := by
        simp only [List.append_assoc]
        exact .append_left _ (List.perm_append_comm_assoc ..)
      _ = (s :: ss).flatMap (·.text) ++ rest := by simp

end Waymark.Splice
