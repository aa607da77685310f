import Waymark.Proofs.Marker.Layout

/-! How far a range is from its origin: by as many columns as the board counts anchors before it on
the line. -/

namespace Waymark

/-- The position is on the line of `q` and before it. -/
def Position.LeftOf (p q : Position) : Prop := p.line = q.line ∧ p.character < q.character

instance (p q : Position) : Decidable (p.LeftOf q) :=
  inferInstanceAs (Decidable (p.line = q.line ∧ p.character < q.character))

/-- The range over an anchor that stands `n` columns behind a position. -/
def Range.behind (p : Position) (n : Nat) : Range :=
  ⟨⟨p.line, p.character + n⟩, ⟨p.line, p.character + n + 1⟩⟩

namespace Board
variable {ms : List Marker} {m : Marker} {slot : Nat} {front back : List (Marker × Nat)}

/-- The walk along the markers counts those of a line that come first. It has them all together,
as the lines are in order. -/
theorem mem_shiftFrom (line : Option Nat) (count : Nat)
    (hline : ∀ l ∈ line, ∀ e ∈ front ++ (m, slot) :: back, l ≤ e.1.origin.line)
    (horder : (front ++ (m, slot) :: back).Pairwise fun a b => a.1.origin.line ≤ b.1.origin.line) :
    (slot, Range.behind m.origin ((if line = some m.origin.line then count else 0) +
      front.countP (·.1.origin.line = m.origin.line))) ∈
        shiftFrom line count (front ++ (m, slot) :: back) := by
  induction front generalizing line count with
  | nil => exact List.mem_cons_self
  | cons e front ih =>
    obtain ⟨first, slot'⟩ := e
    obtain ⟨hfirst, htail⟩ := List.pairwise_cons.mp horder
    have hlines : ∀ l ∈ some first.origin.line, ∀ e ∈ front ++ (m, slot) :: back,
        l ≤ e.1.origin.line := by
      intro l hl e he
      obtain rfl := Option.mem_some.mp hl
      exact hfirst e he
    have hrest := ih (some first.origin.line)
      ((if line = some first.origin.line then count else 0) + 1) hlines htail
    refine List.mem_cons_of_mem _ ?_
    rw [List.countP_cons]
    by_cases hsame : first.origin.line = m.origin.line
    · rw [hsame] at hrest
      have hsum : (if line = some m.origin.line then count else 0) +
          (front.countP (·.1.origin.line = m.origin.line) + 1) =
          (if line = some m.origin.line then count else 0) + 1 +
          front.countP (·.1.origin.line = m.origin.line) := by omega
      simpa [hsame, hsum] using hrest
    · have hnone : line ≠ some m.origin.line := by
        intro heq
        have hle := hline _ heq _ List.mem_cons_self
        have hge := hfirst (m, slot) (by simp)
        dsimp only at hle hge
        omega
      simpa [hsame, hnone] using hrest

section
variable (hsort : Order.sort comesFirst ms.zipIdx = front ++ (m, slot) :: back)
include hsort

theorem mem_anchorRanges : (slot, Range.behind m.origin
    (front.countP (·.1.origin.line = m.origin.line))) ∈ anchorRanges ms := by
  have horder : (front ++ (m, slot) :: back).Pairwise
      fun a b => a.1.origin.line ≤ b.1.origin.line := by
    rw [← hsort]
    refine (Order.pairwise_sort comesFirst_total comesFirst_trans).imp ?_
    intro a b hab
    rcases comesFirst_iff.mp hab with hlt | ⟨heq, -⟩
    · rw [Position.lt_def] at hlt
      omega
    · exact Nat.le_of_eq (congrArg Position.line heq)
  have hmem := mem_shiftFrom none 0 (by simp) horder
  rw [anchorRanges, hsort]
  simpa using hmem

theorem mem_of_mem_sort {e : Marker × Nat} (he : e ∈ front ++ (m, slot) :: back) : e.1 ∈ ms := by
  rw [← hsort, Order.mem_sort] at he
  exact List.mem_of_getElem? (List.mk_mem_zipIdx_iff_getElem?.mp he)

/-- The markers that come first on the line are at the same place or to the left. -/
theorem origin_of_mem_front {e : Marker × Nat} (he : e ∈ front)
    (hline : e.1.origin.line = m.origin.line) :
    e.1.origin.LeftOf m.origin ∨ e.1.origin = m.origin := by
  have hpairs : (Order.sort comesFirst ms.zipIdx).Pairwise (comesFirst · ·) :=
    Order.pairwise_sort comesFirst_total comesFirst_trans
  rw [hsort] at hpairs
  have hfirst := (List.pairwise_append.mp hpairs).2.2 e he (m, slot) List.mem_cons_self
  rcases comesFirst_iff.mp hfirst with hlt | ⟨heq, -⟩
  · have hless := Position.lt_def.mp hlt
    dsimp only at hless
    exact .inl ⟨hline, by omega⟩
  · exact .inr heq

theorem countP_front_le (p : Marker → Bool) :
    front.countP (fun e => p e.1) + (if p m then 1 else 0) ≤ ms.countP p := by
  have hall : ms.countP p = (front ++ (m, slot) :: back).countP fun e => p e.1 := by
    calc ms.countP p
      _ = (ms.zipIdx.map (·.1)).countP p := by rw [List.zipIdx_map_fst]
      _ = ms.zipIdx.countP fun e => p e.1 := by
        rw [List.countP_map]
        rfl
      _ = _ := by rw [← hsort, Order.sort_perm.countP_eq]
  rw [hall, List.countP_append, List.countP_cons]
  dsimp only
  omega

end

theorem mem_front_of_sort (h : ms[slot]? = some m) :
    ∃ front back, Order.sort comesFirst ms.zipIdx = front ++ (m, slot) :: back := by
  have hmem : (m, slot) ∈ Order.sort comesFirst ms.zipIdx := by
    rw [Order.mem_sort, List.mk_mem_zipIdx_iff_getElem?]
    exact h
  exact List.append_of_mem hmem

/-- Where nothing is to the left of a place on its line, the ranges of its markers follow on one
another from the place itself. -/
theorem range_of_leftmost (hm : m ∈ layOut true ms)
    (hleft : ∀ m' ∈ ms, ¬ m'.origin.LeftOf m.origin) :
    ∃ j < ms.countP (·.origin = m.origin), m.range = Range.behind m.origin j := by
  obtain ⟨slot, hslot⟩ := List.mem_iff_getElem?.mp hm
  obtain ⟨m', hm', hrange, horigin⟩ := exists_of_getElem?_layOut hslot
  obtain ⟨front, back, hsort⟩ := mem_front_of_sort hm'
  have hbehind := getElem?_layOut_true hm' (mem_anchorRanges hsort)
  rw [hslot, Option.some.injEq] at hbehind
  refine ⟨front.countP (·.1.origin.line = m'.origin.line), ?_, by rw [hbehind]⟩
  have hfront : front.countP (·.1.origin.line = m'.origin.line) ≤
      front.countP (fun e => decide (e.1.origin = m.origin)) := by
    refine List.countP_mono_left fun e he hline => ?_
    have hline : e.1.origin.line = m'.origin.line := by simpa using hline
    rcases origin_of_mem_front hsort he hline with hless | heq
    · rw [← horigin] at hless
      exact absurd hless (hleft e.1 (mem_of_mem_sort hsort (List.mem_append_left _ he)))
    · simpa [horigin] using heq
  have hall := countP_front_le hsort fun e => decide (e.origin = m.origin)
  rw [if_pos (by simp [horigin])] at hall
  omega

/-- Of the markers at one place, the first has no more columns before its anchor than there are
markers to the left. -/
theorem exists_range_of_first (hm : m ∈ ms) :
    ∃ m' ∈ layOut true ms, m'.origin = m.origin ∧
      ∃ j ≤ ms.countP (·.origin.LeftOf m.origin), m'.range = Range.behind m.origin j := by
  -- The first in the order of the walk is not the first on the board.
  have hsome : ((Order.sort comesFirst ms.zipIdx).find? (·.1.origin = m.origin)).isSome = true := by
    obtain ⟨slot, hslot⟩ := List.mem_iff_getElem?.mp hm
    rw [List.find?_isSome]
    refine ⟨(m, slot), ?_, by simp⟩
    rw [Order.mem_sort, List.mk_mem_zipIdx_iff_getElem?]
    exact hslot
  obtain ⟨⟨first, slot⟩, hfind⟩ := Option.isSome_iff_exists.mp hsome
  obtain ⟨horigin, front, back, hsort, hnone⟩ := List.find?_eq_some_iff_append.mp hfind
  have horigin : first.origin = m.origin := by simpa using horigin
  have hfirst : ms[slot]? = some first := by
    have hmem : (first, slot) ∈ front ++ (first, slot) :: back := by simp
    rwa [← hsort, Order.mem_sort, List.mk_mem_zipIdx_iff_getElem?] at hmem
  have hlaid := getElem?_layOut_true hfirst (mem_anchorRanges hsort)
  refine ⟨_, List.mem_of_getElem? hlaid, horigin, _, ?_, by rw [horigin]⟩
  have hfront : front.countP (·.1.origin.line = first.origin.line) ≤
      front.countP (fun e => decide (e.1.origin.LeftOf m.origin)) := by
    refine List.countP_mono_left fun e he hline => ?_
    have hline : e.1.origin.line = first.origin.line := by simpa using hline
    rcases origin_of_mem_front hsort he hline with hless | heq
    · rw [horigin] at hless
      exact decide_eq_true hless
    · have hne := hnone e he
      simp [heq, horigin] at hne
  have hall := countP_front_le hsort fun e => decide (e.origin.LeftOf m.origin)
  rw [horigin] at hfront
  omega

end Board

end Waymark
