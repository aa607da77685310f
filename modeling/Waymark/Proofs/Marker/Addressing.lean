import Waymark.Proofs.Marker.Lookup

/-! Anchored markers do not hide one another: each has a range to itself, and is the one that is
found there. -/

namespace Waymark

/-- A position is in a range if it does not come before it and is before its end. -/
def Range.Covers (r : Range) (p : Position) : Prop := ¬ p < r.start ∧ p < r.stop

namespace Board
variable {b : Board} {ms : List Marker} {m m' : Marker} {i j : Nat}

/-- Along a line, each marker counts those that the markers before it count, and these. -/
theorem countBefore_lt (h : ms[i]? = some m) (hline : m.origin.line = m'.origin.line)
    (hprecedes : Precedes (m, i) (m', j)) : countBefore ms m i < countBefore ms m' j := by
  obtain ⟨front, back, hsplit⟩ := List.append_of_mem (List.mk_mem_zipIdx_iff_getElem?.mpr h)
  have hmono : ∀ entries : List (Marker × Nat),
      entries.countP (fun e => e.1.origin.line = m.origin.line ∧ Precedes e (m, i)) ≤
        entries.countP fun e => e.1.origin.line = m'.origin.line ∧ Precedes e (m', j) := by
    intro entries
    refine List.countP_mono_left fun e _ he => ?_
    obtain ⟨hsame, hbefore⟩ := of_decide_eq_true he
    exact decide_eq_true ⟨hsame.trans hline, hbefore.trans hprecedes⟩
  have hfront := hmono front
  have hback := hmono back
  have hself : ¬ Precedes (m, i) (m, i) := fun hself => hself.asymm hself
  rw [countBefore, countBefore, hsplit, List.countP_append, List.countP_append,
    List.countP_cons_of_neg (by simp [hself]), List.countP_cons_of_pos (by simp [hline, hprecedes])]
  omega

namespace LaidOut
variable (h : LaidOut b) (hanchored : b.anchored = true)
include h hanchored

theorem range_eq (hm : b.markers[i]? = some m) :
    m.range = Range.behind m.origin (countBefore b.markers m i) := by
  rw [h i m hm, rangeOf, if_pos hanchored]

/-- On one line, the range of a marker stops where those of the markers behind it start, or before
that. -/
theorem stop_le_start (hm : b.markers[i]? = some m) (hm' : b.markers[j]? = some m')
    (hline : m.origin.line = m'.origin.line) (hprecedes : Precedes (m, i) (m', j)) :
    m.range.stop.character ≤ m'.range.start.character := by
  have hcount := countBefore_lt hm hline hprecedes
  have hcharacter : m.origin.character ≤ m'.origin.character := by
    simp only [Precedes, Position.lt_def, Position.ext_iff] at hprecedes
    omega
  rw [h.range_eq hanchored hm, h.range_eq hanchored hm']
  dsimp only [Range.behind]
  omega

theorem not_covers_both (hm : b.markers[i]? = some m) (hm' : b.markers[j]? = some m') (hij : i ≠ j)
    (p : Position) : ¬ (m.range.Covers p ∧ m'.range.Covers p) := by
  have hr := h.range_eq hanchored hm
  have hr' := h.range_eq hanchored hm'
  rintro ⟨⟨hstart, hstop⟩, ⟨hstart', hstop'⟩⟩
  by_cases hline : m.origin.line = m'.origin.line
  · have horder : Precedes (m, i) (m', j) ∨ Precedes (m', j) (m, i) := precedes_or hij
    have hbeside : m.range.stop.character ≤ m'.range.start.character ∨
        m'.range.stop.character ≤ m.range.start.character := by
      rcases horder with hprecedes | hprecedes
      · exact .inl (h.stop_le_start hanchored hm hm' hline hprecedes)
      · exact .inr (h.stop_le_start hanchored hm' hm hline.symm hprecedes)
    rw [hr] at hstart hstop hbeside
    rw [hr'] at hstart' hstop' hbeside
    simp only [Position.lt_def, Range.behind] at *
    omega
  · rw [hr] at hstart hstop
    rw [hr'] at hstart' hstop'
    simp only [Position.lt_def, Range.behind] at *
    omega

theorem covers_start (hm : b.markers[i]? = some m) : m.range.Covers m.range.start := by
  rw [h.range_eq hanchored hm]
  simp [Range.Covers, Range.behind, Position.lt_def]

/-- No other range starts where that of a marker does. -/
theorem isLast_start (hm : b.markers[i]? = some m) :
    IsLast (·.range.start = m.range.start) b.markers i m := by
  refine ⟨hm, rfl, ?_⟩
  intro j m' hij hm' hstart
  have hcovers := h.covers_start hanchored hm'
  rw [hstart] at hcovers
  exact h.not_covers_both hanchored hm hm' (Nat.ne_of_lt hij) _
    ⟨h.covers_start hanchored hm, hcovers⟩

end LaidOut

end Board

namespace Catalogue

/-- Once the board is anchored, each marker has a range to itself, on the line of its origin and in
the order of the origins, and is found by the start of this range. -/
theorem anchored_markers_found (ops : List Operation)
    (hanchored : (run ops).board.anchored = true) :
    let b := (run ops).board
    (∀ (i j : Nat) (m m' : Marker), i ≠ j → b.markers[i]? = some m → b.markers[j]? = some m' →
      (∀ p, ¬ (m.range.Covers p ∧ m'.range.Covers p)) ∧
      (m.range.start.line = m'.range.start.line → m.origin < m'.origin →
        ¬ m'.range.start < m.range.stop)) ∧
    ∀ (i : Nat) (m : Marker), b.markers[i]? = some m → m.range.start.line = m.origin.line ∧
      m.range.Covers m.range.start ∧
      (run ops).byStart m.range.start = some i ∧ b.atPosition? m.range.start = some m := by
  intro b
  have hc : Current (run ops) := current_run ops
  have hb : b.LaidOut := hc.ranges
  constructor
  · intro i j m m' hij hm hm'
    refine ⟨hb.not_covers_both hanchored hm hm' hij, ?_⟩
    intro hline hlt
    have hr := hb.range_eq hanchored hm
    have hr' := hb.range_eq hanchored hm'
    have horigin : m.origin.line = m'.origin.line := by
      rw [hr, hr'] at hline
      exact hline
    have hstop := hb.stop_le_start hanchored hm hm' horigin (.inl hlt)
    rw [hr, hr'] at hstop ⊢
    simp only [Position.lt_def, Range.behind] at *
    omega
  · intro i m hm
    have hlast := hb.isLast_start hanchored hm
    have hline : m.range.start.line = m.origin.line := by
      rw [hb.range_eq hanchored hm]
      rfl
    have htable : (run ops).byStart m.range.start = some i := by
      rw [hc.byStart_eq]
      exact tabulate_eq_some_iff.mpr ⟨m, hlast⟩
    exact ⟨hline, hb.covers_start hanchored hm, htable,
      Board.atPosition?_eq_some_iff.mpr ⟨i, hlast⟩⟩

/-- Three markers, two of them of one state, share an origin; one is recoloured once they are
anchored. -/
def crowded : List Operation :=
  [.replace [.plain 2 ⟨0, 4⟩, .plain 1 ⟨0, 4⟩, .plain 1 ⟨0, 4⟩, .plain 0 ⟨1, 0⟩, .plain 3 ⟨0, 1⟩],
    .setAnchored true, .setLook 1 fun _ => (.current, .label)]

/-- Before they are anchored, the last of the three hides the others. -/
theorem anchored_markers_found_of_crowded :
    let b := (run crowded).board
    (run (crowded.take 1)).byStart ⟨0, 4⟩ = some 2 ∧
    b.markers.map (fun m => (m.index, m.range.start)) =
      [(2, ⟨0, 7⟩), (1, ⟨0, 5⟩), (1, ⟨0, 6⟩), (0, ⟨1, 0⟩), (3, ⟨0, 1⟩)] ∧
    (run crowded).byStart ⟨0, 5⟩ = some 1 := by
  have hmarkers : (run crowded).board.markers.map (fun m => (m.index, m.range.start)) =
      [(2, ⟨0, 7⟩), (1, ⟨0, 5⟩), (1, ⟨0, 6⟩), (0, ⟨1, 0⟩), (3, ⟨0, 1⟩)] := by decide
  obtain ⟨-, hfound⟩ := anchored_markers_found crowded (by decide)
  obtain ⟨m, hm⟩ : ∃ m, (run crowded).board.markers[1]? = some m := ⟨_, rfl⟩
  have hstart : m.range.start = ⟨0, 5⟩ := by
    cases hm
    decide
  obtain ⟨-, -, htable, -⟩ := hfound 1 m hm
  exact ⟨by decide, hmarkers, hstart ▸ htable⟩

end Catalogue

end Waymark
