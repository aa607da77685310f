import Waymark.Marker.Board
import Waymark.Proofs.Order
import Waymark.Proofs.Text.Extent

/-! The ranges that a board gives its markers. They come from the origins and the indices of the
markers and from nothing else, and each place on the board has one. -/

namespace Waymark.Board
variable {ms : List Marker} {entries : List (Marker × Nat)} {line : Option Nat} {count i : Nat}
  {m : Marker} {r : Range} {p : Position}

theorem comesFirst_iff {a b : Marker × Nat} : comesFirst a b ↔
    a.1.origin < b.1.origin ∨ a.1.origin = b.1.origin ∧ a.1.index ≤ b.1.index := by
  unfold comesFirst
  split
  · next h => simp [h, Position.lt_irrefl]
  · next h =>
    simp only [Position.le, Bool.or_eq_true, Bool.and_eq_true, decide_eq_true_eq, beq_iff_eq,
      Position.lt_def, Position.ext_iff] at *
    omega

theorem comesFirst_total (a b : Marker × Nat) : comesFirst a b ∨ comesFirst b a := by
  simp only [comesFirst_iff, Position.lt_def, Position.ext_iff]
  omega

theorem comesFirst_trans (a b c : Marker × Nat) (h : comesFirst a b) (h' : comesFirst b c) :
    comesFirst a c := by
  simp only [comesFirst_iff, Position.lt_def, Position.ext_iff] at *
  omega

/-- Where a character at `p` ends up when `count` anchors have come in before it on `line`. -/
def shifted (line : Option Nat) (count : Nat) (p : Position) : Position :=
  ⟨p.line, p.character + if line = some p.line then count else 0⟩

theorem shifted_self : shifted (some p.line) count p = ⟨p.line, p.character + count⟩ := by
  simp [shifted]

/-- The shift stays the same on the way along a line, and there is none on a later line. -/
theorem shifted_add {q : Position} (h : ∀ l ∈ line, l ≤ p.line) :
    shifted line count p + q = shifted line count (p + q) := by
  by_cases hq : q.line = 0
  · simp [shifted, Position.add_def, hq, Nat.add_right_comm]
  · have hline : line ≠ some (p.line + q.line) := by
      intro hl
      have := h _ hl
      omega
    simp [shifted, Position.add_def, hq, hline]

theorem map_fst_shiftFrom : (shiftFrom line count entries).map (·.1) = entries.map (·.2) := by
  induction entries generalizing line count with
  | nil => rfl
  | cons e entries ih =>
    obtain ⟨m, slot⟩ := e
    simp [shiftFrom, ih]

theorem map_fst_anchorRanges_perm : ((anchorRanges ms).map (·.1)).Perm (List.range ms.length) := by
  rw [anchorRanges, map_fst_shiftFrom, List.range_eq_range', ← List.zipIdx_map_snd 0 ms]
  exact Order.sort_perm.map _

theorem nodup_anchorRanges : ((anchorRanges ms).map (·.1)).Nodup :=
  map_fst_anchorRanges_perm.nodup_iff.mpr List.nodup_range

theorem lookup_eq_some_of_mem {α : Type} {entries : List (Nat × α)} {a : α}
    (hd : (entries.map (·.1)).Nodup) (h : (i, a) ∈ entries) : entries.lookup i = some a := by
  induction entries with
  | nil => simp at h
  | cons e entries ih =>
    obtain ⟨j, b⟩ := e
    obtain ⟨hj, hd⟩ := List.nodup_cons.mp hd
    rcases List.mem_cons.mp h with heq | htail
    · obtain ⟨rfl, rfl⟩ := Prod.mk.inj heq
      simp
    · have hne : i ≠ j := by
        rintro rfl
        exact hj (List.mem_map.mpr ⟨(i, a), htail, rfl⟩)
      rw [List.lookup_cons, beq_false_of_ne hne]
      exact ih hd htail

/-- Every place on the board has a range. -/
theorem exists_anchorRange (h : i < ms.length) : ∃ r, (i, r) ∈ anchorRanges ms := by
  have hmem : i ∈ (anchorRanges ms).map (·.1) := by
    rw [map_fst_anchorRanges_perm.mem_iff]
    exact List.mem_range.mpr h
  obtain ⟨⟨j, r⟩, hr, rfl⟩ := List.mem_map.mp hmem
  exact ⟨r, hr⟩

theorem getElem?_layOut_true (h : ms[i]? = some m) (hr : (i, r) ∈ anchorRanges ms) :
    (layOut true ms)[i]? = some { m with range := r } := by
  have hlookup := lookup_eq_some_of_mem nodup_anchorRanges hr
  simp [layOut, List.getElem?_zipIdx, h, hlookup]

/-- A marker that has been laid out has the range of its place, and is otherwise the one it was. -/
theorem exists_of_getElem?_layOut (h : (layOut true ms)[i]? = some m) :
    ∃ m', ms[i]? = some m' ∧ (i, m.range) ∈ anchorRanges ms ∧ m.origin = m'.origin := by
  have hlength : i < ms.length := by simpa using (List.getElem?_eq_some_iff.mp h).1
  obtain ⟨r, hr⟩ := exists_anchorRange hlength
  have hi : ms[i]? = some ms[i] := List.getElem?_eq_getElem hlength
  rw [getElem?_layOut_true hi hr, Option.some.injEq] at h
  subst h
  exact ⟨ms[i], hi, hr, rfl⟩

/-- A marker without its range. -/
def unplaced (m : Marker) : Marker := { m with range := default }

theorem shiftFrom_map_unplaced : shiftFrom line count (entries.map (Prod.map unplaced id)) =
    shiftFrom line count entries := by
  induction entries generalizing line count with
  | nil => rfl
  | cons e entries ih =>
    obtain ⟨m, slot⟩ := e
    simp [shiftFrom, ih, unplaced]

theorem anchorRanges_map_unplaced : anchorRanges (ms.map unplaced) = anchorRanges ms := by
  have hsort : (Order.sort comesFirst ms.zipIdx).map (Prod.map unplaced id) =
      Order.sort comesFirst (ms.zipIdx.map (Prod.map unplaced id)) :=
    Order.map_sort fun _ _ => rfl
  rw [anchorRanges, anchorRanges, List.zipIdx_map, ← hsort, shiftFrom_map_unplaced]

/-- Laying out changes nothing but ranges. -/
theorem map_unplaced_layOut (anchored : Bool) :
    (layOut anchored ms).map unplaced = ms.map unplaced := by
  cases anchored with
  | false => simp [layOut, unplaced, Function.comp_def]
  | true =>
    calc (layOut true ms).map unplaced
      _ = (ms.zipIdx.map (·.1)).map unplaced := by
        simp only [layOut, if_true, List.map_map]
        rfl
      _ = ms.map unplaced := by rw [List.zipIdx_map_fst]

/-- Laying out keeps every marker at its origin. -/
theorem forall_origin_layOut {P : Position → Prop} {anchored : Bool} :
    (∀ m ∈ layOut anchored ms, P m.origin) ↔ ∀ m ∈ ms, P m.origin := by
  have hunplaced : ∀ ms : List Marker, (∀ m ∈ ms.map unplaced, P m.origin) ↔ ∀ m ∈ ms, P m.origin :=
    fun _ => List.forall_mem_map
  rw [← hunplaced, map_unplaced_layOut, hunplaced]

theorem exists_origin_layOut {P : Position → Prop} {anchored : Bool} :
    (∃ m ∈ layOut anchored ms, P m.origin) ↔ ∃ m ∈ ms, P m.origin := by
  have hnone : (∀ m ∈ layOut anchored ms, ¬ P m.origin) ↔ ∀ m ∈ ms, ¬ P m.origin :=
    forall_origin_layOut (P := fun p => ¬ P p)
  simpa only [Classical.not_forall, Classical.not_not, exists_prop] using not_congr hnone

/-- The ranges come from what laying out does not touch, so that a second time changes nothing. -/
theorem layOut_true_layOut (anchored : Bool) :
    layOut true (layOut anchored ms) = layOut true ms := by
  have hranges : anchorRanges (layOut anchored ms) = anchorRanges ms := by
    rw [← anchorRanges_map_unplaced, map_unplaced_layOut, anchorRanges_map_unplaced]
  apply List.ext_getElem?
  intro i
  cases h : ms[i]? with
  | none =>
    have hlength : ms.length ≤ i := List.getElem?_eq_none_iff.mp h
    rw [List.getElem?_eq_none_iff.mpr (by simpa using hlength),
      List.getElem?_eq_none_iff.mpr (by simpa using hlength)]
  | some m =>
    obtain ⟨r, hr⟩ := exists_anchorRange (List.getElem?_eq_some_iff.mp h).1
    have hmap : ((layOut anchored ms).map unplaced)[i]? = some (unplaced m) := by
      rw [map_unplaced_layOut, List.getElem?_map, h, Option.map_some]
    rw [List.getElem?_map, Option.map_eq_some_iff] at hmap
    obtain ⟨m', hm', hsame⟩ := hmap
    rw [getElem?_layOut_true hm' (hranges ▸ hr), getElem?_layOut_true h hr]
    cases m
    cases m'
    simp_all [unplaced]

theorem map_unplaced_setAnchored {b : Board} (anchored : Bool) :
    (b.setAnchored anchored).markers.map unplaced = b.markers.map unplaced := by
  unfold setAnchored
  split
  · rfl
  · exact map_unplaced_layOut anchored

/-- However the markers were laid out before, they end up over their anchors. -/
theorem setAnchored_false_true {b : Board} :
    (b.setAnchored false).setAnchored true = ⟨layOut true b.markers, true⟩ := by
  obtain ⟨markers, anchored⟩ := b
  cases anchored with
  | false => simp [setAnchored]
  | true => simp [setAnchored, layOut_true_layOut]

end Waymark.Board
