import Waymark.Proofs.Marker.Counting
import Waymark.Proofs.Session.Selection

/-! The range of a marker in closed form: it follows the origins and the indices of the markers and
whether they are anchored, so that a board can be laid out in one way only. -/

namespace Waymark

instance (p q : Position) : Decidable (p < q) :=
  inferInstanceAs (Decidable (p.line < q.line ∨ p.line = q.line ∧ p.character < q.character))

namespace Board
variable {b b' : Board} {ms ms' : List Marker} {m m' : Marker} {i : Nat} {e e' e'' : Marker × Nat}
  {anchored : Bool}

/-- Markers with their places on a board go by origin, then by index, then by place. -/
def Precedes (e e' : Marker × Nat) : Prop :=
  e.1.origin < e'.1.origin ∨ e.1.origin = e'.1.origin ∧
    (e.1.index < e'.1.index ∨ e.1.index = e'.1.index ∧ e.2 < e'.2)

instance : Decidable (Precedes e e') := inferInstanceAs (Decidable (_ ∨ _))

/-- How many of the markers on the line of `m` precede it, when `m` is at the place `i`. -/
def countBefore (ms : List Marker) (m : Marker) (i : Nat) : Nat :=
  ms.zipIdx.countP fun e => e.1.origin.line = m.origin.line ∧ Precedes e (m, i)

theorem Precedes.asymm (h : Precedes e e') : ¬ Precedes e' e := by
  unfold Precedes at *
  simp only [Position.lt_def, Position.ext_iff] at *
  omega

theorem Precedes.trans (h : Precedes e e') (h' : Precedes e' e'') : Precedes e e'' := by
  unfold Precedes at *
  simp only [Position.lt_def, Position.ext_iff] at *
  omega

theorem precedes_or (h : e.2 ≠ e'.2) : Precedes e e' ∨ Precedes e' e := by
  simp only [Precedes, Position.lt_def, Position.ext_iff]
  omega

theorem pairwise_zipIdx (ms : List Marker) : ms.zipIdx.Pairwise fun e e' => e.2 < e'.2 := by
  rw [← List.pairwise_map (f := Prod.snd) (R := (· < ·)), List.zipIdx_map_snd]
  exact List.pairwise_lt_range'

theorem pairwise_precedes (ms : List Marker) :
    (Order.sort comesFirst ms.zipIdx).Pairwise Precedes := by
  have hsorted := Order.pairwise_sort_of_pairwise comesFirst_total comesFirst_trans
    (pairwise_zipIdx ms)
  refine hsorted.imp ?_
  rintro e e' ⟨hfirst, htie⟩
  rw [comesFirst_iff] at hfirst htie
  rcases hfirst with hlt | ⟨heq, hle⟩
  · exact .inl hlt
  · refine .inr ⟨heq, ?_⟩
    by_cases hsame : e.1.index = e'.1.index
    · exact .inr ⟨hsame, htie (.inr ⟨heq.symm, Nat.le_of_eq hsame.symm⟩)⟩
    · exact .inl (by omega)

/-- What the walk counts before a marker is what precedes it. -/
theorem mem_anchorRanges_countBefore (h : ms[i]? = some m) :
    (i, Range.behind m.origin (countBefore ms m i)) ∈ anchorRanges ms := by
  obtain ⟨front, back, hsort⟩ := mem_front_of_sort h
  have hpairs := pairwise_precedes ms
  rw [hsort] at hpairs
  obtain ⟨-, hback, hfront⟩ := List.pairwise_append.mp hpairs
  have hbefore : front.countP (fun e => e.1.origin.line = m.origin.line ∧ Precedes e (m, i)) =
      front.countP (·.1.origin.line = m.origin.line) := by
    refine List.countP_congr fun e he => ?_
    have := hfront e he (m, i) List.mem_cons_self
    simp [this]
  have hbehind : ((m, i) :: back).countP
      (fun e => e.1.origin.line = m.origin.line ∧ Precedes e (m, i)) = 0 := by
    rw [List.countP_eq_zero]
    intro e he
    have hnot : ¬ Precedes e (m, i) := by
      rcases List.mem_cons.mp he with rfl | he
      · exact fun hself => hself.asymm hself
      · exact ((List.pairwise_cons.mp hback).1 e he).asymm
    simp [hnot]
  have hcount : countBefore ms m i = front.countP (·.1.origin.line = m.origin.line) := by
    rw [countBefore, ← Order.sort_perm.countP_eq, hsort, List.countP_append, hbefore, hbehind,
      Nat.add_zero]
  rw [hcount]
  exact mem_anchorRanges hsort

/-- A marker's range as the board's markers and its anchoring alone make it. -/
def rangeOf (anchored : Bool) (ms : List Marker) (m : Marker) (i : Nat) : Range :=
  if anchored then Range.behind m.origin (countBefore ms m i) else .empty m.origin

theorem getElem?_layOut (anchored : Bool) (h : ms[i]? = some m) :
    (layOut anchored ms)[i]? = some { m with range := rangeOf anchored ms m i } := by
  cases anchored with
  | false => simp [layOut, h, rangeOf]
  | true => exact getElem?_layOut_true h (mem_anchorRanges_countBefore h)

/-- A marker as far as ranges are made from it. -/
def located (m : Marker) : Marker := .plain m.index m.origin

theorem countBefore_map_located :
    countBefore (ms.map located) (located m) i = countBefore ms m i := by
  rw [countBefore, List.zipIdx_map, List.countP_map]
  rfl

theorem rangeOf_congr (h : ms.map located = ms'.map located) (hm : located m = located m') :
    rangeOf anchored ms m i = rangeOf anchored ms' m' i := by
  have horigin : m.origin = m'.origin := congrArg (·.origin) hm
  rw [rangeOf, rangeOf, ← countBefore_map_located, h, hm, countBefore_map_located, horigin]

theorem map_located_of_unplaced (h : ms.map unplaced = ms'.map unplaced) :
    ms.map located = ms'.map located := by
  have hcomp : located ∘ unplaced = located := rfl
  have hmap := congrArg (List.map located) h
  rwa [List.map_map, List.map_map, hcomp] at hmap

theorem eq_of_unplaced (h : unplaced m = unplaced m') (hrange : m.range = m'.range) : m = m' :=
  calc m
    _ = { unplaced m with range := m.range } := rfl
    _ = { unplaced m' with range := m'.range } := by rw [h, hrange]
    _ = m' := rfl

/-- The ranges are those that the markers and the anchoring make. -/
def LaidOut (b : Board) : Prop :=
  ∀ i m, b.markers[i]? = some m → m.range = rangeOf b.anchored b.markers m i

theorem laidOut_layOut (anchored : Bool) (ms : List Marker) :
    LaidOut ⟨layOut anchored ms, anchored⟩ := by
  intro i m hm
  have hlength : i < ms.length := by simpa using (List.getElem?_eq_some_iff.mp hm).1
  have hlaid := getElem?_layOut anchored (List.getElem?_eq_getElem hlength)
  obtain rfl := Option.some.inj (hm.symm.trans hlaid)
  exact rangeOf_congr (map_located_of_unplaced (map_unplaced_layOut anchored).symm) rfl

/-- There is only one way to lay out the markers of a board. -/
theorem LaidOut.eq (h : LaidOut b) (h' : LaidOut b') (hanchored : b.anchored = b'.anchored)
    (hmarkers : b.markers.map unplaced = b'.markers.map unplaced) : b = b' := by
  obtain ⟨ms, anchored⟩ := b
  obtain ⟨ms', anchored'⟩ := b'
  obtain rfl : anchored = anchored' := hanchored
  congr 1
  have hlocated := map_located_of_unplaced hmarkers
  have hlength : ms.length = ms'.length := by simpa using congrArg List.length hmarkers
  refine List.ext_getElem hlength fun i hi hi' => ?_
  have hsame : unplaced ms[i] = unplaced ms'[i] := by
    have hi'' : i < (ms.map unplaced).length := by simpa using hi
    simpa using List.getElem_of_eq hmarkers hi''
  have hlocatedHere : located ms[i] = located ms'[i] := (congrArg located hsame :)
  have hrange : ms[i].range = rangeOf anchored ms ms[i] i := h i _ (List.getElem?_eq_getElem hi)
  have hrange' : ms'[i].range = rangeOf anchored ms' ms'[i] i :=
    h' i _ (List.getElem?_eq_getElem hi')
  rw [rangeOf_congr hlocated hlocatedHere, ← hrange'] at hrange
  exact eq_of_unplaced hsame hrange

/-- The markers with other colours and glyphs, which may depend on where on the board they are. -/
def dress (b : Board) (look : Nat → Marker → Colour × Glyph) : Board :=
  { b with markers := b.markers.mapIdx fun i m => m.painted (look i m) }

theorem map_dress {α : Type} {f : Marker → α} (look : Nat → Marker → Colour × Glyph)
    (hf : ∀ m paint, f (m.painted paint) = f m) :
    (b.dress look).markers.map f = b.markers.map f := by
  apply List.ext_getElem?
  intro i
  cases h : b.markers[i]? <;> simp [dress, h, hf]

theorem LaidOut.dress (h : LaidOut b) (look : Nat → Marker → Colour × Glyph) :
    LaidOut (b.dress look) := by
  intro i m hm
  simp only [Board.dress, List.getElem?_mapIdx, Option.map_eq_some_iff] at hm
  obtain ⟨m', hm', rfl⟩ := hm
  exact (h i m' hm').trans (rangeOf_congr (map_dress look fun _ _ => rfl).symm rfl)

/-- Changing one marker is changing all and leaving the others as they are. -/
theorem modify_eq_dress (b : Board) (i : Nat) (look : Marker → Colour × Glyph) :
    { b with markers := b.markers.modify i fun m => m.painted (look m) } =
      b.dress fun j m => if i = j then look m else (m.colour, m.glyph) := by
  rw [dress]
  congr 1
  apply List.ext_getElem?
  intro j
  rw [List.getElem?_modify, List.getElem?_mapIdx]
  by_cases hij : i = j <;> cases b.markers[j]? <;> simp [hij, Marker.painted]

theorem modifyAll_eq_dress (b : Board) (look : Marker → Colour × Glyph) :
    b.modifyAll (fun m => m.painted (look m)) = b.dress fun _ => look := by
  rw [modifyAll, dress]
  congr 1
  exact List.ext_getElem? fun i => by simp

end Board

end Waymark
