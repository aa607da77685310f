import Mathlib.Logic.Function.Iterate
import Waymark.Proofs.Session.Displaying

/-! A state that is marked once more. Markers may share a state. Of these the last alone is selected
and highlighted, and the others are only repainted, so that a board goes through a selection in two
ways at once. What a second selection leaves of the first is told from there. -/

namespace Waymark

namespace Marker
variable {m : Marker} {selected : Nat} {previous : Option Nat} {entries : List TraceEntry}

theorem index_select : (m.select selected previous).index = m.index := by
  rw [select_eq]

theorem index_inSelection : (m.inSelection selected previous entries).index = m.index := rfl

theorem repaint_repaint : m.repaint.repaint = m.repaint := by
  unfold repaint
  cases h : m.isError <;> simp [requestColour, hide, collapse, Colour.yieldsTo, h]

/-- The state selected before counts for its own marker only. -/
theorem inSelection_of_ne (h : m.index ≠ selected → previous ≠ some m.index) :
    m.inSelection selected previous entries =
      m.inSelection selected (some selected) entries := by
  have hcolour : m.selectionColour selected previous entries =
      m.selectionColour selected (some selected) entries := by
    unfold selectionColour
    split
    · rfl
    · next hne =>
      have hother : some selected ≠ some m.index := fun heq => hne (Option.some.inj heq).symm
      rw [if_neg (h hne), if_neg hother]
  rw [inSelection, inSelection, hcolour]

/-- Only in the marker of the state selected before its colour is seen. -/
theorem selectionColour_eq_previous :
    m.selectionColour selected previous entries = .previous ↔
      m.index ≠ selected ∧ previous = some m.index := by
  unfold selectionColour
  constructor
  · intro h
    split at h
    · cases h
    · next hne =>
      split at h
      · next hprevious => exact ⟨hne, hprevious⟩
      · split at h
        · cases h
        · split at h <;> cases h
  · rintro ⟨hne, hprevious⟩
    rw [if_neg hne, if_pos hprevious]

end Marker

namespace Board
variable {b b' : Board} {ms : List Marker} {f f' g g' : Marker → Marker} {state selected : Nat}
  {previous previous' : Option Nat} {entries : List TraceEntry}

/-- The markers with `f` made of the last one of every state and `g` of the others. -/
def mapLast (f g : Marker → Marker) : List Marker → List Marker
  | [] => []
  | m :: ms => (if ms.any (·.index == m.index) then g m else f m) :: mapLast f g ms

theorem mapLast_congr (hf : ∀ m, f m = f' m) (hg : ∀ m, g m = g' m) :
    mapLast f g ms = mapLast f' g' ms := by
  rw [funext hf, funext hg]

theorem mapLast_self : mapLast f f ms = ms.map f := by
  induction ms with
  | nil => rfl
  | cons m ms ih => rw [mapLast, ite_self, ih, List.map_cons]

theorem map_mapLast {α : Type} {h : Marker → α} (hf : ∀ m, h (f m) = h (f' m))
    (hg : ∀ m, h (g m) = h (g' m)) :
    (mapLast f g ms).map h = (mapLast f' g' ms).map h := by
  induction ms with
  | nil => rfl
  | cons m ms ih =>
    rw [mapLast, mapLast, List.map_cons, List.map_cons, ih]
    split
    · rw [hg]
    · rw [hf]

section
variable (hf : ∀ m, (f m).index = m.index) (hg : ∀ m, (g m).index = m.index)
include hf hg

theorem any_mapLast : (mapLast f g ms).any (·.index == state) = ms.any (·.index == state) := by
  induction ms with
  | nil => rfl
  | cons m ms ih =>
    rw [mapLast, List.any_cons, ih, List.any_cons]
    split
    · rw [hg]
    · rw [hf]

theorem find?_mapLast : (mapLast f g ms).reverse.find? (·.index == state) =
    (ms.reverse.find? (·.index == state)).map f := by
  induction ms with
  | nil => rfl
  | cons m ms ih =>
    rw [mapLast, find?_reverse_cons, ih, find?_reverse_cons]
    cases hfind : ms.reverse.find? (·.index == state) with
    | some m' => rfl
    | none =>
      by_cases hm : m.index = state
      · have hlast : ms.any (·.index == m.index) = false := by
          rw [hm, ← isSome_find?_reverse, hfind]
          rfl
        rw [hlast, if_neg Bool.false_ne_true, hf]
        simp [hm]
      · split <;> simp [hf, hg, hm]

/-- What is made of the markers in two ways can be made of them in two ways again. -/
theorem mapLast_mapLast :
    mapLast f' g' (mapLast f g ms) = mapLast (fun m => f' (f m)) (fun m => g' (g m)) ms := by
  induction ms with
  | nil => rfl
  | cons m ms ih =>
    simp only [mapLast, any_mapLast hf hg, ih]
    split
    · next hlater => rw [hg, if_pos hlater]
    · next hlast => rw [hf, if_neg hlast]

end

theorem modifyLast_eq_mapLast (state : Nat) (f : Marker → Marker) (ms : List Marker) :
    modifyLast (·.index == state) f ms = mapLast (·.updateAt state f) id ms := by
  induction ms with
  | nil => rfl
  | cons m ms ih =>
    by_cases hm : m.index = state
    · subst hm
      rw [modifyLast, mapLast]
      by_cases hlater : ms.any (·.index == m.index) = true
      · rw [if_pos hlater, if_pos hlater, ih]
        rfl
      · have hrest : modifyLast (·.index == m.index) f ms = ms :=
          modifyLast_of_not_mem (by simpa using hlater)
        rw [if_neg hlater, if_neg hlater, ← ih, hrest]
        simp [Marker.updateAt]
    · have hself : m.updateAt state f = m := if_neg hm
      rw [modifyLast, mapLast, hself, id_eq, ite_self]
      split
      · rw [ih]
      · next hlast =>
        have hrest : modifyLast (·.index == state) f ms = ms :=
          modifyLast_of_not_mem (by simpa using hlast)
        rw [← ih, hrest]
        simp [hm]

/-- The board with `f` made of the marker that shows a state and `g` of the others. -/
def alter (f g : Marker → Marker) (b : Board) : Board := ⟨mapLast f g b.markers, b.anchored⟩

theorem modify_alter (hf : ∀ m, (f m).index = m.index) (hg : ∀ m, (g m).index = m.index)
    (state : Nat) (f' : Marker → Marker) :
    (b.alter f g).modify state f' = b.alter (fun m => (f m).updateAt state f') g := by
  rw [alter, modify, modifyLast_eq_mapLast, mapLast_mapLast hf hg]
  rfl

theorem get?_alter (hf : ∀ m, (f m).index = m.index) (hg : ∀ m, (g m).index = m.index) :
    (b.alter f g).get? state = (b.get? state).map f :=
  find?_mapLast hf hg

/-- The start of a selection: the last marker of every state is selected, the others are hidden. -/
theorem repaint_eq_alter :
    b.repaint selected previous = b.alter (·.select selected previous) Marker.repaint := by
  have hindex : ∀ m : Marker, m.repaint.index = m.index := fun _ => Marker.index_repaint
  have hall : b.modifyAll Marker.repaint = b.alter Marker.repaint Marker.repaint := by
    rw [alter, mapLast_self, modifyAll]
  have hcurrent := modify_alter hindex hindex (b := b) selected (·.requestColour .current)
  rw [← hall] at hcurrent
  cases previous with
  | none => exact hcurrent
  | some state =>
    have hselected : ∀ m : Marker,
        (m.repaint.updateAt selected (·.requestColour .current)).index = m.index :=
      fun m => (Marker.index_updateAt Marker.index_requestColour).trans (hindex m)
    have hprevious := modify_alter hselected hindex (b := b) state (·.requestColour .previous)
    rw [← hcurrent] at hprevious
    exact hprevious

theorem highlight_alter (hf : ∀ m, (f m).index = m.index) (hg : ∀ m, (g m).index = m.index)
    (entries : List TraceEntry) :
    (b.alter f g).highlight entries = b.alter (fun m => (f m).highlightAll entries) g := by
  induction entries generalizing f with
  | nil => rfl
  | cons e entries ih =>
    have hindex : ∀ m, ((f m).updateAt e.state (·.highlight e.visible)).index = m.index :=
      fun m => (Marker.index_updateAt Marker.index_highlight).trans (hf m)
    rw [highlight, List.foldl_cons, modify_alter hf hg]
    exact ih hindex

/-- The board as a selection leaves it. -/
def inSelection (selected : Nat) (previous : Option Nat) (entries : List TraceEntry) (b : Board) :
    Board :=
  b.alter (·.inSelection selected previous entries) Marker.repaint

theorem highlight_repaint : (b.repaint selected previous).highlight entries =
    b.inSelection selected previous entries := by
  rw [repaint_eq_alter, highlight_alter (fun _ => Marker.index_select)
    (fun _ => Marker.index_repaint)]
  simp only [Marker.highlightAll_select]
  rfl

theorem get?_inSelection : (b.inSelection selected previous entries).get? state =
    (b.get? state).map (·.inSelection selected previous entries) :=
  get?_alter (fun _ => Marker.index_inSelection) fun _ => Marker.index_repaint

/-- A selection covers an earlier one of the same run. -/
theorem inSelection_inSelection :
    (b.inSelection selected previous entries).inSelection selected previous' entries =
      b.inSelection selected previous' entries := by
  have hmarkers : mapLast (·.inSelection selected previous' entries) Marker.repaint
      (mapLast (·.inSelection selected previous entries) Marker.repaint b.markers) = _ :=
    mapLast_mapLast (fun _ => Marker.index_inSelection) fun _ => Marker.index_repaint
  rw [inSelection, inSelection, inSelection, alter, alter, alter, hmarkers]
  congr 1
  exact mapLast_congr (fun _ => rfl) fun _ => Marker.repaint_repaint

/-- The marker of the state selected before is the only one in which it shows that this was another
one, and only its colour does. -/
theorem inSelection_eq_modify (p : Nat) :
    b.inSelection selected (some selected) entries =
      (b.inSelection selected (some p) entries).modify p fun m =>
        { m with colour := m.selectionColour selected (some selected) entries } := by
  unfold inSelection
  rw [modify_alter (fun _ => Marker.index_inSelection) fun _ => Marker.index_repaint]
  congr 1
  funext m
  by_cases hm : m.index = p
  · exact (if_pos hm).symm
  · have hother : m.inSelection selected (some p) entries =
        m.inSelection selected (some selected) entries :=
      Marker.inSelection_of_ne fun _ heq => hm (Option.some.inj heq).symm
    exact hother.symm.trans (if_neg hm).symm

/-- Boards with the same states in the same colours show every state in the same colour. -/
theorem map_colour_get? (hindex : b.markers.map (·.index) = b'.markers.map (·.index))
    (hcolour : b.markers.map (·.colour) = b'.markers.map (·.colour)) (state : Nat) :
    (b.get? state).map (·.colour) = (b'.get? state).map (·.colour) := by
  have hpairs : b.markers.map (fun m => (m.index, m.colour)) =
      b'.markers.map (fun m => (m.index, m.colour)) := by
    rw [← List.zip_map', hindex, hcolour, List.zip_map']
  have hfind : ∀ ms : List Marker, (ms.reverse.find? (·.index == state)).map (·.colour) =
      ((ms.map fun m => (m.index, m.colour)).reverse.find? (·.1 == state)).map (·.2) := by
    intro ms
    rw [← List.map_reverse, List.find?_map, Option.map_map]
    rfl
  rw [get?, get?, hfind, hfind, hpairs]

/-- The colours tell whether another state was selected before, if the board has that state. -/
theorem colours_inSelection_iff : ((b.inSelection selected (some selected) entries).markers.map
      (·.colour) = (b.inSelection selected previous entries).markers.map (·.colour)) ↔
    ∀ p, previous = some p → (b.get? p).isSome = true → p = selected := by
  constructor
  · rintro hcolours p rfl hp
    obtain ⟨m, hm⟩ := Option.isSome_iff_exists.mp hp
    have hindex : m.index = p := by simpa using List.find?_some hm
    have hstates : (b.inSelection selected (some selected) entries).markers.map (·.index) =
        (b.inSelection selected (some p) entries).markers.map (·.index) :=
      map_mapLast (fun _ => rfl) fun _ => rfl
    have hcolour := map_colour_get? hstates hcolours p
    rw [get?_inSelection, get?_inSelection, hm, Option.map_some, Option.map_some] at hcolour
    have hsame : m.selectionColour selected (some selected) entries =
        m.selectionColour selected (some p) entries := Option.some.inj hcolour
    by_contra hne
    have hprevious : m.selectionColour selected (some p) entries = .previous :=
      Marker.selectionColour_eq_previous.mpr ⟨hindex ▸ hne, congrArg some hindex.symm⟩
    obtain ⟨hother, hself⟩ := Marker.selectionColour_eq_previous.mp (hsame.trans hprevious)
    exact hother (Option.some.inj hself).symm
  · intro hprevious
    cases previous with
    | none =>
      have hsame : b.inSelection selected (some selected) entries =
          b.inSelection selected none entries := by
        unfold inSelection
        congr 1
        funext m
        have hnone : m.inSelection selected none entries =
            m.inSelection selected (some selected) entries :=
          Marker.inSelection_of_ne fun _ h => nomatch h
        exact hnone.symm
      rw [hsame]
    | some p =>
      by_cases hp : (b.get? p).isSome = true
      · rw [hprevious p rfl hp]
      · have hnone : (b.inSelection selected (some p) entries).get? p = none := by
          rw [get?_inSelection, Option.not_isSome_iff_eq_none.mp hp, Option.map_none]
        rw [inSelection_eq_modify p, modify_of_get?_eq_none hnone]

end Board

namespace Session
variable {s : Session} {selected p : Nat} {tracer : Nat → List TraceEntry}

/-- A state can be marked if the markers are shown and it has one. -/
def CanMark (s : Session) (selected : Nat) : Prop :=
  s.shown = true ∧ (s.board.get? selected).isSome = true

theorem mark_of_not_canMark (h : ¬s.CanMark selected) : s.mark selected tracer = (false, s) := by
  have hbegin : s.beginMark selected = (none, s) := if_neg h
  rw [mark, hbegin]

/-- Marking a state is the selection of the closed form, whatever states the markers share. -/
theorem mark_of_canMark (h : s.CanMark selected) : s.mark selected tracer = (true, { s with
      board := s.board.inSelection selected s.selection.previous (tracer selected)
      selection := ⟨some selected, some selected⟩
      ids := (s.ids.requestTrace s.uri selected).2 }) := by
  obtain ⟨hshown, hpresent⟩ := h
  simp only [mark, beginMark, hshown, hpresent, and_self, if_true, applyTrace,
    Board.highlight_repaint]
  simp [RequestIds.wantsTrace, RequestIds.requestTrace]

/-- Once a state is marked it can be marked again. -/
theorem canMark_mark (h : s.CanMark selected) (tracer : Nat → List TraceEntry) :
    (s.mark selected tracer).2.CanMark selected := by
  rw [mark_of_canMark h]
  refine ⟨h.1, ?_⟩
  rw [Board.get?_inSelection, Option.isSome_map]
  exact h.2

/-- When a state is marked for the second time, nothing is left of what was selected before. -/
theorem board_mark_mark (h : s.CanMark selected) (tracer : Nat → List TraceEntry) :
    ((s.mark selected tracer).2.mark selected tracer).2.board =
      s.board.inSelection selected (some selected) (tracer selected) := by
  rw [mark_of_canMark (canMark_mark h tracer), mark_of_canMark h]
  exact Board.inSelection_inSelection

/-- The third time changes nothing. -/
theorem board_mark_mark_mark (s : Session) (selected : Nat) (tracer : Nat → List TraceEntry) :
    let again := fun s : Session => (s.mark selected tracer).2
    (again (again (again s))).board = (again (again s)).board := by
  intro again
  by_cases h : s.CanMark selected
  · have htwice : (again (again s)).board = _ := board_mark_mark h tracer
    have hthrice : (again (again (again s))).board = _ :=
      board_mark_mark (canMark_mark h tracer) tracer
    rw [hthrice, htwice, mark_of_canMark h]
    exact Board.inSelection_inSelection
  · have hsame : again s = s := congrArg Prod.snd (mark_of_not_canMark h)
    simp only [hsame]

/-- However often a state is marked, the board is the same from the second time on. -/
theorem board_iterate_mark (s : Session) (selected : Nat) (tracer : Nat → List TraceEntry)
    (n : Nat) :
    let again := fun s : Session => (s.mark selected tracer).2
    (again^[n + 2] s).board = (again (again s)).board := by
  intro again
  induction n with
  | zero => rfl
  | succ n ih =>
    rw [← ih]
    simp only [Function.iterate_succ_apply']
    exact board_mark_mark_mark (again^[n] s) selected tracer

/-- Marking a state once more shows the same texts, and the same colours unless another state that
is on the board was marked before it. Then the marker of that state, which had a colour of its own
the first time, gets the colour of any other marker the second time, and nothing else changes.
From the second time on the board stays as it is. -/
theorem mark_again (s : Session) (selected : Nat) (tracer : Nat → List TraceEntry) :
    let again := fun s : Session => (s.mark selected tracer).2
    let texts := fun s : Session => s.board.markers.map (·.renderedText)
    let colours := fun s : Session => s.board.markers.map (·.colour)
    texts (again (again s)) = texts (again s) ∧
    (colours (again (again s)) = colours (again s) ↔
      (s.CanMark selected → ∀ p, s.selection.previous = some p →
        (s.board.get? p).isSome = true → p = selected)) ∧
    (s.CanMark selected → ∀ p, s.selection.previous = some p →
      (again (again s)).board = (again s).board.modify p fun m =>
        { m with colour := m.selectionColour selected (some selected) (tracer selected) }) ∧
    ∀ n, (again^[n + 2] s).board = (again (again s)).board := by
  intro again texts colours
  have hiterate := board_iterate_mark s selected tracer
  by_cases h : s.CanMark selected
  · have honce : (again s).board =
        s.board.inSelection selected s.selection.previous (tracer selected) :=
      congrArg (·.2.board) (mark_of_canMark h)
    have htwice : (again (again s)).board =
        s.board.inSelection selected (some selected) (tracer selected) := board_mark_mark h tracer
    refine ⟨?_, ?_, ?_, hiterate⟩
    · dsimp only [texts]
      rw [htwice, honce]
      exact Board.map_mapLast (fun _ => rfl) fun _ => rfl
    · dsimp only [colours]
      rw [htwice, honce, Board.colours_inSelection_iff]
      exact ⟨fun hprevious _ => hprevious, fun hprevious => hprevious h⟩
    · intro _ p hprevious
      rw [htwice, honce, hprevious]
      exact Board.inSelection_eq_modify p
  · have hsame : again s = s := congrArg Prod.snd (mark_of_not_canMark h)
    refine ⟨?_, ?_, fun hcan => absurd hcan h, hiterate⟩
    · rw [hsame, hsame]
    · rw [hsame, hsame]
      exact ⟨fun _ hcan => absurd hcan h, fun _ => rfl⟩

/-- The state marked before stands out when the next one is marked, and no longer when that is
marked once more. -/
theorem previous_colour_lost :
    let s : Session := { ofUri "d" with
      board := .ofMarkers [.plain 0 ⟨0, 0⟩, .plain 1 ⟨0, 1⟩]
      shown := true }
    let next := fun s : Session => (s.mark 1 fun _ => []).2
    let before := (s.mark 0 fun _ => []).2
    (next before).board.markers.map (·.colour) = [.previous, .current] ∧
      (next (next before)).board.markers.map (·.colour) = [.uninteresting, .current] := by
  decide

end Session

end Waymark
