import Mathlib.Logic.Basic
import Waymark.Session.Selecting

/-! What a selection shows. Where no two markers share a state, every update of the board is made
marker by marker, and the colour and glyph that a marker ends with can be read off its own state. -/

namespace Waymark

namespace Marker
variable {m : Marker} {selected : Nat} {previous : Option Nat} {entries : List TraceEntry}

/-- The colour of a marker while `selected` is selected. -/
def selectionColour (selected : Nat) (previous : Option Nat) (entries : List TraceEntry)
    (m : Marker) : Colour :=
  if m.index = selected then .current
  else if previous = some m.index then .previous
  else if m.isError then .error
  else if ∃ e ∈ entries, e.state = m.index then .interesting
  else .uninteresting

/-- What is shown before a marker's place while its state's trace is `entries`. -/
def selectionGlyph (entries : List TraceEntry) (m : Marker) : Glyph :=
  if ∃ e ∈ entries, e.state = m.index ∧ e.visible = true then .label
  else if m.isError then .collapsed
  else .hidden

/-- A marker as a selection leaves it. -/
def inSelection (selected : Nat) (previous : Option Nat) (entries : List TraceEntry)
    (m : Marker) : Marker :=
  { m with
    colour := m.selectionColour selected previous entries
    glyph := m.selectionGlyph entries }

/-- The marker with another colour and another glyph. -/
def painted (paint : Colour × Glyph) (m : Marker) : Marker :=
  { m with colour := paint.1, glyph := paint.2 }

/-- An update of the marker of one state, for any marker. -/
def updateAt (state : Nat) (f : Marker → Marker) (m : Marker) : Marker :=
  if m.index = state then f m else m

/-- A trace as a single marker sees it. -/
def highlightAll (m : Marker) (entries : List TraceEntry) : Marker :=
  entries.foldl (fun m e => m.updateAt e.state (·.highlight e.visible)) m

/-- The updates at the start of a selection as a single marker sees them. -/
def select (selected : Nat) (previous : Option Nat) (m : Marker) : Marker :=
  let m := m.repaint.updateAt selected (·.requestColour .current)
  match previous with
  | none => m
  | some state => m.updateAt state (·.requestColour .previous)

@[simp] theorem index_requestColour {c : Colour} : (m.requestColour c).index = m.index := by
  unfold requestColour
  split <;> rfl

@[simp] theorem index_highlight {visible : Bool} : (m.highlight visible).index = m.index := by
  unfold highlight
  cases visible <;> simp [expand]

@[simp] theorem index_repaint : m.repaint.index = m.index := by
  unfold repaint
  dsimp only
  split <;> simp [hide, collapse]

theorem index_updateAt {state : Nat} {f : Marker → Marker} (hf : (f m).index = m.index) :
    (m.updateAt state f).index = m.index := by
  unfold updateAt
  split
  · exact hf
  · rfl

end Marker

namespace Board
variable {b : Board} {ms : List Marker} {state : Nat} {f : Marker → Marker}

theorem modifyLast_of_not_mem (h : state ∉ ms.map (·.index)) :
    modifyLast (·.index == state) f ms = ms := by
  induction ms with
  | nil => rfl
  | cons m ms ih =>
    simp only [List.map_cons, List.mem_cons, not_or] at h
    have hany : ms.any (·.index == state) = false := by simpa using h.2
    simp [modifyLast, hany, Ne.symm h.1]

/-- Without duplicates, the last marker of a state is the only one. -/
theorem modifyLast_eq_map (h : (ms.map (·.index)).Nodup) :
    modifyLast (·.index == state) f ms = ms.map (·.updateAt state f) := by
  induction ms with
  | nil => rfl
  | cons m ms ih =>
    obtain ⟨hm, hms⟩ := List.nodup_cons.mp h
    have htail := ih hms
    by_cases hs : m.index = state
    · subst hs
      have hany : ms.any (·.index == m.index) = false := by simpa using hm
      rw [modifyLast_of_not_mem hm] at htail
      rw [List.map_cons, ← htail]
      simp [modifyLast, hany, Marker.updateAt]
    · have hself : m.updateAt state f = m := if_neg hs
      by_cases hany : ms.any (·.index == state)
      · simp only [modifyLast, hany, if_true, List.map_cons, hself, htail]
      · have hnot : state ∉ ms.map (·.index) := by simpa using hany
        rw [modifyLast_of_not_mem hnot] at htail
        rw [List.map_cons, ← htail]
        simp [modifyLast, hany, hs, hself]

/-- No two markers are of one state. -/
def Distinct (b : Board) : Prop := (b.markers.map (·.index)).Nodup

theorem Distinct.of_map {b' : Board} (h : b.Distinct) (hb : b'.markers = b.markers.map f)
    (hf : ∀ m, (f m).index = m.index) : b'.Distinct := by
  have hcomp : (fun m : Marker => m.index) ∘ f = fun m => m.index := funext hf
  rw [Distinct, hb, List.map_map, hcomp]
  exact h

theorem modify_eq_map (state : Nat) (f : Marker → Marker) (h : b.Distinct) :
    b.modify state f = { b with markers := b.markers.map (·.updateAt state f) } := by
  rw [modify, modifyLast_eq_map h]

/-- The start of a selection, marker by marker. -/
theorem repaint_eq_map {selected : Nat} {previous : Option Nat} (h : b.Distinct) :
    b.repaint selected previous =
      { b with markers := b.markers.map (·.select selected previous) } := by
  have hrepaint : (b.modifyAll Marker.repaint).Distinct :=
    h.of_map rfl fun _ => Marker.index_repaint
  have hcurrent := modify_eq_map selected (·.requestColour .current) hrepaint
  cases previous with
  | none =>
    rw [repaint, hcurrent]
    simp [modifyAll, Marker.select, Function.comp_def]
  | some state =>
    have hdistinct : ((b.modifyAll Marker.repaint).modify selected
        (·.requestColour .current)).Distinct := by
      rw [hcurrent]
      exact hrepaint.of_map rfl fun _ => Marker.index_updateAt Marker.index_requestColour
    simp only [repaint]
    rw [modify_eq_map _ _ hdistinct, hcurrent]
    simp [modifyAll, Marker.select, Function.comp_def]

/-- A trace, marker by marker. -/
theorem highlight_eq_map {entries : List TraceEntry} (h : b.Distinct) :
    b.highlight entries = { b with markers := b.markers.map (·.highlightAll entries) } := by
  induction entries generalizing b with
  | nil => simp [highlight, Marker.highlightAll]
  | cons e entries ih =>
    have hmodify := modify_eq_map e.state (·.highlight e.visible) h
    have hdistinct : (b.modify e.state (·.highlight e.visible)).Distinct := by
      rw [hmodify]
      exact h.of_map rfl fun _ => Marker.index_updateAt Marker.index_highlight
    have htail := ih hdistinct
    rw [hmodify] at htail
    rw [highlight, List.foldl_cons, hmodify]
    simpa [highlight, Marker.highlightAll, Function.comp_def] using htail

end Board

namespace Marker
variable {m : Marker} {selected : Nat} {previous : Option Nat} {entries : List TraceEntry}

/-- What a trace makes of a marker. A colour that a first entry raises is not raised further, so
that order and repetition of the entries do not count. -/
theorem highlightAll_eq : m.highlightAll entries = { m with
    colour :=
      if (∃ e ∈ entries, e.state = m.index) ∧ m.colour.yieldsTo .interesting = true then
        .interesting
      else m.colour
    glyph := if ∃ e ∈ entries, e.state = m.index ∧ e.visible = true then .label else m.glyph } := by
  induction entries generalizing m with
  | nil => simp [highlightAll]
  | cons e entries ih =>
    have hcons : m.highlightAll (e :: entries) =
        (m.updateAt e.state (·.highlight e.visible)).highlightAll entries := rfl
    rw [hcons, ih]
    by_cases hs : m.index = e.state
    · rw [updateAt, if_pos hs]
      cases hv : e.visible <;> cases hc : m.colour <;>
        simp [highlight, requestColour, expand, hs, hv, hc, Colour.yieldsTo]
    · simp [updateAt, hs, Ne.symm hs]

theorem select_eq : m.select selected previous = { m with
    colour :=
      if m.index = selected then .current
      else if previous = some m.index then .previous
      else if m.isError then .error
      else .uninteresting
    glyph := if m.isError then .collapsed else .hidden } := by
  have hrepaint : m.repaint = { m with
      colour := if m.isError then .error else .uninteresting
      glyph := if m.isError then .collapsed else .hidden } := by
    unfold repaint
    cases he : m.isError <;> simp [requestColour, hide, collapse, Colour.yieldsTo, he]
  cases previous with
  | none =>
    simp only [select, hrepaint]
    by_cases hs : m.index = selected <;>
      cases m.isError <;> simp [updateAt, requestColour, Colour.yieldsTo, hs]
  | some p =>
    simp only [select, hrepaint]
    by_cases hp : m.index = p
    · subst hp
      by_cases hs : m.index = selected <;>
        cases m.isError <;> simp [updateAt, requestColour, Colour.yieldsTo, hs]
    · have hne : p ≠ m.index := Ne.symm hp
      by_cases hs : m.index = selected <;>
        cases m.isError <;> simp [updateAt, requestColour, Colour.yieldsTo, hs, hp, hne]

/-- A marker that is selected on its own ends in the colour and the glyph of the closed form. -/
theorem highlightAll_select : (m.select selected previous).highlightAll entries =
    m.inSelection selected previous entries := by
  rw [highlightAll_eq, select_eq, inSelection]
  by_cases hs : m.index = selected <;> by_cases hp : previous = some m.index <;>
    cases he : m.isError <;> by_cases ht : ∃ e ∈ entries, e.state = m.index <;>
    simp [selectionColour, selectionGlyph, Colour.yieldsTo, hs, hp, he, ht]

@[simp] theorem index_painted {paint : Colour × Glyph} : (m.painted paint).index = m.index := rfl

/-- Colour and glyph are those of the selection whatever they were before it, and depend on no
more of the trace than how it names the marker's state. -/
theorem inSelection_painted {paint : Colour × Glyph} {entries' : List TraceEntry}
    (h : ∀ v, (∃ e ∈ entries', e.state = m.index ∧ e.visible = v) ↔
      ∃ e ∈ entries, e.state = m.index ∧ e.visible = v) :
    (m.painted paint).inSelection selected previous entries' =
      m.inSelection selected previous entries := by
  have named : (∃ e ∈ entries', e.state = m.index) ↔ ∃ e ∈ entries, e.state = m.index := by
    constructor
    · rintro ⟨e, he, hs⟩
      obtain ⟨e', he', hs', -⟩ := (h e.visible).mp ⟨e, he, hs, rfl⟩
      exact ⟨e', he', hs'⟩
    · rintro ⟨e, he, hs⟩
      obtain ⟨e', he', hs', -⟩ := (h e.visible).mpr ⟨e, he, hs, rfl⟩
      exact ⟨e', he', hs'⟩
  have hcolour : (m.painted paint).selectionColour selected previous entries' =
      m.selectionColour selected previous entries :=
    if_congr .rfl rfl (if_congr .rfl rfl (if_congr .rfl rfl (if_congr named rfl rfl)))
  have hglyph : (m.painted paint).selectionGlyph entries' = m.selectionGlyph entries :=
    if_congr (h true) rfl rfl
  rw [inSelection, hcolour, hglyph]
  rfl

end Marker

namespace Board
variable {b : Board} {paint : Nat → Colour × Glyph} {state : Nat}

/-- The board with other colours and other glyphs. -/
def painted (paint : Nat → Colour × Glyph) (b : Board) : Board :=
  { b with markers := b.markers.map fun m => m.painted (paint m.index) }

theorem map_index_painted : (b.painted paint).markers.map (·.index) = b.markers.map (·.index) := by
  simp [painted, Function.comp_def]

theorem get?_isSome_iff : (b.get? state).isSome = true ↔ state ∈ b.markers.map (·.index) := by
  simp [get?]

theorem modify_of_get?_eq_none (h : b.get? state = none) (f : Marker → Marker) :
    b.modify state f = b := by
  have hnot : state ∉ b.markers.map (·.index) := by
    rw [← get?_isSome_iff, h]
    exact Bool.false_ne_true
  rw [modify, modifyLast_of_not_mem hnot]

end Board

namespace Session
variable {s : Session} {selected : Nat}

/-- Marking a state is the selection of the closed form, with the number of a trace request used
up. -/
theorem mark_eq (tracer : Nat → List TraceEntry) (shown : s.shown = true)
    (distinct : s.board.Distinct) (present : (s.board.get? selected).isSome = true) :
    s.mark selected tracer = (true, { s with
      board := { s.board with
        markers := s.board.markers.map
          (·.inSelection selected s.selection.previous (tracer selected)) }
      selection := ⟨some selected, some selected⟩
      ids := (s.ids.requestTrace s.uri selected).2 }) := by
  have hrepaint : (s.board.repaint selected s.selection.previous).Distinct := by
    rw [Board.repaint_eq_map distinct]
    refine distinct.of_map rfl fun m => ?_
    rw [Marker.select_eq]
  simp only [mark, beginMark, shown, present, and_self, if_true, applyTrace]
  rw [Board.highlight_eq_map hrepaint, Board.repaint_eq_map distinct]
  simp [RequestIds.wantsTrace, RequestIds.requestTrace, Function.comp_def,
    Marker.highlightAll_select]

/-- Marking a state colours each marker by what its own state is to the selection, the strongest
first, and shows the states of the trace. Neither what the markers looked like before nor the order
of the trace, what it repeats and what it says of unknown states makes a difference. -/
theorem mark_shows_selection (s : Session) (selected : Nat) (tracer : Nat → List TraceEntry)
    (shown : s.shown = true) (distinct : (s.board.markers.map (·.index)).Nodup)
    (present : (s.board.get? selected).isSome = true) :
    s.mark selected tracer = (true, { s with
      board := { s.board with
        markers := s.board.markers.map
          (·.inSelection selected s.selection.previous (tracer selected)) }
      selection := ⟨some selected, some selected⟩
      ids := (s.ids.requestTrace s.uri selected).2 }) ∧
    ∀ (paint : Nat → Colour × Glyph) (entries : List TraceEntry),
      (∀ m ∈ s.board.markers, ∀ v,
        (∃ e ∈ entries, e.state = m.index ∧ e.visible = v) ↔
          ∃ e ∈ tracer selected, e.state = m.index ∧ e.visible = v) →
      { s with board := s.board.painted paint }.mark selected (fun _ => entries) =
        s.mark selected tracer := by
  refine ⟨mark_eq tracer shown distinct present, ?_⟩
  intro paint entries hsame
  have hdistinct : (s.board.painted paint).Distinct := by
    rw [Board.Distinct, Board.map_index_painted]
    exact distinct
  have hpresent : ((s.board.painted paint).get? selected).isSome = true := by
    rw [Board.get?_isSome_iff] at present ⊢
    rwa [Board.map_index_painted]
  have hpainted := mark_eq (s := { s with board := s.board.painted paint }) (fun _ => entries)
    shown hdistinct hpresent
  have hmarkers : (s.board.painted paint).markers.map
      (·.inSelection selected s.selection.previous entries) =
      s.board.markers.map (·.inSelection selected s.selection.previous (tracer selected)) := by
    rw [Board.painted, List.map_map]
    apply List.map_congr_left
    intro m hm
    exact Marker.inSelection_painted (hsame m hm)
  rw [hpainted, hmarkers, mark_eq tracer shown distinct present]
  rfl

/-- One state is selected and an error, one was selected and is in the trace, one is an error and in
the trace; the trace comes out of order, twice over and with a state that is not on the board. -/
theorem mark_shows_selection_of_overlapping :
    let error (index : Nat) : Marker := { Marker.plain index ⟨0, 0⟩ with isError := true }
    let s : Session := { ofUri "d" with
      board := .ofMarkers [.plain 0 ⟨0, 0⟩, .plain 1 ⟨0, 0⟩, error 2, error 3, .plain 4 ⟨0, 0⟩]
      selection := ⟨none, some 1⟩
      shown := true }
    let trace : List TraceEntry := [⟨0, .interesting, false⟩, ⟨1, .interesting, true⟩,
      ⟨2, .interesting, false⟩]
    let scrambled : List TraceEntry := [⟨2, .interesting, false⟩, ⟨9, .interesting, true⟩,
      ⟨1, .interesting, true⟩, ⟨0, .interesting, false⟩, ⟨2, .current, false⟩]
    (s.mark 3 fun _ => trace).2.board.markers.map (fun m => (m.colour, m.glyph)) =
      [(.interesting, .hidden), (.previous, .label), (.error, .collapsed), (.current, .collapsed),
        (.uninteresting, .hidden)] ∧
    { s with board := s.board.painted fun _ => (.current, .label) }.mark 3 (fun _ => scrambled) =
      s.mark 3 fun _ => trace := by
  intro error s trace scrambled
  obtain ⟨hmark, hsame⟩ :=
    mark_shows_selection s 3 (fun _ => trace) rfl (by decide) (by decide)
  refine ⟨?_, hsame (fun _ => (.current, .label)) scrambled (by decide)⟩
  rw [hmark]
  decide

end Session

end Waymark
