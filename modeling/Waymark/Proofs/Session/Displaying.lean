import Waymark.Proofs.Server.Reaching
import Waymark.Proofs.Session.Correlation
import Waymark.Proofs.Session.Selection
import Waymark.Proofs.Trace.Highlights

/-! The heap on display and the marker that stands out. A heap that is taken comes on display
together with its state's selection, and what comes between two such heaps changes neither. -/

namespace Waymark

namespace StepGraph
variable {g : StepGraph} {s : Step} {state : Nat}

/-- A selected state is highlighted itself. -/
theorem mem_trace_self (mode : Mode) (h : g.stepOfState? state = some s) :
    ⟨state, .interesting, true⟩ ∈ g.trace mode state := by
  obtain ⟨hmem, hdecoration⟩ := mem_of_stepOfState? h
  have hwalk : ∃ rest, g.walk s = s :: rest := by
    have hsize : g.size ≠ 0 := by
      have := index_lt_size hmem
      omega
    obtain ⟨limit, hlimit⟩ := Nat.exists_eq_succ_of_ne_zero hsize
    rw [walk, hlimit]
    exact ⟨_, rfl⟩
  obtain ⟨rest, hwalk⟩ := hwalk
  have hpath : ⟨state, .interesting, true⟩ ∈ g.path s := by
    simp [path, hwalk, staircase, entries, hdecoration]
  unfold trace
  rw [h]
  cases mode with
  | simple => exact hpath
  | advanced => exact List.mem_append_right _ hpath

end StepGraph

namespace Marker
variable {m : Marker} {visible : Bool}

theorem colour_repaint_ne_current : m.repaint.colour ≠ .current := by
  unfold repaint
  cases h : m.isError <;> simp [requestColour, hide, collapse, Colour.yieldsTo, h]

/-- Only a request for the colour of the selection gives or takes it. -/
theorem requestColour_previous_current :
    (m.requestColour .previous).colour = .current ↔ m.colour = .current := by
  unfold requestColour
  cases h : m.colour <;> simp [Colour.yieldsTo, h]

theorem highlight_current :
    (m.highlight visible).colour = .current ↔ m.colour = .current := by
  cases visible <;> cases h : m.colour <;>
    simp [highlight, expand, requestColour, Colour.yieldsTo, h]

end Marker

namespace Board
variable {b b' : Board} {ms : List Marker} {m : Marker} {p : Marker → Bool}
  {f : Marker → Marker} {state selected : Nat} {previous : Option Nat} {entries : List TraceEntry}

theorem find?_reverse_cons : (m :: ms).reverse.find? p =
    (ms.reverse.find? p).or (if p m then some m else none) := by
  rw [List.reverse_cons, List.find?_append]
  cases hp : p m <;> simp [hp]

theorem isSome_find?_reverse : (ms.reverse.find? p).isSome = ms.any p := by
  rw [Bool.eq_iff_iff, List.find?_isSome, List.any_eq_true]
  simp only [List.mem_reverse]

/-- The last marker of a state is found after a change like before it, changed if it is meant. -/
theorem get?_modify (state t : Nat) (hf : ∀ m, (f m).index = m.index) :
    (b.modify t f).get? state = (b.get? state).map (·.updateAt t f) := by
  obtain ⟨ms, anchored⟩ := b
  simp only [modify, get?]
  induction ms with
  | nil => rfl
  | cons m ms ih =>
    unfold modifyLast
    rw [find?_reverse_cons]
    by_cases hany : ms.any (·.index == t)
    · rw [if_pos hany, find?_reverse_cons, ih]
      cases hfind : ms.reverse.find? (·.index == state) with
      | some m' => rfl
      | none =>
        -- The change is further down, so it does not meet this marker.
        have hne : state ≠ t := by
          rintro rfl
          rw [← isSome_find?_reverse, hfind] at hany
          cases hany
        by_cases hm : m.index = state <;> simp [Marker.updateAt, hm, hne]
    · rw [if_neg hany]
      have hrest : ∀ m' ∈ ms.reverse.find? (·.index == state), m'.updateAt t f = m' := by
        intro m' hm'
        have hmem : m' ∈ ms := List.mem_reverse.mp (List.mem_of_find?_eq_some hm')
        have hindex : m'.index ≠ t := by
          rintro heq
          exact hany (List.any_eq_true.mpr ⟨m', hmem, by simp [heq]⟩)
        exact if_neg hindex
      split <;> rw [find?_reverse_cons]
      all_goals
        cases hfind : ms.reverse.find? (·.index == state) with
        | some m' => simp [hrest m' hfind]
        | none => by_cases hm : m.index = state <;> simp_all [Marker.updateAt]

theorem get?_modifyAll (hf : ∀ m, (f m).index = m.index) :
    (b.modifyAll f).get? state = (b.get? state).map f := by
  have hindex : ((fun m : Marker => m.index == state) ∘ f) = fun m => m.index == state :=
    funext fun m => congrArg (· == state) (hf m)
  rw [get?, modifyAll, ← List.map_reverse, List.find?_map, hindex]
  rfl

theorem get?_repaint : (b.repaint selected previous).get? state =
    (b.get? state).map (·.select selected previous) := by
  have hcurrent := get?_modify (b := b.modifyAll Marker.repaint) state selected
    fun m => Marker.index_requestColour (m := m) (c := .current)
  rw [get?_modifyAll fun _ => Marker.index_repaint, Option.map_map] at hcurrent
  cases previous with
  | none => exact hcurrent
  | some t =>
    have hprevious := get?_modify (b := (b.modifyAll Marker.repaint).modify selected
      (·.requestColour .current)) state t
      fun m => Marker.index_requestColour (m := m) (c := .previous)
    rw [hcurrent, Option.map_map] at hprevious
    exact hprevious

theorem get?_highlight :
    (b.highlight entries).get? state = (b.get? state).map (·.highlightAll entries) := by
  induction entries generalizing b with
  | nil => simp [highlight, Marker.highlightAll]
  | cons e entries ih =>
    have hmodify := get?_modify (b := b) state e.state
      fun m => @Marker.index_highlight m e.visible
    have htail := ih (b := b.modify e.state (·.highlight e.visible))
    rw [hmodify, Option.map_map] at htail
    exact htail

/-- The number of markers in the colour of the selection. -/
def currents (b : Board) : Nat := b.markers.countP (·.colour = .current)

theorem currents_eq_of_map {g : Marker → Marker}
    (hg : ∀ m, (g m).colour = .current ↔ m.colour = .current)
    (h : b'.markers.map g = b.markers.map g) : b'.currents = b.currents := by
  have hmap : ∀ ms : List Marker, ms.countP (·.colour = .current) =
      (ms.map g).countP (·.colour = .current) := by
    intro ms
    rw [List.countP_map]
    exact List.countP_congr fun m _ => by simp [hg]
  rw [currents, currents, hmap b'.markers, hmap b.markers, h]

theorem currents_modify (t : Nat) (hf : ∀ m, (f m).colour = .current ↔ m.colour = .current) :
    (b.modify t f).currents = b.currents := by
  obtain ⟨ms, anchored⟩ := b
  simp only [modify, currents]
  induction ms with
  | nil => rfl
  | cons m ms ih =>
    unfold modifyLast
    split
    · simp only [List.countP_cons, ih]
    · split
      · simp only [List.countP_cons, hf]
      · rfl

/-- On a board where nothing is selected, one marker comes to be selected. -/
theorem currents_select (hnone : b.currents = 0) (hsome : (b.get? selected).isSome = true) :
    (b.modify selected (·.requestColour .current)).currents = 1 := by
  obtain ⟨ms, anchored⟩ := b
  simp only [modify, currents, get?, isSome_find?_reverse] at hnone hsome ⊢
  induction ms with
  | nil => cases hsome
  | cons m ms ih =>
    obtain ⟨hms, hm⟩ : ms.countP (·.colour = .current) = 0 ∧ m.colour ≠ .current := by
      rw [List.countP_cons] at hnone
      split at hnone <;> simp_all
    unfold modifyLast
    split
    · next hany => simp [ih hms hany, hm]
    · next hany =>
      have hself : (m.index == selected) = true := by simpa [hany] using hsome
      have hcolour : (m.requestColour .current).colour = .current := by
        simp [Marker.requestColour, Colour.yieldsTo]
      rw [if_pos hself, List.countP_cons, hms, hcolour]
      rfl

theorem currents_repaint (h : (b.get? selected).isSome = true) :
    (b.repaint selected previous).currents = 1 := by
  have hstart : (b.modifyAll Marker.repaint).currents = 0 := by
    simp [currents, modifyAll, Marker.colour_repaint_ne_current]
  have hsome : ((b.modifyAll Marker.repaint).get? selected).isSome = true := by
    rwa [get?_modifyAll fun _ => Marker.index_repaint, Option.isSome_map]
  have hcurrent := currents_select hstart hsome
  cases previous with
  | none => exact hcurrent
  | some t =>
    exact (currents_modify t fun _ => Marker.requestColour_previous_current).trans hcurrent

theorem currents_highlight : (b.highlight entries).currents = b.currents := by
  induction entries generalizing b with
  | nil => rfl
  | cons e entries ih => exact ih.trans (currents_modify _ fun _ => Marker.highlight_current)

/-- The marker of a state shows its label in the colour of the selection, and no other marker has
that colour. -/
def Marks (b : Board) (state : Nat) : Prop :=
  b.currents = 1 ∧ ∃ m, b.get? state = some m ∧ m.colour = .current ∧ m.glyph = .label

/-- A state is marked by its selection if its trace shows it. -/
theorem marks_of_selection (hsome : (b.get? selected).isSome = true)
    (hentry : ∃ e ∈ entries, e.state = selected ∧ e.visible = true) :
    ((b.repaint selected previous).highlight entries).Marks selected := by
  refine ⟨currents_highlight.trans (currents_repaint hsome), ?_⟩
  obtain ⟨m, hm⟩ := Option.isSome_iff_exists.mp hsome
  have hindex : m.index = selected := by simpa using List.find?_some hm
  refine ⟨_, by rw [get?_highlight, get?_repaint, hm]; rfl, ?_, ?_⟩
  · simp [Marker.highlightAll_select, Marker.inSelection, Marker.selectionColour, hindex]
  · simp only [Marker.highlightAll_select, Marker.inSelection, Marker.selectionGlyph, hindex,
      if_pos hentry]

theorem Marks.of_map_unplaced (h : b.Marks state)
    (hmap : b'.markers.map unplaced = b.markers.map unplaced) : b'.Marks state := by
  obtain ⟨hcurrents, m, hm, hcolour, hglyph⟩ := h
  refine ⟨(currents_eq_of_map (g := unplaced) (fun _ => .rfl) hmap).trans hcurrents, ?_⟩
  have hget : ∀ c : Board, (c.get? state).map unplaced =
      (c.markers.map unplaced).reverse.find? (·.index == state) := by
    intro c
    rw [← List.map_reverse, List.find?_map]
    rfl
  have hsame := (hget b').trans (hmap ▸ (hget b).symm)
  rw [hm] at hsame
  obtain ⟨m', hm', heq⟩ := Option.map_eq_some_iff.mp hsame
  exact ⟨m', hm', (congrArg Marker.colour heq).trans hcolour,
    (congrArg Marker.glyph heq).trans hglyph⟩

/-- The marker that stands out is the only one in its colour. -/
theorem Marks.exists_filter (h : b.Marks state) : ∃ m, b.get? state = some m ∧
    m.colour = .current ∧ m.renderedText = m.label ∧
    b.markers.filter (·.colour = .current) = [m] := by
  obtain ⟨hcurrents, m, hm, hcolour, hglyph⟩ := h
  refine ⟨m, hm, hcolour, by simp [Marker.renderedText, hglyph], ?_⟩
  rw [currents, List.countP_eq_length_filter, List.length_eq_one_iff] at hcurrents
  obtain ⟨m', hm'⟩ := hcurrents
  have hmem : m ∈ b.markers.filter (·.colour = .current) := by
    have hmarkers : m ∈ b.markers := List.mem_reverse.mp (List.mem_of_find?_eq_some hm)
    simp [hmarkers, hcolour]
  rw [hm'] at hmem ⊢
  rw [List.mem_singleton.mp hmem]

end Board

@[simp] theorem HeapSlots.focused_discardPending {h : HeapSlots} :
    h.discardPending.focused = h.focused := by
  obtain ⟨first, second, next, focus⟩ := h
  cases focus <;> rfl

namespace Session
variable {s s' : Session} {request : Request}

/-- The heap of a state is on display, and the state is selected. -/
structure Shows (s : Session) (state : Nat) : Prop where
  current : s.selection.current = some state
  focused : ∃ heap, s.heaps.focused = some heap ∧ heap.state = state

/-- What is on display and what stands out belong together. -/
structure Coherent (s : Session) : Prop where
  marked : ∀ heap, s.heaps.focused = some heap → s.board.Marks heap.state
  /-- The one state whose heap may be turned down because it was selected before has its heap on
  display. -/
  previous : ∀ state, s.selection.previous = some state →
    ∃ heap, s.heaps.focused = some heap ∧ heap.state = state

/-- What becomes of a session when a heap graph is taken together with the trace of its state. -/
structure Taken (s s' : Session) (state : Nat) : Prop extends Shows s' state where
  previous : s'.selection.previous = some state
  known : (s.board.get? state).isSome = true
  board : ∃ entries : List TraceEntry, (∃ e ∈ entries, e.state = state ∧ e.visible = true) ∧
    s'.board = (s.board.repaint state s.selection.previous).highlight entries

/-- Only a heap of a state that has a marker, on a board that is shown, is wanted. -/
theorem trace_of_heapGraph? {runs : Runs} {wanted : HeapRequest} {graph : HeapGraph}
    (hgraph : runs.heapGraph? wanted = some graph) (id : Nat) (mode : Mode) :
    ∃ e ∈ (runs.trace ⟨id, graph.uri, graph.state⟩ mode).entries,
      e.state = graph.state ∧ e.visible = true := by
  unfold Runs.heapGraph? at hgraph
  cases hrun : runs.get? wanted.uri with
  | none => simp [hrun] at hgraph
  | some g =>
    rw [hrun] at hgraph
    obtain ⟨step, hstep, rfl⟩ := Option.map_eq_some_iff.mp hgraph
    refine ⟨⟨wanted.state, .interesting, true⟩, ?_, rfl, rfl⟩
    simp only [Runs.trace, hrun]
    exact StepGraph.mem_trace_self mode hstep

/-- A heap graph from a document's run is taken with the trace of its state, or passed over. -/
theorem answer_cases {runs : Runs} {wanted : HeapRequest} {graph : HeapGraph} (s : Session)
    (settings : Settings) (r : Renderer) (h : Host) (hgraph : runs.heapGraph? wanted = some graph) :
    s.Taken (s.answer runs graph settings r h) graph.state ∨
      s.answer runs graph settings r h = s ∧
        ((∃ e, (s.acceptHeap graph settings r h).1 = .error e) ∨
          (s.acceptHeap graph settings r h).1 = .ok none ∧
            s.wants? graph settings.mode = none) := by
  by_cases huri : graph.uri = s.uri
  · cases hwants : s.wants? graph settings.mode with
    | none => exact .inr (by simp [answer, acceptHeap, huri, hwants])
    | some slot =>
      obtain ⟨hwanted, -⟩ := wants?_eq_some_iff.mp hwants
      have hshown : s.shown = true := hwanted.shown
      have hknown : (s.board.get? graph.state).isSome = true := isSome_get?_iff.mpr hwanted.onBoard
      cases hrender : r.writeAndRender h settings.heapDirectory slot.index
        graph.heap with
      | mk result host =>
        cases result with
        | error e => exact .inr (by simp [answer, acceptHeap, huri, hwants, hrender])
        | ok svg =>
          refine .inl ?_
          have hentry := trace_of_heapGraph? hgraph (s.ids.last + 1) settings.mode
          rw [huri] at hentry
          have hanswer : s.answer runs graph settings r h =
              { s with
                heaps := s.heaps.store slot ⟨graph.state, svg, graph.method, graph.position⟩
                board := (s.board.repaint graph.state s.selection.previous).highlight
                  (runs.trace ⟨s.ids.last + 1, s.uri, graph.state⟩ settings.mode).entries
                selection := ⟨some graph.state, some graph.state⟩
                ids := (s.ids.requestTrace s.uri graph.state).2 } := by
            simp [answer, acceptHeap, huri, hwants, hrender, beginMark, hshown, hknown, applyTrace,
              RequestIds.requestTrace, RequestIds.wantsTrace, Runs.trace]
          rw [hanswer]
          exact {
            current := rfl
            focused := ⟨_, HeapSlots.focused_store, rfl⟩
            previous := rfl
            known := hknown
            board := ⟨_, hentry, rfl⟩ }
  · exact .inr (by simp [answer, acceptHeap, huri])

theorem Taken.coherent {state : Nat} (h : s.Taken s' state) : s'.Coherent := by
  obtain ⟨heap, hfocused, rfl⟩ := h.focused
  obtain ⟨entries, hentry, hboard⟩ := h.board
  constructor
  · intro heap' hfocused'
    obtain rfl := Option.some.inj (hfocused.symm.trans hfocused')
    rw [hboard]
    exact Board.marks_of_selection h.known hentry
  · intro state hprevious
    obtain rfl := Option.some.inj (h.previous.symm.trans hprevious)
    exact ⟨heap, hfocused, rfl⟩

/-- Display and markers still agree when neither has changed. -/
theorem Coherent.of_same (h : s.Coherent) (hfocused : s'.heaps.focused = s.heaps.focused)
    (hprevious : ∀ state, s'.selection.previous = some state → s.selection.previous = some state)
    (hboard : s'.board.markers.map Board.unplaced = s.board.markers.map Board.unplaced) :
    s'.Coherent where
  marked heap hheap := (h.marked heap (hfocused ▸ hheap)).of_map_unplaced hboard
  previous state hstate := hfocused ▸ h.previous state (hprevious state hstate)

/-- With a new snapshot nothing is selected and nothing is on display. -/
theorem clear_of_storeSnapshot {snapshot : Snapshot} (h : s.storeSnapshot snapshot = .ok s') :
    s'.selection = .none ∧ s'.heaps = .empty := by
  unfold storeSnapshot at h
  split at h
  · obtain rfl := Except.ok.inj h
    exact ⟨rfl, rfl⟩
  · cases h

theorem coherent_of_clear (hselection : s.selection = .none) (hheaps : s.heaps = .empty) :
    s.Coherent := by
  constructor
  · intro heap hheap
    rw [hheaps] at hheap
    cases hheap
  · intro state hprevious
    rw [hselection] at hprevious
    cases hprevious

/-- The cursor is passed over, it asks for the heap on display, or it asks for the heap of a marker
and may select it. -/
theorem onPosition_cases (s : Session) (p : Position) (mode : Mode) :
    s.onPosition p mode = (.ignored, s) ∨
    (∃ m, s.board.atPosition? p = some m ∧ s.selection.current = some m.index ∧
      s.onPosition p mode = (.redisplay, { s with
        selection := { s.selection with previous := none }
        heaps := s.heaps.discardPending })) ∨
    ∃ m current, s.board.atPosition? p = some m ∧ s.shown = true ∧
      (current = s.selection.current ∨
        current = some m.index ∧ s.selection.current ≠ some m.index) ∧
      s.onPosition p mode = (.requestHeap (s.requestHeap m.index).1,
        { (s.requestHeap m.index).2 with selection := { s.selection with current } }) := by
  unfold onPosition
  split
  · next hready =>
    split
    · exact .inl rfl
    · next m hm =>
      unfold onMarker
      cases mode with
      | simple =>
        dsimp only
        split
        · exact .inr (.inr ⟨m, _, hm, hready.1, .inl rfl, rfl⟩)
        · exact .inl rfl
      | advanced =>
        dsimp only
        split
        · next hcurrent => exact .inr (.inl ⟨m, hm, hcurrent, rfl⟩)
        · next hcurrent =>
          exact .inr (.inr ⟨m, _, hm, hready.1, .inr ⟨rfl, hcurrent⟩, rfl⟩)
  · exact .inl rfl

theorem coherent_onPosition (h : s.Coherent) (p : Position) (mode : Mode) :
    (s.onPosition p mode).2.Coherent := by
  obtain haction | ⟨m, -, -, haction⟩ | ⟨m, current, -, -, -, haction⟩ := s.onPosition_cases p mode
  · rwa [haction]
  · rw [haction]
    exact h.of_same HeapSlots.focused_discardPending (fun _ hnone => nomatch hnone) rfl
  · rw [haction]
    exact h.of_same rfl (fun _ => id) rfl

theorem coherent_turn (hturn : s.Turn request s') (h : s.Coherent) : s'.Coherent := by
  cases hturn with
  | stored _ hstored =>
    obtain ⟨hselection, hheaps⟩ := clear_of_storeSnapshot hstored
    exact coherent_of_clear hselection hheaps
  | placed hboard => exact h.of_same rfl (fun _ => id) hboard
  | asked state => exact h.of_same rfl (fun _ => id) rfl
  | pointed mode _ => exact coherent_onPosition h _ mode
  | answered hgraph =>
    obtain htaken | ⟨hsame, -⟩ := answer_cases s _ _ _ hgraph
    · exact htaken.coherent
    · rwa [hsame]

end Session

end Waymark
