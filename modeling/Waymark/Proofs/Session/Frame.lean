import Waymark.Proofs.Marker.Layout
import Waymark.Session.Pinning
import Waymark.Session.Selecting

/-! What a session keeps whatever is done with it: its document and its guard. Its anchors only move
ranges, and selections leave the anchors alone. -/

namespace Waymark

namespace Anchor
variable {ε : Type} [Editor ε] {op : Operation} {batch : EditBatch} {guard : Guard}
  {board : Board} {e : ε}

theorem map_unplaced_edit : (edit op batch board e).board.markers.map Board.unplaced =
    board.markers.map Board.unplaced := by
  unfold edit
  split
  · rfl
  · rfl
  · dsimp only
    split <;> exact Board.map_unplaced_setAnchored _

theorem map_unplaced_attempt : (attempt op guard board e).2.board.markers.map Board.unplaced =
    board.markers.map Board.unplaced := by
  unfold attempt
  split
  · rfl
  · cases op with
    | add =>
      dsimp only [insert]
      split
      · rfl
      · exact map_unplaced_edit
    | remove =>
      dsimp only [delete]
      split
      · exact Board.map_unplaced_setAnchored _
      · exact map_unplaced_edit

/-- Whoever is let in gives the guard back as it was. -/
theorem guard_attempt : (attempt op guard board e).1 = guard := by
  unfold attempt
  split
  · rfl
  · next h => exact Guard.finish_of_begin? h

end Anchor

/-- A machine as it was, or after a heap was rendered into one of the slots of a directory. -/
def Host.Rendered (dir : Path) (h h' : Host) : Prop :=
  h' = h ∨ ∃ (r : Renderer) (slot : Slot) (description : String),
    h' = (r.writeAndRender h dir slot.index description).2

namespace Session
variable {ε : Type} [Editor ε] {s s' s'' : Session} {e : ε}

/-- An attempt at the anchors changes the board only, and there only ranges. -/
theorem session_attempt (op : Anchor.Operation) (s : Session) (e : ε) :
    ∃ board, (s.attempt op e).session = { s with board } ∧
      board.markers.map Board.unplaced = s.board.markers.map Board.unplaced := by
  unfold attempt
  split
  · refine ⟨(Anchor.attempt op s.guard s.board e).2.board, ?_, Anchor.map_unplaced_attempt⟩
    simp only [Anchor.guard_attempt]
  · exact ⟨s.board, rfl, rfl⟩

theorem session_showStates (s : Session) (e : ε) :
    ∃ board shown, (s.showStates e).session = { s with board, shown } ∧
      board.markers.map Board.unplaced = s.board.markers.map Board.unplaced := by
  obtain ⟨board, hremove, hboard⟩ := session_attempt .remove s e
  change (s.removeMarkers e).session = _ at hremove
  unfold showStates
  split
  · next heq =>
    rw [heq] at hremove
    exact ⟨board, s.shown, hremove, hboard⟩
  · next heq =>
    rw [heq] at hremove
    exact ⟨board, s.shown, hremove, hboard⟩
  · next removed e' _ heq =>
    rw [heq] at hremove
    obtain rfl : removed = { s with board } := hremove
    obtain ⟨board', hadd, hboard'⟩ := session_attempt .add { s with board } e'
    change (Session.addMarkers _ e').session = _ at hadd
    split
    · next heq' =>
      rw [heq'] at hadd
      exact ⟨board', s.shown, hadd, hboard'.trans hboard⟩
    · next heq' =>
      rw [heq'] at hadd
      exact ⟨board', true, congrArg (fun t : Session => { t with shown := true }) hadd,
        hboard'.trans hboard⟩

theorem heaps_showStates (s : Session) (e : ε) : (s.showStates e).session.heaps = s.heaps := by
  obtain ⟨board, shown, hsession, -⟩ := session_showStates s e
  rw [hsession]

theorem heaps_beginMark (s : Session) (selected : Nat) :
    (s.beginMark selected).2.heaps = s.heaps := by
  unfold beginMark
  split <;> rfl

theorem heaps_applyTrace (s : Session) (trace : TraceReply) :
    (s.applyTrace trace).2.heaps = s.heaps := by
  unfold applyTrace
  split <;> rfl

/-- Sessions of one document between two attempts at its anchors. -/
structure SameDocument (s s' : Session) : Prop where
  uri : s'.uri = s.uri
  guard : s'.guard = s.guard

theorem SameDocument.refl (s : Session) : SameDocument s s := ⟨rfl, rfl⟩

theorem SameDocument.trans (h : SameDocument s s') (h' : SameDocument s' s'') :
    SameDocument s s'' :=
  ⟨h'.uri.trans h.uri, h'.guard.trans h.guard⟩

theorem sameDocument_attempt (op : Anchor.Operation) (s : Session) (e : ε) :
    SameDocument s (s.attempt op e).session := by
  obtain ⟨board, h, -⟩ := session_attempt op s e
  rw [h]
  exact ⟨rfl, rfl⟩

theorem sameDocument_showStates (s : Session) (e : ε) :
    SameDocument s (s.showStates e).session := by
  obtain ⟨board, shown, h, -⟩ := session_showStates s e
  rw [h]
  exact ⟨rfl, rfl⟩

theorem sameDocument_storeSnapshot {snapshot : Snapshot} (h : s.storeSnapshot snapshot = .ok s') :
    SameDocument s s' := by
  unfold storeSnapshot at h
  split at h
  · obtain rfl := Except.ok.inj h
    exact ⟨rfl, rfl⟩
  · cases h

theorem sameDocument_beginMark (s : Session) (selected : Nat) :
    SameDocument s (s.beginMark selected).2 := by
  unfold beginMark
  split <;> exact ⟨rfl, rfl⟩

theorem sameDocument_applyTrace (s : Session) (trace : TraceReply) :
    SameDocument s (s.applyTrace trace).2 := by
  unfold applyTrace
  split <;> exact ⟨rfl, rfl⟩

theorem sameDocument_onPosition (s : Session) (p : Position) (mode : Mode) :
    SameDocument s (s.onPosition p mode).2 := by
  unfold onPosition
  split
  · split
    · exact .refl s
    · unfold onMarker
      split <;> split <;> exact ⟨rfl, rfl⟩
  · exact .refl s

/-- A heap graph is either passed over, or a slot is filled with it and its state is marked. -/
theorem acceptHeap_cases (s : Session) (graph : HeapGraph) (settings : Settings) (r : Renderer)
    (h : Host) :
    (s.acceptHeap graph settings r h).2.1 = s ∧
      (∀ request, (s.acceptHeap graph settings r h).1 ≠ .ok (some request)) ∨
    ∃ slot heap, graph.uri = s.uri ∧ s.wants? graph settings.mode = some slot ∧
      (s.acceptHeap graph settings r h).1 =
        .ok ({ s with heaps := s.heaps.store slot heap }.beginMark graph.state).1 ∧
      (s.acceptHeap graph settings r h).2.1 =
        ({ s with heaps := s.heaps.store slot heap }.beginMark graph.state).2 := by
  unfold acceptHeap
  split
  · next huri =>
    split
    · exact .inl ⟨rfl, by simp⟩
    · next slot hslot =>
      split
      · exact .inl ⟨rfl, by simp⟩
      · next svg _ _ =>
        exact .inr ⟨slot, ⟨graph.state, svg, graph.method, graph.position⟩, huri, hslot, rfl, rfl⟩
  · exact .inl ⟨rfl, by simp⟩

theorem sameDocument_acceptHeap (s : Session) (graph : HeapGraph) (settings : Settings)
    (r : Renderer) (h : Host) : SameDocument s (s.acceptHeap graph settings r h).2.1 := by
  obtain ⟨hsession, -⟩ | ⟨slot, heap, -, -, -, hsession⟩ := acceptHeap_cases s graph settings r h
  · rw [hsession]
    exact .refl s
  · rw [hsession]
    have hstored : SameDocument s { s with heaps := s.heaps.store slot heap } := ⟨rfl, rfl⟩
    exact hstored.trans (sameDocument_beginMark _ graph.state)

theorem rendered_acceptHeap (s : Session) (graph : HeapGraph) (settings : Settings) (r : Renderer)
    (h : Host) : Host.Rendered settings.heapDirectory h
      (s.acceptHeap graph settings r h).2.2 := by
  unfold acceptHeap
  split
  · split
    · exact .inl rfl
    · next slot _ =>
      refine .inr ⟨r, slot, graph.heap, ?_⟩
      split <;> next heq => rw [heq]
  · exact .inl rfl

end Session

end Waymark
