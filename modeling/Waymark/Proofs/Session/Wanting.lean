import Waymark.Proofs.Session.Selection

/-! Which heap graphs a session wants, and the slots for them. -/

namespace Waymark.Session
variable {s : Session} {graph : HeapGraph} {mode : Mode} {slot : Slot}

/-- A heap graph of the session's document is wanted: it answers the latest request while the states
are shown, says something of a state on the board, and in advanced mode not of the one selected
last. -/
structure Wants (s : Session) (graph : HeapGraph) (mode : Mode) : Prop where
  latest : s.ids.latestHeap = some graph.requestId
  shown : s.shown = true
  described : graph.heap ≠ ""
  onBoard : ∃ m ∈ s.board.markers, m.index = graph.state
  unrepeated : ¬ (mode = .advanced ∧ s.selection.previous = some graph.state)

/-- The slot for the heap of a state: the next one, but in simple mode an error state takes the
place of what is on display. -/
def slotOf (s : Session) (mode : Mode) (state : Nat) : Slot :=
  if mode = .simple ∧ ∃ m ∈ s.board.get? state, m.isError = true then s.heaps.focus
  else s.heaps.next

theorem isSome_get?_iff {b : Board} {state : Nat} :
    (b.get? state).isSome = true ↔ ∃ m ∈ b.markers, m.index = state := by
  rw [Board.get?_isSome_iff, List.mem_map]

theorem slotFor?_eq_some_iff {m : Marker} {state : Nat} (hm : s.board.get? state = some m) :
    s.slotFor? mode m state = some slot ↔
      ¬ (mode = .advanced ∧ s.selection.previous = some state) ∧ slot = s.slotOf mode state := by
  rw [eq_comm (a := slot)]
  cases mode with
  | simple => simp [slotFor?, slotOf, hm]
  | advanced =>
    by_cases hprevious : s.selection.previous = some state
    · simp [slotFor?, hprevious]
    · simp [slotFor?, slotOf, hprevious]

theorem wants?_eq_some_iff : s.wants? graph mode = some slot ↔
    s.Wants graph mode ∧ slot = s.slotOf mode graph.state := by
  constructor
  · intro h
    unfold wants? at h
    split at h
    · next hcond =>
      obtain ⟨hlatest, hshown, hheap⟩ := hcond
      split at h
      · cases h
      · next m hm =>
        obtain ⟨hrepeat, hslot⟩ := (slotFor?_eq_some_iff hm).mp h
        have hids : s.ids.latestHeap = some graph.requestId := by
          simpa [RequestIds.wantsHeap] using hlatest
        exact ⟨⟨hids, hshown, hheap, isSome_get?_iff.mp (by rw [hm]; rfl), hrepeat⟩, hslot⟩
    · cases h
  · rintro ⟨⟨hids, hshown, hheap, hboard, hrepeat⟩, hslot⟩
    obtain ⟨m, hm⟩ := Option.isSome_iff_exists.mp (isSome_get?_iff.mpr hboard)
    unfold wants?
    rw [if_pos ⟨by simp [RequestIds.wantsHeap, hids], hshown, hheap⟩, hm]
    exact (slotFor?_eq_some_iff hm).mpr ⟨hrepeat, hslot⟩

theorem Wants.wants?_eq (h : s.Wants graph mode) :
    s.wants? graph mode = some (s.slotOf mode graph.state) := wants?_eq_some_iff.mpr ⟨h, rfl⟩

theorem wants?_eq_none_iff : s.wants? graph mode = none ↔ ¬ s.Wants graph mode := by
  rw [← Option.not_isSome_iff_eq_none, Option.isSome_iff_exists]
  simp only [wants?_eq_some_iff, exists_and_left, exists_eq, and_true]

end Waymark.Session
