import Waymark.Proofs.Session.Displaying

/-! What is on display and what stands out in the text agree, for every document at all times. -/

namespace Waymark.World
variable {w : World}

theorem Reached.coherent (h : w.Reached) :
    ∀ uri doc, w.server.documents.get? uri = some doc → doc.session.Coherent :=
  h.session (fun _ => Session.coherent_of_clear rfl rfl) fun _ _ _ => Session.coherent_turn

/-- While a heap is on display, its state has a marker on the board. That marker shows its label in
the colour of the selection, and no other marker of the document has that colour. -/
theorem displayed_state_marked (h : w.Reached) (uri : String) (doc : OpenDocument)
    (hdoc : w.server.documents.get? uri = some doc) (heap : RenderedHeap)
    (hfocused : doc.session.heaps.focused = some heap) :
    ∃ m, doc.session.board.get? heap.state = some m ∧ m.colour = .current ∧
      m.renderedText = m.label ∧ doc.session.board.markers.filter (·.colour = .current) = [m] :=
  ((h.coherent uri doc hdoc).marked heap hfocused).exists_filter

/-- A machine with a program that renders nothing. -/
def drawingHost : Host :=
  ⟨⟨⟨[([[0x72]], .file [] true)]⟩, []⟩, fun d _ => .ok d, .ofString "/tmp"⟩

/-- Settings that name the program, with states shown. -/
def drawing (simpleMode : Bool) : Settings :=
  { Settings.default drawingHost.temporary with
    simpleMode, showStates := true, dotExecutable := some "/r" }

/-- A run of two states on a text of two characters, of which the first has a heap. -/
def twoStates : Snapshot where
  uri := "d"
  steps := [⟨0, none, false, 0, none, some 0, none, some "g", 0⟩,
    ⟨1, none, false, 0, none, some 1, none, none, 0⟩]
  markers := [.plain 0 ⟨0, 0⟩, .plain 1 ⟨0, 1⟩]
  info := none
  text := some ['a', 'b']

/-- The world in which the run is stored and the states are shown. -/
def twoStatesShown (simpleMode : Bool) : World :=
  dispatchAll ⟨.ofSettings (drawing simpleMode), drawingHost⟩ [.storeRun twoStates]

theorem reached_twoStatesShown (simpleMode : Bool) : (twoStatesShown simpleMode).Reached :=
  (Reached.start _ _).dispatchAll _

/-- The first state is marked after its heap was asked for. -/
theorem displayed_state_marked_of_first :
    let w := (twoStatesShown true).dispatchAll [.showHeap ⟨0, "d", 0⟩]
    ∃ doc heap, w.server.documents.get? "d" = some doc ∧
      doc.session.heaps.focused = some heap ∧ heap.state = 0 ∧
      ∃ m, doc.session.board.get? 0 = some m ∧ m.colour = .current ∧ m.renderedText = m.label ∧
        doc.session.board.markers.filter (·.colour = .current) = [m] := by
  intro w
  have hw : w.Reached := (reached_twoStatesShown true).dispatchAll _
  have hdisplay : ((w.server.documents.get? "d").bind fun doc =>
      doc.session.heaps.focused.map (·.state)) = some 0 := by decide +kernel
  obtain ⟨doc, hdoc, hstate⟩ := Option.bind_eq_some_iff.mp hdisplay
  obtain ⟨heap, hfocused, hstate⟩ := Option.map_eq_some_iff.mp hstate
  have hmarked := displayed_state_marked hw "d" doc hdoc heap hfocused
  rw [hstate] at hmarked
  exact ⟨doc, heap, hdoc, hfocused, hstate, hmarked⟩

end Waymark.World
