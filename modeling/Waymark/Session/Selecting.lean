import Waymark.Heap.Renderer
import Waymark.Session.Basic

/-! Selecting a state: the markers are coloured for it, and the answers that come for it are
taken if they are still wanted. -/

namespace Waymark

/-- What a move of the cursor asks for. -/
inductive SelectionAction
  /-- There is no marker, or none that can be selected. -/
  | ignored
  /-- The heap of the state is wanted. -/
  | requestHeap (request : HeapRequest)
  /-- The heap on display is to be shown again. -/
  | redisplay
deriving DecidableEq, Repr

namespace Marker

/-- A marker at the start of a pass: hidden and weak, but for error states. -/
def repaint (m : Marker) : Marker :=
  let m := m.hide.requestColour .uninteresting
  if m.isError then m.collapse.requestColour .error else m

/-- A marker that a trace comes across. -/
def highlight (m : Marker) (visible : Bool) : Marker :=
  (if visible then m.expand else m).requestColour .interesting

end Marker

namespace Board

/-- The markers coloured for a selection, without its trace. -/
def repaint (b : Board) (selected : Nat) (previous : Option Nat) : Board :=
  let b := (b.modifyAll Marker.repaint).modify selected (·.requestColour .current)
  match previous with
  | none => b
  | some state => b.modify state (·.requestColour .previous)

/-- The markers with those of a trace brought up. -/
def highlight (b : Board) (entries : List TraceEntry) : Board :=
  entries.foldl (fun b e => b.modify e.state (·.highlight e.visible)) b

end Board

namespace Session

/-- Selects a state on the board and asks for its trace. Nothing happens while the states are
hidden, or if there is no such state. -/
def beginMark (s : Session) (selected : Nat) : Option TraceRequest × Session :=
  if s.shown ∧ (s.board.get? selected).isSome then
    let (request, ids) := s.ids.requestTrace s.uri selected
    (some request,
      { s with
        board := s.board.repaint selected s.selection.previous
        selection := ⟨some selected, some selected⟩
        ids })
  else (none, s)

/-- Brings up the states of a trace; tells whether it was wanted. -/
def applyTrace (s : Session) (trace : TraceReply) : Bool × Session :=
  if trace.uri = s.uri ∧ s.ids.wantsTrace trace.requestId then
    (true, { s with board := s.board.highlight trace.entries })
  else (false, s)

/-- Selects a state whose trace is at hand. -/
def mark (s : Session) (selected : Nat) (tracer : Nat → List TraceEntry) : Bool × Session :=
  match s.beginMark selected with
  | (none, s) => (false, s)
  | (some request, s) => s.applyTrace ⟨request.requestId, request.uri, tracer selected⟩

/-- Asks for the heap of a state. -/
def requestHeap (s : Session) (state : Nat) : HeapRequest × Session :=
  let (request, ids) := s.ids.requestHeap s.uri state
  (request, { s with ids })

/-- What the cursor's coming to a marker asks for. -/
def onMarker (s : Session) (mode : Mode) (m : Marker) : SelectionAction × Session :=
  match mode with
  | .simple =>
    if m.isVisible then
      let (request, s) := s.requestHeap m.index
      (.requestHeap request, s)
    else (.ignored, s)
  | .advanced =>
    if s.selection.current = some m.index then
      (.redisplay,
        { s with
          selection := { s.selection with previous := none }
          heaps := s.heaps.discardPending })
    else
      let (request, s) := s.requestHeap m.index
      (.requestHeap request, { s with selection := { s.selection with current := some m.index } })

/-- What the cursor's coming to a position asks for. -/
def onPosition (s : Session) (p : Position) (mode : Mode) : SelectionAction × Session :=
  if s.shown ∧ s.isReady then
    match s.board.atPosition? p with
    | none => (.ignored, s)
    | some m => s.onMarker mode m
  else (.ignored, s)

/-- The slot that a heap goes to. An error state takes the place of the heap on display in simple
mode; the state selected before is not wanted again in advanced mode. -/
def slotFor? (s : Session) (mode : Mode) (m : Marker) (state : Nat) : Option Slot :=
  match mode with
  | .simple => some (if m.isError then s.heaps.focus else s.heaps.next)
  | .advanced => if s.selection.previous = some state then none else some s.heaps.next

/-- Where a heap graph is to be rendered, if it is wanted. -/
def wants? (s : Session) (graph : HeapGraph) (mode : Mode) : Option Slot :=
  if s.ids.wantsHeap graph.requestId ∧ s.shown ∧ graph.heap ≠ "" then
    match s.board.get? graph.state with
    | none => none
    | some m => s.slotFor? mode m graph.state
  else none

/-- Renders a heap graph that is wanted, puts it on display and selects its state. -/
def acceptHeap (s : Session) (graph : HeapGraph) (settings : Settings) (r : Renderer) (h : Host) :
    Except Error (Option TraceRequest) × Session × Host :=
  if graph.uri = s.uri then
    match s.wants? graph settings.mode with
    | none => (.ok none, s, h)
    | some slot =>
      match r.writeAndRender h settings.heapDirectory slot.index graph.heap with
      | (.error e, h) => (.error e, s, h)
      | (.ok svg, h) =>
        let heap : RenderedHeap := ⟨graph.state, svg, graph.method, graph.position⟩
        let (request, s) := { s with heaps := s.heaps.store slot heap }.beginMark graph.state
        (.ok request, s, h)
  else (.error (.identityMismatch s.uri graph.uri), s, h)

end Session

end Waymark
