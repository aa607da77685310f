import Waymark.Anchor.Pinning
import Waymark.Heap.Slots
import Waymark.Session.Requests

/-! Sessions: all that is kept for one open document. -/

namespace Waymark

/-- The state that is selected, and the one selected before. -/
structure Selection where
  current : Option Nat
  previous : Option Nat
deriving DecidableEq, Repr

namespace Selection

/-- Nothing is selected. -/
def none : Selection := ⟨.none, .none⟩

end Selection

/-- The state of one open document. -/
structure Session where
  uri : String
  board : Board
  selection : Selection
  ids : RequestIds
  guard : Anchor.Guard
  heaps : HeapSlots
  info : Option String
  shown : Bool
deriving DecidableEq, Repr

namespace Session

/-- The session of a document that nothing is known of yet. -/
def ofUri (uri : String) : Session :=
  ⟨uri, .empty, .none, .fresh, .idle, .empty, none, false⟩

/-- Forgets the selection, the requests on their way and the heaps; the markers stay. -/
def reset (s : Session) : Session :=
  { s with selection := .none, heaps := .empty, ids := s.ids.invalidate }

/-- Forgets everything, as when the document is closed. -/
def completeReset (s : Session) : Session :=
  { s.reset with board := .empty, info := none, shown := false }

/-- Takes over the markers of a new run of this document. -/
def storeSnapshot (s : Session) (snapshot : Snapshot) : Except Error Session :=
  if snapshot.uri = s.uri then
    .ok { s.reset with board := .ofMarkers snapshot.markers, info := snapshot.info }
  else .error (.identityMismatch s.uri snapshot.uri)

/-- Whether there is anything to select. -/
def isReady (s : Session) : Bool := !s.board.isEmpty

/-- Stops showing the markers. -/
def hideStates (s : Session) : Session := { s with shown := false }

/-- The markers as they are pushed to the editor; none while they are not shown. -/
def rendered (s : Session) (dark : Bool) : List RenderedMarker :=
  if s.shown then s.board.markers.map (·.rendered dark) else []

end Session

end Waymark
