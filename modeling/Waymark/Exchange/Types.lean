import Waymark.Marker.Basic
import Waymark.Trace.Walk

/-! What the verifier and the editor exchange about a document. -/

namespace Waymark

/-- A completed run: its steps, the markers for its states, and perhaps the text it ran on. -/
structure Snapshot where
  uri : String
  steps : List Step
  markers : List Marker
  info : Option String
  text : Option Text
deriving DecidableEq, Repr

/-- Asks for the trace of a state. -/
structure TraceRequest where
  requestId : Nat
  uri : String
  state : Nat
deriving DecidableEq, Repr

/-- Answers a request for a trace. -/
structure TraceReply where
  requestId : Nat
  uri : String
  entries : List TraceEntry
deriving DecidableEq, Repr

/-- Asks for the heap of a state. -/
structure HeapRequest where
  requestId : Nat
  uri : String
  state : Nat
deriving DecidableEq, Repr

/-- Answers a request for a heap with the description of its graph. -/
structure HeapGraph where
  requestId : Nat
  uri : String
  state : Nat
  heap : String
  method : Option String
  position : Option Position
deriving DecidableEq, Repr

/-- Says where in a document the user is. -/
structure Pointing where
  uri : String
  position : Position
deriving DecidableEq, Repr

/-- A marker as it is pushed to the editor. -/
structure RenderedMarker where
  range : Range
  text : String
  colour : String
  hover : String
deriving DecidableEq, Repr

namespace Marker

/-- The marker as it is pushed to the editor. -/
def rendered (m : Marker) (dark : Bool) : RenderedMarker :=
  ⟨m.range, m.renderedText, m.colour.css dark, m.hover⟩

end Marker

end Waymark
