import Waymark.Exchange.Types
import Waymark.Table

/-! Runs: the steps of the last run of each document, and the answers they give. -/

namespace Waymark

/-- The graphs of runs by the uris of their documents. -/
abbrev Runs := Table StepGraph

namespace Runs

/-- Keeps the steps of a run in place of those of the document's last one. -/
def store (runs : Runs) (uri : String) (steps : List Step) : Runs :=
  Table.insert uri (.ofSteps steps) runs

/-- Forgets a document's run. -/
def stop (runs : Runs) (uri : String) : Runs := Table.erase uri runs

/-- Answers a request for a trace; where nothing is known of the document, the trace is empty. -/
def trace (runs : Runs) (request : TraceRequest) (mode : Mode) : TraceReply :=
  ⟨request.requestId, request.uri,
    match runs.get? request.uri with
    | some graph => graph.trace mode request.state
    | none => []⟩

/-- Answers a request for a heap, if the state is known. -/
def heapGraph? (runs : Runs) (request : HeapRequest) : Option HeapGraph :=
  match runs.get? request.uri with
  | none => none
  | some graph =>
    (graph.stepOfState? request.state).map fun s =>
      ⟨request.requestId, request.uri, request.state, s.heap.getD "", s.verifiableName, s.position⟩

end Runs

end Waymark
