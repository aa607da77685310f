import Waymark.Marker.Colour
import Waymark.Trace.Step

/-! Execution traces: which states are shown, and how, when one of them is selected. -/

namespace Waymark

/-- How much is shown around a selected state. -/
inductive Mode
  /-- Only states on the highlighted path can be selected. -/
  | simple
  /-- Any state can be selected; what it expands to and the top level are shown too. -/
  | advanced
deriving DecidableEq, Repr

/-- A state that a trace brings up. -/
structure TraceEntry where
  state : Nat
  colour : Colour
  visible : Bool
deriving DecidableEq, Repr

namespace StepGraph
variable {g : StepGraph}

/-- The step that a walk goes to next: over a branch to its parent, else to the step before. A
walk ends at a step without parent. -/
def next? (g : StepGraph) (s : Step) : Option Step :=
  match s.parent with
  | none => none
  | some p =>
    if s.isBranch then g.step? p
    else if s.index = 0 then none
    else g.step? (s.index - 1)

/-- The steps of a walk, which ends before it comes to a step again. -/
def walkFrom (g : StepGraph) : (limit : Nat) → (seen : List Nat) → Step → List Step
  | 0, _, _ => []
  | limit + 1, seen, s =>
    if seen.contains s.index then []
    else
      s :: match g.next? s with
        | none => []
        | some t => g.walkFrom limit (s.index :: seen) t

/-- The walk back from a step. It takes every step of the graph at most once. -/
def walk (g : StepGraph) (s : Step) : List Step := g.walkFrom g.size [] s

/-- The decorated steps of a walk that are no deeper than the decorated ones before them. -/
def staircase : (maxDepth : Nat) → List Step → List Step
  | _, [] => []
  | maxDepth, s :: rest =>
    if s.decoration.isSome && s.depth ≤ maxDepth then s :: staircase s.depth rest
    else staircase maxDepth rest

/-- The trace entries for steps, those with a decoration. -/
def entries (colour : Colour) (steps : List Step) : List TraceEntry :=
  steps.filterMap fun s => s.decoration.map fun state => ⟨state, colour, true⟩

/-- The path that leads to a step. -/
def path (g : StepGraph) (s : Step) : List TraceEntry :=
  entries .interesting (staircase s.depth (g.walk s))

/-- What is shown around a step in advanced mode: what it expands to, then the top level. -/
def surroundings (g : StepGraph) (s : Step) : List TraceEntry :=
  entries .uninteresting ((g.expansion s.index ++ g.topLevel s.verifiable).filterMap g.step?)

/-- The trace for a selected state; empty if no step is shown as it. -/
def trace (g : StepGraph) (mode : Mode) (state : Nat) : List TraceEntry :=
  match g.stepOfState? state with
  | none => []
  | some s =>
    match mode with
    | .simple => g.path s
    | .advanced => g.surroundings s ++ g.path s

end StepGraph

end Waymark
