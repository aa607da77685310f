import Waymark.Text.Position

/-! Steps of a verification run, and the tree that their parent links make. -/

namespace Waymark

/-- One step of a run. A step with a decoration is shown to the user as that state. -/
structure Step where
  index : Nat
  parent : Option Nat
  isBranch : Bool
  verifiable : Nat
  verifiableName : Option String
  decoration : Option Nat
  position : Option Position
  heap : Option String
  depth : Nat
deriving DecidableEq, Repr

/-- The steps of a run in run order, each with its place as index. -/
structure StepGraph where
  steps : List Step
  map_index : steps.map (·.index) = List.range steps.length
deriving DecidableEq, Repr

namespace StepGraph
variable {g : StepGraph}

/-- The number of steps. -/
def size (g : StepGraph) : Nat := g.steps.length

/-- A step by its place in the run. -/
def step? (g : StepGraph) (i : Nat) : Option Step := g.steps[i]?

/-- The step shown as a state; of several the last counts. -/
def stepOfState? (g : StepGraph) (state : Nat) : Option Step :=
  g.steps.reverse.find? (·.decoration == some state)

theorem index_eq_of_step? {i : Nat} {s : Step} (h : g.step? i = some s) : s.index = i := by
  have hi : i < g.steps.length := (List.getElem?_eq_some_iff.1 h).1
  have hm : (g.steps.map (·.index))[i]? = some s.index := by
    rw [List.getElem?_map]
    simpa [step?] using congrArg (Option.map (·.index)) h
  rw [g.map_index, List.getElem?_range hi] at hm
  exact (Option.some.inj hm).symm

/-- The parent links within a run, by place; one that leads out of it counts for none. -/
def parents (steps : List Step) : List (Option Nat) :=
  steps.map fun s => s.parent.filter (· < steps.length)

/-- Climbs from a step along parent links through steps not seen before, up to a root or to a
step whose depth is known. Gives the steps on the way, the last one first, and the depth of that
one. -/
def climb (parents : List (Option Nat)) (known : List (Option Nat)) :
    (limit : Nat) → (seen : List Nat) → (cursor : Option Nat) → List Nat × Nat
  | 0, seen, _ => (seen, 0)
  | _ + 1, seen, none => (seen, 0)
  | limit + 1, seen, some i =>
    match (known[i]?).join with
    | some depth => (seen, depth + 1)
    | none =>
      if seen.contains i then (seen, 0)
      else climb parents known limit (i :: seen) (parents[i]?).join

/-- The depths with those of a whole chain filled in, each one more than the one above. -/
def fill (known : List (Option Nat)) : (chain : List Nat) → (depth : Nat) → List (Option Nat)
  | [], _ => known
  | i :: chain, depth => fill (known.set i (some depth)) chain (depth + 1)

/-- Finds the depth of one step, and of all on the way up from it. A climb takes at most one turn
for each step and one to see its end. -/
def settle (parents : List (Option Nat)) (known : List (Option Nat)) (start : Nat) :
    List (Option Nat) :=
  match (known[start]?).join with
  | some _ => known
  | none =>
    let (chain, depth) := climb parents known (parents.length + 1) [] (some start)
    fill known chain depth

/-- The depth of every step: how far it is below a root. Where links run in a circle, they are
cut above the last step that the first climb reaches. -/
def depths (parents : List (Option Nat)) : List Nat :=
  let known : List (Option Nat) := parents.map fun _ => none
  ((List.range parents.length).foldl (settle parents) known).map (·.getD 0)

/-- The graph of a run: steps are numbered in run order, whatever numbers they came with. -/
def ofSteps (steps : List Step) : StepGraph where
  steps :=
    let found := depths (parents steps)
    steps.zipIdx.map fun (s, i) => { s with index := i, depth := (found[i]?).getD 0 }
  map_index := by
    rw [List.map_map, List.length_map, List.length_zipIdx, List.range_eq_range',
      ← List.zipIdx_map_snd 0 steps]
    rfl

/-- The steps right below a step, in run order. A step is not below itself. -/
def children (g : StepGraph) (i : Nat) : List Nat :=
  (g.steps.filter fun s => s.parent == some i && s.index != i).map (·.index)

/-- Visits the steps on a stack, and what is below each before the rest, but no step twice.
Collects those with a decoration. -/
def descend (g : StepGraph) :
    (limit : Nat) → (seen : List Nat) → (stack : List Nat) → List Nat
  | 0, _, _ => []
  | _ + 1, _, [] => []
  | limit + 1, seen, i :: stack =>
    if seen.contains i then g.descend limit seen stack
    else
      let found := g.descend limit (i :: seen) (g.children i ++ stack)
      if (g.step? i).any (·.decoration.isSome) then i :: found else found

/-- The decorated steps below a step, depth first. Every step is put on the stack at most once,
as a child of its parent, which bounds the number of turns. -/
def expansion (g : StepGraph) (i : Nat) : List Nat :=
  if i < g.size then g.descend (g.size + 1) [i] (g.children i) else []

/-- The decorated steps of a verifiable that have no parent. -/
def topLevel (g : StepGraph) (verifiable : Nat) : List Nat :=
  (g.steps.filter fun s =>
    s.verifiable == verifiable && s.parent.isNone && s.decoration.isSome).map (·.index)

end StepGraph

end Waymark
