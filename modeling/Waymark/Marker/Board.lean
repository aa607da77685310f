import Waymark.Marker.Basic
import Waymark.Order

/-! The board: the markers of one run, and the ranges they take in the text. -/

namespace Waymark

/-- The markers of a run in the order they came in. When the board is anchored, the text holds
one anchor glyph for each of them. -/
structure Board where
  markers : List Marker
  anchored : Bool
deriving DecidableEq, Repr

namespace Board
variable {b : Board} {ms : List Marker}

/-- A board without markers. -/
def empty : Board := ⟨[], false⟩

instance : Inhabited Board := ⟨empty⟩

/-- Anchors are counted along a line by origin, then by index. -/
def comesFirst (a b : Marker × Nat) : Bool :=
  if a.1.origin = b.1.origin then a.1.index ≤ b.1.index else a.1.origin.le b.1.origin

/-- Walks the markers in anchor order, with the last line seen and the number of anchors on it:
each anchor pushes the later ones of its line one column to the right. As everywhere, no sum of
columns is taken to reach 2 ^ 32. -/
def shiftFrom : Option Nat → Nat → List (Marker × Nat) → List (Nat × Range)
  | _, _, [] => []
  | line, count, (m, slot) :: rest =>
    let count := if line = some m.origin.line then count else 0
    let start : Position := ⟨m.origin.line, m.origin.character + count⟩
    let stop : Position := ⟨m.origin.line, m.origin.character + count + 1⟩
    (slot, ⟨start, stop⟩) :: shiftFrom (some m.origin.line) (count + 1) rest

/-- The range over each marker's anchor glyph, by the marker's place on the board. -/
def anchorRanges (ms : List Marker) : List (Nat × Range) :=
  shiftFrom none 0 (Order.sort comesFirst ms.zipIdx)

/-- The markers with their ranges worked out: over the anchor glyphs, or empty at the
origins. -/
def layOut (anchored : Bool) (ms : List Marker) : List Marker :=
  if anchored then
    let ranges := anchorRanges ms
    ms.zipIdx.map fun (m, slot) => { m with range := (ranges.lookup slot).getD m.range }
  else ms.map fun m => { m with range := .empty m.origin }

/-- The board of a new run; the text holds none of its anchors yet. -/
def ofMarkers (ms : List Marker) : Board := ⟨layOut false ms, false⟩

/-- Notes whether the text holds the anchors. -/
def setAnchored (b : Board) (anchored : Bool) : Board :=
  if b.anchored = anchored then b else ⟨layOut anchored b.markers, anchored⟩

/-- The marker of a state; of several with one index the last counts. -/
def get? (b : Board) (state : Nat) : Option Marker := b.markers.reverse.find? (·.index == state)

/-- The marker whose range starts at a position; of several the last counts. -/
def atPosition? (b : Board) (p : Position) : Option Marker :=
  b.markers.reverse.find? (·.range.start == p)

/-- Changes the last entry that satisfies `p`, if there is one. -/
def modifyLast (p : Marker → Bool) (f : Marker → Marker) : List Marker → List Marker
  | [] => []
  | m :: ms =>
    if ms.any p then m :: modifyLast p f ms
    else if p m then f m :: ms
    else m :: ms

/-- Changes the marker of a state, if there is one. -/
def modify (b : Board) (state : Nat) (f : Marker → Marker) : Board :=
  { b with markers := modifyLast (·.index == state) f b.markers }

/-- Changes every marker. -/
def modifyAll (b : Board) (f : Marker → Marker) : Board := { b with markers := b.markers.map f }

/-- Whether there are no markers. -/
def isEmpty (b : Board) : Bool := b.markers.isEmpty

/-- The number of markers. -/
def size (b : Board) : Nat := b.markers.length

@[simp] theorem setAnchored_self : b.setAnchored b.anchored = b := by simp [setAnchored]

@[simp] theorem anchored_setAnchored {anchored : Bool} :
    (b.setAnchored anchored).anchored = anchored := by
  unfold setAnchored
  split
  · assumption
  · rfl

@[simp] theorem length_layOut {anchored : Bool} : (layOut anchored ms).length = ms.length := by
  cases anchored <;> simp [layOut]

@[simp] theorem size_setAnchored {anchored : Bool} : (b.setAnchored anchored).size = b.size := by
  unfold setAnchored; split <;> simp [size]

end Board

end Waymark
