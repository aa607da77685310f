import Waymark.Files.Path
import Waymark.Text.Position

/-! Heap slots: the heap that is shown and the one shown before it. -/

namespace Waymark

/-- A heap graph that has been rendered. -/
structure RenderedHeap where
  state : Nat
  svg : Path
  method : Option String
  position : Option Position
deriving DecidableEq, Repr

/-- One of the two slots. -/
inductive Slot
  | first
  | second
deriving DecidableEq, Repr

namespace Slot

/-- The other slot. -/
def other : Slot → Slot
  | first => second
  | second => first

/-- A slot's number. -/
def index : Slot → Nat
  | first => 0
  | second => 1

/-- The slot of a number; all above one stand for the second slot. -/
def ofIndex : Nat → Slot
  | 0 => first
  | _ + 1 => second

@[simp] theorem other_other {s : Slot} : s.other.other = s := by cases s <;> rfl

theorem other_ne {s : Slot} : s.other ≠ s := by cases s <;> simp [other]

end Slot

/-- Two slots in turn: the focused one was filled last, the next one is to be filled. -/
structure HeapSlots where
  first : Option RenderedHeap
  second : Option RenderedHeap
  next : Slot
  focus : Slot
deriving DecidableEq, Repr

namespace HeapSlots

/-- Empty slots. -/
def empty : HeapSlots := ⟨none, none, .first, .first⟩

instance : Inhabited HeapSlots := ⟨empty⟩

/-- What is in a slot. -/
def get (h : HeapSlots) : Slot → Option RenderedHeap
  | .first => h.first
  | .second => h.second

/-- The slots with one of them set. -/
def set (h : HeapSlots) (s : Slot) (heap : Option RenderedHeap) : HeapSlots :=
  match s with
  | .first => { h with first := heap }
  | .second => { h with second := heap }

/-- The heap that is shown. -/
def focused (h : HeapSlots) : Option RenderedHeap := h.get h.focus

/-- Fills a slot and turns to it. -/
def store (h : HeapSlots) (s : Slot) (heap : RenderedHeap) : HeapSlots :=
  { h.set s (some heap) with focus := s, next := s.other }

/-- Empties the slot that is not focused, which is filled next. -/
def discardPending (h : HeapSlots) : HeapSlots :=
  { h.set h.focus.other none with next := h.focus.other }

/-- What is in the slot of a number, if there is such a slot. -/
def getIndex? (h : HeapSlots) : Nat → Option RenderedHeap
  | 0 => h.first
  | 1 => h.second
  | _ + 2 => none

/-- Where the description for a slot is written. -/
def dotPath (dir : Path) (slot : Nat) : Path := dir.join ("heap_" ++ toString slot ++ ".dot")

/-- Where the image of a slot is rendered to. -/
def svgPath (dir : Path) (slot : Nat) : Path := dir.join ("heap_" ++ toString slot ++ ".svg")

@[simp] theorem get_set_self {h : HeapSlots} {s : Slot} {heap : Option RenderedHeap} :
    (h.set s heap).get s = heap := by cases s <;> rfl

@[simp] theorem get_set_other {h : HeapSlots} {s : Slot} {heap : Option RenderedHeap} :
    (h.set s heap).get s.other = h.get s.other := by cases s <;> rfl

theorem get_store {h : HeapSlots} {s s' : Slot} {heap : RenderedHeap} :
    (h.store s heap).get s' = if s' = s then some heap else h.get s' := by
  cases s <;> cases s' <;> rfl

@[simp] theorem focused_store {h : HeapSlots} {s : Slot} {heap : RenderedHeap} :
    (h.store s heap).focused = some heap := by cases s <;> rfl

end HeapSlots

end Waymark
