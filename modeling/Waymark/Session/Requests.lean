import Waymark.Exchange.Types

/-! Numbered requests: only the answer to the latest of each kind is wanted. -/

namespace Waymark

/-- The numbers given out, and the latest of each kind whose answer is still wanted. -/
structure RequestIds where
  last : Nat
  latestTrace : Option Nat
  latestHeap : Option Nat
deriving DecidableEq, Repr

namespace RequestIds
variable {ids : RequestIds}

/-- No number has been given out. -/
def fresh : RequestIds := ⟨0, none, none⟩

instance : Inhabited RequestIds := ⟨fresh⟩

/-- Asks for a trace under a new number. -/
def requestTrace (ids : RequestIds) (uri : String) (state : Nat) : TraceRequest × RequestIds :=
  let id := ids.last + 1
  (⟨id, uri, state⟩, { ids with last := id, latestTrace := some id })

/-- Asks for a heap under a new number. -/
def requestHeap (ids : RequestIds) (uri : String) (state : Nat) : HeapRequest × RequestIds :=
  let id := ids.last + 1
  (⟨id, uri, state⟩, { ids with last := id, latestHeap := some id })

/-- Whether a trace with this number is wanted. -/
def wantsTrace (ids : RequestIds) (id : Nat) : Bool := ids.latestTrace == some id

/-- Whether a heap with this number is wanted. -/
def wantsHeap (ids : RequestIds) (id : Nat) : Bool := ids.latestHeap == some id

/-- No answer is wanted any more. Numbers given out are not given out again. -/
def invalidate (ids : RequestIds) : RequestIds :=
  { ids with latestTrace := none, latestHeap := none }

end RequestIds

end Waymark
