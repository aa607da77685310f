/-! The guard of a document's anchors: while they are added or removed, nobody else touches
them. -/

namespace Waymark.Anchor

/-- The two things that are done with anchors. -/
inductive Operation
  | add
  | remove
deriving DecidableEq, Repr

/-- The operation that is going on, if one is. Who comes meanwhile is turned away, not queued. -/
structure Guard where
  holder : Option Operation
deriving DecidableEq, Repr

namespace Guard

/-- Nothing is going on. -/
def idle : Guard := ⟨none⟩

instance : Inhabited Guard := ⟨idle⟩

/-- Whether an operation is going on. -/
def isBusy (g : Guard) : Bool := g.holder.isSome

/-- The guard with an operation begun, unless one is going on. -/
def begin? (g : Guard) (op : Operation) : Option Guard :=
  if g.isBusy then none else some ⟨some op⟩

/-- The guard with an operation finished, if it is the one that is going on. -/
def finish (g : Guard) (op : Operation) : Guard := if g.holder = some op then idle else g

theorem finish_of_begin? {g h : Guard} {op : Operation} (hg : g.begin? op = some h) :
    h.finish op = g := by
  obtain ⟨holder⟩ := g
  cases holder with
  | none =>
    simp only [begin?, isBusy, Option.isSome_none, Bool.false_eq_true, if_false,
      Option.some.injEq] at hg
    subst hg
    simp [finish, idle]
  | some _ => simp [begin?, isBusy] at hg

end Guard

end Waymark.Anchor
