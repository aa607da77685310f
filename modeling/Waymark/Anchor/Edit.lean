import Waymark.Order
import Waymark.Text.Position

/-! Edits: changes to a text that all refer to the text as it was before them. -/

namespace Waymark

/-- One change to a text. -/
inductive TextEdit
  | insert (place : Position) (text : Text)
  | delete (range : Range)
deriving DecidableEq, Repr

/-- Edits to one document that are applied together or not at all. -/
structure EditBatch where
  uri : String
  edits : List TextEdit
deriving DecidableEq, Repr

/-- An edit with its positions resolved: the characters from `start` up to `stop` make way for
`text`. -/
structure Splice where
  start : Nat
  stop : Nat
  text : Text
  start_le_stop : start ≤ stop := by omega
deriving DecidableEq, Repr

namespace Splice

/-- Splices go by where they start, then by where they stop. -/
protected def le (a b : Splice) : Bool :=
  a.start < b.start || (a.start == b.start && a.stop ≤ b.stop)

/-- Weaves sorted splices into `rest`, the text from character `cursor` on. There is no result
if a splice starts before the one ahead of it has stopped. -/
def weave (cursor : Nat) (rest : Text) : List Splice → Option Text
  | [] => some rest
  | s :: ss =>
    if s.start < cursor then none
    else
      (weave s.stop (rest.drop (s.stop - cursor)) ss).map fun tail =>
        rest.take (s.start - cursor) ++ s.text ++ tail

end Splice

namespace TextEdit

/-- Resolves an edit against the text. A range that ends before it starts is empty. -/
def splice (t : Text) : TextEdit → Splice
  | insert place text => ⟨t.indexAt place, t.indexAt place, text, Nat.le_refl _⟩
  | delete range =>
    let start := t.indexAt range.start
    ⟨start, max (t.indexAt range.stop) start, [], Nat.le_max_right _ _⟩

end TextEdit

namespace EditBatch

/-- The text after all edits, or nothing if two of them overlap. Inserts at one place keep the
order of the batch. -/
def result? (b : EditBatch) (t : Text) : Option Text :=
  Splice.weave 0 t (Order.sort Splice.le (b.edits.map (TextEdit.splice t)))

/-- The number of edits. -/
def size (b : EditBatch) : Nat := b.edits.length

end EditBatch

end Waymark
