import Waymark.Anchor.Editor
import Waymark.Anchor.Glyph
import Waymark.Marker.Board

/-! Pinning markers to a text: one anchor glyph goes in at the origin of each marker, and all of
them come out again. -/

namespace Waymark.Anchor
variable {ε : Type} [Editor ε]

/-- How an attempt at the anchors ended. -/
inductive Outcome
  /-- So many edits were made, and saved. -/
  | applied (edits : Nat)
  /-- There was nothing to do. -/
  | unchanged
  /-- Somebody else was at the anchors. -/
  | busy
deriving DecidableEq, Repr

/-- What an attempt at the anchors leaves behind. -/
structure Attempt (ε : Type) where
  outcome : Except Error Outcome
  board : Board
  editor : ε

/-- The edits that put an anchor before every marker's place. -/
def insertions (uri : String) (board : Board) : EditBatch :=
  ⟨uri, board.markers.map fun m => .insert m.origin [glyph]⟩

/-- The edits that take every run of anchors away. -/
def deletions (uri : String) (t : Text) : EditBatch := ⟨uri, (runs t).map .delete⟩

/-- Makes the edits and saves. Once the edits are made, the board is anchored or not as they left
the text, whether or not saving works. -/
def edit (op : Operation) (batch : EditBatch) (board : Board) (editor : ε) : Attempt ε :=
  match Editor.apply editor batch with
  | (.error e, editor) => ⟨.error e, board, editor⟩
  | (.ok false, editor) => ⟨.error (.editRejected (Editor.uri editor) op), board, editor⟩
  | (.ok true, editor) =>
    let board := board.setAnchored (op = .add)
    match Editor.save editor with
    | (.error e, editor) => ⟨.error e, board, editor⟩
    | (.ok (), editor) => ⟨.ok (.applied batch.size), board, editor⟩

/-- Puts an anchor in for every marker. -/
def insert (board : Board) (editor : ε) : Attempt ε :=
  if board.isEmpty then ⟨.ok .unchanged, board, editor⟩
  else edit .add (insertions (Editor.uri editor) board) board editor

/-- Takes all anchors out. -/
def delete (board : Board) (editor : ε) : Attempt ε :=
  if (runs (Editor.text editor)).isEmpty then ⟨.ok .unchanged, board.setAnchored false, editor⟩
  else edit .remove (deletions (Editor.uri editor) (Editor.text editor)) board editor

/-- Does one of the two, unless the guard turns it away; gives the guard as it is afterwards. -/
def attempt (op : Operation) (guard : Guard) (board : Board) (editor : ε) : Guard × Attempt ε :=
  match guard.begin? op with
  | none => (guard, ⟨.ok .busy, board, editor⟩)
  | some held =>
    (held.finish op,
      match op with
      | .add => insert board editor
      | .remove => delete board editor)

/-- Takes the anchors out of a file that is not open. -/
def stripFile (d : Disk) (p : Path) : Except Error Outcome × Disk :=
  match d.read p with
  | .error fault => (.error (.ofRead p fault), d)
  | .ok bytes =>
    match Utf8.decode bytes with
    | .error fault => (.error (.file (.malformed fault)), d)
    | .ok text =>
      match strip? text with
      | none => (.ok .unchanged, d)
      | some stripped =>
        match d.write p (Text.toBytes stripped) with
        | .error fault => (.error (.file fault), d)
        | .ok d => (.ok (.applied (text.length - stripped.length)), d)

/-- What an attempt at a closed file leaves behind. -/
structure ClosedAttempt where
  outcome : Except Error Outcome
  board : Board
  disk : Disk

/-- Takes the anchors out of a closed file, unless the guard turns it away. -/
def attemptClosed (guard : Guard) (board : Board) (d : Disk) (p : Path) : Guard × ClosedAttempt :=
  match guard.begin? .remove with
  | none => (guard, ⟨.ok .busy, board, d⟩)
  | some held =>
    (held.finish .remove,
      match stripFile d p with
      | (.ok outcome, d) => ⟨.ok outcome, board.setAnchored false, d⟩
      | (.error e, d) => ⟨.error e, board, d⟩)

end Waymark.Anchor
