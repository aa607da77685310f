import Waymark.Session.Basic

/-! A session's anchors: they go into its own document only. -/

namespace Waymark.Session
variable {ε : Type} [Editor ε]

/-- What an attempt at a session's anchors leaves behind. -/
structure Attempt (ε : Type) where
  outcome : Except Error Anchor.Outcome
  session : Session
  editor : ε

/-- Adds or removes the anchors in an editor that holds the session's document. -/
def attempt (op : Anchor.Operation) (s : Session) (editor : ε) : Attempt ε :=
  if Editor.uri editor = s.uri then
    let (guard, a) := Anchor.attempt op s.guard s.board editor
    ⟨a.outcome, { s with guard, board := a.board }, a.editor⟩
  else ⟨.error (.identityMismatch s.uri (Editor.uri editor)), s, editor⟩

/-- Puts an anchor in for every marker. -/
def addMarkers (s : Session) (editor : ε) : Attempt ε := s.attempt .add editor

/-- Takes all anchors out. -/
def removeMarkers (s : Session) (editor : ε) : Attempt ε := s.attempt .remove editor

/-- Takes the anchors out of the document's file, which is not open. -/
def removeFromClosed (s : Session) (d : Disk) (p : Path) :
    Except Error Anchor.Outcome × Session × Disk :=
  let (guard, a) := Anchor.attemptClosed s.guard s.board d p
  (a.outcome, { s with guard, board := a.board }, a.disk)

/-- Takes old anchors out, puts new ones in and starts to show the markers. If either fails, they
are not shown. -/
def showStates (s : Session) (editor : ε) : Attempt ε :=
  match s.removeMarkers editor with
  | ⟨.error e, s, editor⟩ => ⟨.error e, s, editor⟩
  | ⟨.ok .busy, s, editor⟩ => ⟨.ok .busy, s, editor⟩
  | ⟨.ok _, s, editor⟩ =>
    match s.addMarkers editor with
    | ⟨.error e, s, editor⟩ => ⟨.error e, s, editor⟩
    | ⟨.ok outcome, s, editor⟩ => ⟨.ok outcome, { s with shown := true }, editor⟩

end Waymark.Session
