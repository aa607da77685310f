import Waymark.Exchange.Message
import Waymark.Exchange.Request
import Waymark.Server.Runs
import Waymark.Session.Pinning
import Waymark.Session.Selecting

/-! The server: the open documents, their runs, and the machine they are on. -/

namespace Waymark

/-- A document that the editor has open. -/
structure OpenDocument where
  session : Session
  editor : TextDocument
deriving DecidableEq, Repr

/-- All that the server keeps between requests. -/
structure Server where
  /-- The number of the last message sent. -/
  seq : Nat
  settings : Settings
  runs : Runs
  documents : Table OpenDocument
deriving DecidableEq, Repr

/-- A server on its machine. -/
structure World where
  server : Server
  host : Host

/-- What a request is answered, and what is told afterwards. -/
structure Reply where
  body : Option Json
  events : List Event

namespace Reply

/-- An answer that says nothing. -/
def empty : Reply := ⟨none, []⟩

/-- An answer with nothing to follow. -/
def ofBody (body : Json) : Reply := ⟨some body, []⟩

/-- An answer that names an action. -/
def ofAction (action : String) : Reply := ofBody (.ofFields [("action", .string action)])

/-- An answer that says how an attempt at the anchors ended. -/
def outcomeBody : Anchor.Outcome → Json
  | .applied edits => .ofFields [("outcome", .string "applied"), ("edits", .nat edits)]
  | .unchanged => .ofFields [("outcome", .string "unchanged")]
  | .busy => .ofFields [("outcome", .string "busy")]

end Reply

namespace Server

/-- A server that has just been started. -/
def ofSettings (settings : Settings) : Server := ⟨0, settings, [], []⟩

/-- An open document. -/
def document (s : Server) (uri : String) : Except Error OpenDocument :=
  match s.documents.get? uri with
  | some doc => .ok doc
  | none => .error (.unknownDocument uri)

/-- The server with an open document replaced. -/
def setDocument (s : Server) (uri : String) (doc : OpenDocument) : Server :=
  { s with documents := Table.insert uri doc s.documents }

end Server

namespace World

/-- The world with its server changed. -/
def withServer (w : World) (s : Server) : World := { w with server := s }

/-- The world with an open document replaced. -/
def setDocument (w : World) (uri : String) (doc : OpenDocument) : World :=
  w.withServer (w.server.setDocument uri doc)

/-- An open document in its editor, on the disk. -/
def buffer (w : World) (doc : OpenDocument) : Buffer := ⟨doc.editor, w.host.disk⟩

/-- The world after an attempt at an open document's anchors. -/
def afterAttempt (w : World) (uri : String) (a : Session.Attempt Buffer) : World :=
  let w := w.setDocument uri ⟨a.session, a.editor.document⟩
  { w with host := { w.host with disk := a.editor.disk } }

end World

end Waymark
