import Waymark.Server.Basic

/-! What each request does. An error leaves what was done before it. -/

namespace Waymark.World

/-- What a request comes to, and the world afterwards. -/
abbrev Handled := Except Error Reply × World

/-- Lays settings over those that hold. -/
def configure (w : World) (value : Json) : Handled :=
  match w.server.settings.merge value with
  | .error e => (.error e, w)
  | .ok settings =>
    (.ok (.ofBody (.ofFields
        [("supportsExecutionTrace", .bool true),
          ("supportsHeapGraphs", .bool settings.rendererCommand?.isSome),
          ("supportsRequestIds", .bool true)])),
      w.withServer { w.server with settings })

/-- The document of a snapshot: the text that came with it, or what its file holds. -/
def openEditor (w : World) (snapshot : Snapshot) : Except Error TextDocument :=
  match snapshot.text with
  | some text => .ok (.ofText snapshot.uri text)
  | none =>
    match Uri.documentPath snapshot.uri with
    | .error e => .error e
    | .ok path => TextDocument.read w.host.disk path

/-- The markers of a document, all of them, as an event. -/
def decorations (s : Session) (dark : Bool) (uri : String) : Event :=
  .setDecorations uri (s.rendered dark)

/-- Shows the states of an open document: how it ended, and the session afterwards. -/
def showStatesOf (w : World) (uri : String) (doc : OpenDocument) :
    Except Error Anchor.Outcome × Session × World :=
  let a := doc.session.showStates (w.buffer doc)
  (a.outcome, a.session, w.afterAttempt uri a)

/-- Takes over a new run of a document, which is opened if it is not yet. -/
def storeRun (w : World) (snapshot : Snapshot) : Handled :=
  let uri := snapshot.uri
  match w.openEditor snapshot with
  | .error e => (.error e, w)
  | .ok editor =>
    let w := w.withServer { w.server with runs := w.server.runs.store uri snapshot.steps }
    let session := ((w.server.documents.get? uri).map (·.session)).getD (.ofUri uri)
    match session.storeSnapshot snapshot with
    | .error e => (.error e, w.setDocument uri ⟨session, editor⟩)
    | .ok session =>
      let doc : OpenDocument := ⟨session, editor⟩
      let w := w.setDocument uri doc
      let body : Json := .ofFields [("states", .nat session.board.size)]
      if w.server.settings.showStates then
        match w.showStatesOf uri doc with
        | (.error e, _, w) => (.error e, w)
        | (.ok _, session, w) =>
          (.ok ⟨some body, [decorations session w.server.settings.darkGraphs uri]⟩, w)
      else (.ok (.ofBody body), w)

/-- Answers a request for a trace. -/
def getTrace (w : World) (request : TraceRequest) : Handled :=
  (.ok (.ofBody (TraceReply.codec.encode
    (w.server.runs.trace request w.server.settings.mode))), w)

/-- The event for the heap on display, if there is one. -/
def heapEvent (s : Session) (uri : String) : List Event :=
  match s.heaps.focused with
  | none => []
  | some heap => [.heapGraph uri heap.state heap.svg heap.method]

/-- Answers a request for a heap from the document's run, renders the heap and selects its
state. -/
def answerHeap (w : World) (request : HeapRequest) : Handled :=
  match w.server.runs.heapGraph? request with
  | none => (.ok .empty, w)
  | some graph =>
    let settings := w.server.settings
    match Renderer.ofSettings w.host.disk settings with
    | .error e => (.error e, w)
    | .ok renderer =>
      match w.server.document request.uri with
      | .error e => (.error e, w)
      | .ok doc =>
        match doc.session.acceptHeap graph settings renderer w.host with
        | (.error e, session, host) =>
          (.error e, { w with host }.setDocument request.uri { doc with session })
        | (.ok none, session, host) =>
          (.ok .empty, { w with host }.setDocument request.uri { doc with session })
        | (.ok (some traceRequest), session, host) =>
          let (_, session) :=
            session.applyTrace (w.server.runs.trace traceRequest settings.mode)
          (.ok ⟨none, heapEvent session request.uri
              ++ [decorations session settings.darkGraphs request.uri]⟩,
            { w with host }.setDocument request.uri { doc with session })

/-- Shows the heap of a state, unless states are hidden. -/
def showHeap (w : World) (wanted : HeapRequest) : Handled :=
  if w.server.settings.showStates then
    match w.server.document wanted.uri with
    | .error e => (.error e, w)
    | .ok doc =>
      if doc.session.isReady then
        let (request, session) := doc.session.requestHeap wanted.state
        (w.setDocument wanted.uri { doc with session }).answerHeap request
      else (.error (.noSnapshot wanted.uri), w)
  else (.ok .empty, w)

/-- Follows the cursor to a position. -/
def point (w : World) (p : Pointing) : Handled :=
  if w.server.settings.showStates then
    match w.server.document p.uri with
    | .error e => (.error e, w)
    | .ok doc =>
      let (action, session) := doc.session.onPosition p.position w.server.settings.mode
      let w := w.setDocument p.uri { doc with session }
      match action with
      | .ignored => (.ok (.ofAction "ignored"), w)
      | .redisplay => (.ok { Reply.ofAction "redisplay" with events := heapEvent session p.uri }, w)
      | .requestHeap request =>
        match w.answerHeap request with
        | (.error e, w) => (.error e, w)
        | (.ok reply, w) =>
          (.ok { Reply.ofAction "requestHeap" with events := reply.events }, w)
  else (.ok (.ofAction "ignored"), w)

/-- Sets whether states are shown, in this and in later runs. -/
def setShowStates (w : World) (flag : Bool) : World :=
  w.withServer { w.server with settings := { w.server.settings with showStates := flag } }

/-- Starts to show states. -/
def showStates (w : World) (uri : String) : Handled :=
  let w := w.setShowStates true
  match w.server.document uri with
  | .error e => (.error e, w)
  | .ok doc =>
    match w.showStatesOf uri doc with
    | (.error e, _, w) => (.error e, w)
    | (.ok outcome, session, w) =>
      (.ok ⟨some (Reply.outcomeBody outcome),
        [decorations session w.server.settings.darkGraphs uri]⟩, w)

/-- Stops showing states. -/
def hideStates (w : World) (uri : String) : Handled :=
  let w := w.setShowStates false
  match w.server.document uri with
  | .error e => (.error e, w)
  | .ok doc =>
    (.ok ⟨none, [.setDecorations uri []]⟩,
      w.setDocument uri { doc with session := doc.session.hideStates })

/-- Adds or removes the anchors of an open document. -/
def pin (w : World) (op : Anchor.Operation) (uri : String) : Handled :=
  match w.server.document uri with
  | .error e => (.error e, w)
  | .ok doc =>
    let a := doc.session.attempt op (w.buffer doc)
    (a.outcome.map fun outcome => .ofBody (Reply.outcomeBody outcome), w.afterAttempt uri a)

/-- Takes the anchors of a document out that the editor has closed: out of its file, if it has
one. -/
def closeEditor (w : World) (doc : OpenDocument) : Except Error Anchor.Outcome × World :=
  match doc.editor.path with
  | some path =>
    let (outcome, _, disk) := doc.session.removeFromClosed w.host.disk path
    (outcome, { w with host := { w.host with disk } })
  | none =>
    let a := doc.session.removeMarkers (w.buffer doc)
    (a.outcome, { w with host := { w.host with disk := a.editor.disk } })

/-- Forgets a document. Its run is kept if the anchors could not be taken out. -/
def close (w : World) (uri : String) : Handled :=
  match w.server.document uri with
  | .error e => (.error e, w)
  | .ok doc =>
    let w := w.withServer { w.server with documents := Table.erase uri w.server.documents }
    match w.closeEditor doc with
    | (.error e, w) => (.error e, w)
    | (.ok outcome, w) =>
      (.ok (.ofBody (Reply.outcomeBody outcome)),
        w.withServer { w.server with runs := w.server.runs.stop uri })

/-- Does what a request asks for. -/
def dispatch (w : World) : Request → Handled
  | .configure value => w.configure value
  | .storeRun snapshot => w.storeRun snapshot
  | .getTrace request => w.getTrace request
  | .showHeap request => w.showHeap request
  | .point pointing => w.point pointing
  | .showStates uri => w.showStates uri
  | .hideStates uri => w.hideStates uri
  | .addMarkers uri => w.pin .add uri
  | .removeMarkers uri => w.pin .remove uri
  | .close uri => w.close uri
  | .stop uri => (.ok .empty, w.withServer { w.server with runs := w.server.runs.stop uri })
  | .disconnect => (.ok .empty, w)

end Waymark.World
