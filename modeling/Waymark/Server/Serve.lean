import Waymark.Exchange.Frame
import Waymark.Server.Dispatch

/-! Serving: requests are taken from a stream one after the other, and each is answered before the
next is read. -/

namespace Waymark.World

/-- Sends a message under the next number. -/
def send (w : World) (content : Content) : Message × World :=
  let seq := w.server.seq + 1
  (⟨seq, content.kind, content⟩, w.withServer { w.server with seq })

/-- Sends messages one after the other. -/
def sendAll (w : World) : List Content → List Message × World
  | [] => ([], w)
  | c :: cs =>
    let (m, w) := w.send c
    let (ms, w) := w.sendAll cs
    (m :: ms, w)

/-- What is sent for an event, if it can be written. -/
def eventContent (e : Event) : Except Error Content :=
  e.body.map fun body => .event e.name (some body)

/-- What is to be sent when a request could not be met: first a hint, if the user can mend it. -/
def failure (seq : Nat) (command : String) (e : Error) : List (Except Error Content) :=
  (match e with
    | .missingTool _ => [eventContent (.hint e.message)]
    | _ => [])
    ++ [.ok (.response seq false command (some e.message) none)]

/-- What is to be sent when a request was met. -/
def success (seq : Nat) (command : String) (reply : Reply) : List (Except Error Content) :=
  .ok (.response seq true command none reply.body) :: reply.events.map eventContent

/-- What is sent of what is to be sent, and whether that is all. It ends before the first content
that cannot be written. -/
def sendable : List (Except Error Content) → List Content × Except Error Unit
  | [] => ([], .ok ())
  | .error e :: _ => ([], .error e)
  | .ok c :: cs =>
    let (sent, ended) := sendable cs
    (c :: sent, ended)

/-- Takes the anchors out of the documents of the given uris, as far as that works. -/
def stripAll (w : World) : List String → World
  | [] => w
  | uri :: uris =>
    match w.server.documents.get? uri with
    | none => w.stripAll uris
    | some doc => (w.afterAttempt uri (doc.session.removeMarkers (w.buffer doc))).stripAll uris

/-- Takes the anchors out of all open documents before the server goes away. -/
def shutdown (w : World) : World := w.stripAll (w.server.documents.map (·.1))

/-- What is sent for a request, and whether the server goes on. It fails if not all of the answer
can be sent. -/
structure Answer where
  messages : List Message
  goesOn : Except Error Bool
  world : World

/-- Answers a request with what is to be sent, and goes on if all of it is. -/
def respond (w : World) (contents : List (Except Error Content)) : Answer :=
  let (sent, ended) := sendable contents
  let (ms, w) := w.sendAll sent
  ⟨ms, ended.map fun _ => true, w⟩

/-- Handles one request. A command that is not understood is refused without a hint. -/
def handle (w : World) (seq : Nat) (command : String) (arguments : Option Json) : Answer :=
  match Request.parse command arguments with
  | .error e =>
    let (ms, w) := w.sendAll [.response seq false command (some e.message) none]
    ⟨ms, .ok true, w⟩
  | .ok .disconnect =>
    let (ms, w) := w.shutdown.sendAll [.response seq true command none none]
    ⟨ms, .ok false, w⟩
  | .ok request =>
    match w.dispatch request with
    | (.ok reply, w) => w.respond (success seq command reply)
    | (.error e, w) => w.respond (failure seq command e)

/-- How a server's run ended. -/
structure Run where
  result : Except Error Unit
  messages : List Message
  world : World

/-- The message that a body holds. -/
def readBody (body : Bytes) : Except Error Message :=
  match (Utf8.decode body).toOption.bind Message.ofText? with
  | some m => .ok m
  | none => .error (.json .malformed)

/-- Takes one body from the stream. What is no request is passed over. -/
def receive (w : World) (body : Bytes) : Except Error Answer :=
  match readBody body with
  | .error e => .error e
  | .ok m =>
    match m.content with
    | .request command arguments => .ok (w.handle m.seq command arguments)
    | _ => .ok ⟨[], .ok true, w⟩

/-- Serves until the end of the input, a request to disconnect, input that cannot be read, or an
answer that cannot be sent. -/
def serve (w : World) (input : Bytes) : Run :=
  match _h : Frame.next input with
  | .error e => ⟨.error e, [], w⟩
  | .ok none => ⟨.ok (), [], w.shutdown⟩
  | .ok (some (body, rest)) =>
    match w.receive body with
    | .error e => ⟨.error e, [], w⟩
    | .ok answer =>
      match answer.goesOn with
      | .error e => ⟨.error e, answer.messages, answer.world⟩
      | .ok true =>
        let run := answer.world.serve rest
        { run with messages := answer.messages ++ run.messages }
      | .ok false => ⟨.ok (), answer.messages, answer.world⟩
termination_by input.length
decreasing_by exact Frame.length_lt_of_next _h

/-- The bytes in which messages are sent. -/
def output (ms : List Message) : Bytes := ms.flatMap fun m => Frame.wrap (Text.toBytes m.text)

end Waymark.World
