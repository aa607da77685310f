import Waymark.Exchange.Event
import Waymark.Json.Parser

/-! Messages: the envelopes of requests, responses and events. -/

namespace Waymark

/-- What a message carries. -/
inductive Content
  | request (command : String) (arguments : Option Json)
  | response (requestSeq : Nat) (success : Bool) (command : String) (message : Option String)
      (body : Option Json)
  | event (name : String) (body : Option Json)

/-- A numbered message. -/
structure Message where
  seq : Nat
  type : String
  content : Content

namespace Content

/-- The kind that a content's own fields show. -/
def kind : Content → String
  | request .. => "request"
  | response .. => "response"
  | event .. => "event"

/-- The fields of a content, in their order. -/
def fields : Content → List (String × Json)
  | request command arguments =>
    [("command", .string command), ("arguments", arguments.getD .null)]
  | response requestSeq success command message body =>
    [("request_seq", .nat requestSeq), ("success", .bool success), ("command", .string command),
      ("message", .ofOption .string message), ("body", body.getD .null)]
  | event name body => [("event", .string name), ("body", body.getD .null)]

/-- The value under a key that may be left out but not repeated. -/
def atMostOne? (entries : List (String × Json)) (key : String) : Option (Option Json) :=
  match entries.filter (·.1 == key) with
  | [] => some none
  | [(_, v)] => some (some v)
  | _ => none

/-- The value under a key that has to be there once, read by a codec. -/
def exactlyOne? {α : Type} (c : Json.Codec α) (entries : List (String × Json)) (key : String) :
    Option α :=
  match atMostOne? entries key with
  | some (some v) => (c.decode v).toOption
  | _ => none

/-- The value under a key that may be left out; null counts as left out. -/
def value? (entries : List (String × Json)) (key : String) : Option (Option Json) :=
  match atMostOne? entries key with
  | none => none
  | some none => some none
  | some (some .null) => some none
  | some (some v) => some (some v.canonical)

/-- The string under a key that may be left out. -/
def string? (entries : List (String × Json)) (key : String) : Option (Option String) :=
  match value? entries key with
  | none => none
  | some none => some none
  | some (some v) => (Json.Codec.string.decode v).toOption.map some

/-- Reads the entries of an envelope as a request. -/
def request? (entries : List (String × Json)) : Option Content := do
  let command ← exactlyOne? .string entries "command"
  let arguments ← value? entries "arguments"
  return .request command arguments

/-- Reads the entries of an envelope as a response. -/
def response? (entries : List (String × Json)) : Option Content := do
  let requestSeq ← exactlyOne? .word64 entries "request_seq"
  let success ← exactlyOne? .bool entries "success"
  let command ← exactlyOne? .string entries "command"
  let message ← string? entries "message"
  let body ← value? entries "body"
  return .response requestSeq success command message body

/-- Reads the entries of an envelope as an event. -/
def event? (entries : List (String × Json)) : Option Content := do
  let name ← exactlyOne? .string entries "event"
  let body ← value? entries "body"
  return .event name body

/-- The content of an envelope. Its fields decide what it is, a request before all else; what the
envelope calls itself does not count. -/
def ofEntries? (entries : List (String × Json)) : Option Content :=
  (request? entries).or ((response? entries).or (event? entries))

end Content

namespace Message

/-- A message as a value, with its fields in order. -/
def toJson (m : Message) : Json :=
  .object ([("seq", .nat m.seq), ("type", .string m.type)] ++ m.content.fields)

/-- The written form of a message. -/
def text (m : Message) : Text := m.toJson.render

/-- The message that a value as it was written holds. -/
def ofJson? : Json → Option Message
  | .object entries => do
    let seq ← Content.exactlyOne? .word64 entries "seq"
    let type ← Content.exactlyOne? .string entries "type"
    let content ← Content.ofEntries? (entries.filter fun e => e.1 != "seq" && e.1 != "type")
    return ⟨seq, type, content⟩
  | _ => none

/-- The message that a text holds. -/
def ofText? (t : Text) : Option Message := (Json.readRaw? t).bind ofJson?

end Message

end Waymark
