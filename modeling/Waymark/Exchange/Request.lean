import Waymark.Error
import Waymark.Exchange.Codec

/-! Requests of the editor, by their commands. -/

namespace Waymark

/-- What the editor asks for. -/
inductive Request
  /-- Lays settings over those that hold. -/
  | configure (settings : Json)
  | storeRun (snapshot : Snapshot)
  | getTrace (request : TraceRequest)
  | showHeap (request : HeapRequest)
  | point (pointing : Pointing)
  | showStates (uri : String)
  | hideStates (uri : String)
  | addMarkers (uri : String)
  | removeMarkers (uri : String)
  | close (uri : String)
  | stop (uri : String)
  | disconnect

namespace Request

/-- The only field of what most commands are given. -/
def uriRecord : Json.Record String String := .required "uri" id .string

/-- The uri that a command is given. -/
def uriCodec : Json.Codec String := uriRecord.codec "UriParams" .plain

/-- What a command is given, put into a request. -/
def ofArguments {α : Type} (c : Json.Codec α) (f : α → Request) (arguments : Json) :
    Except Error Request :=
  ((c.decode arguments).map f).mapError .ofMisfit

/-- The request of a command and what it is given; an empty object if that is left out. -/
def parse (command : String) (arguments : Option Json) : Except Error Request :=
  let arguments := arguments.getD (.object [])
  match command with
  | "initialize" => .ok (.configure arguments)
  | "stepsAsDecorationOptions" => ofArguments Snapshot.codec .storeRun arguments
  | "getExecutionTrace" => ofArguments TraceRequest.codec .getTrace arguments
  | "showHeap" => ofArguments HeapRequest.codec .showHeap arguments
  | "selectionChanged" => ofArguments Pointing.codec .point arguments
  | "stateSelected" => ofArguments Pointing.codec .point arguments
  | "showStates" => ofArguments uriCodec .showStates arguments
  | "hideStates" => ofArguments uriCodec .hideStates arguments
  | "addMarkers" => ofArguments uriCodec .addMarkers arguments
  | "removeMarkers" => ofArguments uriCodec .removeMarkers arguments
  | "closeDocument" => ofArguments uriCodec .close arguments
  | "stopVerification" => ofArguments uriCodec .stop arguments
  | "disconnect" => .ok .disconnect
  | other => .error (.protocol (.unknownCommand other))

end Request

end Waymark
