import Waymark.Anchor.Edit
import Waymark.Exchange.Types
import Waymark.Json.Record

/-! How what is exchanged is written as JSON. Every record keeps its fields in one order, which
arrays follow too. -/

namespace Waymark
open Json
open Json.Record (required optional readOnly Setting)

namespace Position

/-- The fields of a position. -/
def record : Record Position Position :=
  mk <$> required "line" line .word32 <*> required "character" character .word32

/-- Positions. -/
def codec (setting : Setting) : Codec Position := record.codec "Position" setting

end Position

namespace Range

/-- The fields of a range. -/
def record (setting : Setting) : Record Range Range :=
  mk <$> required "start" start (Position.codec setting)
    <*> required "end" stop (Position.codec setting)

/-- Ranges. -/
def codec (setting : Setting) : Codec Range := (record setting).codec "Range" setting

end Range

namespace Colour

/-- The colour of a name. -/
def ofName (s : String) : Except Misfit Colour :=
  match ofName? s with
  | some c => .ok c
  | none => .error (.unknownVariant s (names.map (·.1)))

/-- Colours are strings; an object with the name as its only key and null under it is read as
well. -/
def codec : Codec Colour where
  encode c := .string c.name
  decode v :=
    match v with
    | .string s => ofName s
    | .object [(key, v)] =>
      match ofName key, v with
      | .ok c, .null => .ok c
      | .ok _, v => .error (.wrongType v.kind "unit")
      | .error m, _ => .error m
    | .object _ => .error (.wrongValue .map "map with a single key")
    | v => .error (.wrongType v.kind "string or map")

end Colour

namespace Glyph

/-- A glyph is read from the text that was rendered. -/
def codec : Codec Glyph where
  encode _ := .null
  decode v := (Codec.string.option.decode v).map ofRendered

end Glyph

namespace Step

/-- The fields of a step; its depth is not sent. -/
def record : Record Step Step :=
  (fun index parent isBranch verifiable verifiableName decoration position heap =>
      ⟨index, parent, isBranch, verifiable, verifiableName, decoration, position, heap, 0⟩)
    <$> required "index" index .size
    <*> optional "parent" parent Codec.size.option none
    <*> optional "isBranch" isBranch .bool false
    <*> required "verifiableId" verifiable .size
    <*> optional "verifiableName" verifiableName Codec.string.option none
    <*> optional "decoration" decoration Codec.size.option none
    <*> optional "position" position (Position.codec .plain).option none
    <*> optional "heap" heap Codec.string.option none

/-- Steps. -/
def codec : Codec Step := record.codec "VerificationStep" .plain

end Step

namespace Marker

/-- The fields of a marker. Its range is not sent, and what it shows is only read. -/
def record : Record Marker Marker :=
  (fun index origin depth method isError parent number hover glyph colour =>
      ⟨index, origin, ⟨⟨0, 0⟩, ⟨0, 0⟩⟩, depth, method, isError, parent, number, hover, glyph,
        colour⟩)
    <$> required "index" index .size
    <*> required "originalPosition" origin (Position.codec .plain)
    <*> optional "depth" depth .size 0
    <*> optional "methodIndex" method .size 0
    <*> optional "isErrorState" isError .bool false
    <*> optional "parent" parent Codec.size.option none
    <*> required "numberToDisplay" number .size
    <*> optional "hoverMessage" hover .string ""
    <*> readOnly "contentText" Glyph.codec .hidden
    <*> optional "color" colour Colour.codec .uninteresting

/-- Markers. -/
def codec : Codec Marker := record.codec "DecorationOption" .plain

end Marker

namespace Snapshot

/-- The fields of a snapshot. -/
def record : Record Snapshot Snapshot :=
  mk <$> required "uri" uri .string
    <*> optional "steps" steps Step.codec.list []
    <*> required "decorationOptions" markers Marker.codec.list
    <*> optional "globalInfo" info Codec.string.option none
    <*> optional "text" text Codec.text.option none

/-- Snapshots. -/
def codec : Codec Snapshot := record.codec "RunSnapshot" .plain

end Snapshot

namespace TraceEntry

/-- The fields of a trace entry. -/
def record : Record TraceEntry TraceEntry :=
  mk <$> required "state" state .size
    <*> required "color" colour Colour.codec
    <*> required "show" visible .bool

/-- Trace entries. -/
def codec : Codec TraceEntry := record.codec "TraceEntry" .plain

end TraceEntry

namespace TraceRequest

/-- The fields of a request for a trace. -/
def record : Record TraceRequest TraceRequest :=
  mk <$> optional "requestId" requestId .word64 0
    <*> required "uri" uri .string
    <*> required "clientState" state .size

/-- Requests for traces. -/
def codec : Codec TraceRequest := record.codec "ExecutionTraceParams" .plain

end TraceRequest

namespace TraceReply

/-- The fields of a trace. -/
def record : Record TraceReply TraceReply :=
  mk <$> required "requestId" requestId .word64
    <*> required "uri" uri .string
    <*> required "trace" entries TraceEntry.codec.list

/-- Traces. -/
def codec : Codec TraceReply := record.codec "ExecutionTrace" .plain

end TraceReply

namespace HeapRequest

/-- The fields of a request for a heap. -/
def record : Record HeapRequest HeapRequest :=
  mk <$> optional "requestId" requestId .word64 0
    <*> required "uri" uri .string
    <*> required "clientIndex" state .size

/-- Requests for heaps. -/
def codec : Codec HeapRequest := record.codec "ShowHeapParams" .plain

end HeapRequest

namespace HeapGraph

/-- The fields of a heap graph. -/
def record : Record HeapGraph HeapGraph :=
  mk <$> required "requestId" requestId .word64
    <*> required "fileUri" uri .string
    <*> required "state" state .size
    <*> required "heap" heap .string
    <*> optional "methodName" method Codec.string.option none
    <*> optional "position" position (Position.codec .plain).option none

/-- Heap graphs. -/
def codec : Codec HeapGraph := record.codec "HeapGraph" .plain

end HeapGraph

namespace RenderedMarker

/-- The fields of a rendered marker. -/
def record : Record RenderedMarker RenderedMarker :=
  mk <$> required "range" range (Range.codec .plain)
    <*> required "contentText" text .string
    <*> required "color" colour .string
    <*> required "hoverMessage" hover .string

/-- Rendered markers. -/
def codec : Codec RenderedMarker := record.codec "RenderedDecoration" .plain

end RenderedMarker

namespace Pointing

/-- The field of its own; the position's fields stand beside it in the same object. -/
def record : Record Pointing String := required "uri" uri .string

/-- Places in documents. Only an object is read, its own field before those of the position. -/
def codec : Codec Pointing where
  encode p :=
    .ofFields [("uri", .string p.uri), ("line", .nat p.position.line),
      ("character", .nat p.position.character)]
  decode v :=
    match v with
    | .object entries =>
      match record.decodeObject entries with
      | .error m => .error m
      | .ok uri => (Position.record.decodeObject entries).map fun position => ⟨uri, position⟩
    | v => .error (.wrongType v.kind "struct SelectionParams")

end Pointing

namespace TextEdit

/-- The kinds of edits by their tags. -/
def tags : List String := ["insert", "delete"]

/-- The fields of an insertion. -/
def insertRecord : Record (Position × Text) (Position × Text) :=
  Prod.mk <$> required "at" (·.1) (Position.codec .tagged) <*> required "text" (·.2) .text

/-- The fields of a deletion. -/
def deleteRecord : Record Range Range := required "range" id (Range.codec .tagged)

/-- The fields of an edit whose tag is known. -/
def decodeTagged (tag : String) (fields : Json) : Except Misfit TextEdit :=
  if tag = "insert" then
    (insertRecord.decode .tagged "struct variant TextEdit::Insert" fields).map fun (p, t) =>
      .insert p t
  else if tag = "delete" then
    (deleteRecord.decode .tagged "struct variant TextEdit::Delete" fields).map .delete
  else .error (.unknownVariant tag tags)

/-- The tag of an edit. -/
def decodeTag (v : Json) : Except Misfit String :=
  match v with
  | .string tag => if tags.contains tag then .ok tag else .error (.unknownVariant tag tags)
  | v => .error (.wrongType v.kind "variant identifier")

/-- Edits carry their tag among their fields, in an array in front of them. -/
def codec : Codec TextEdit where
  encode e :=
    match e with
    | .insert p t =>
      .ofFields [("kind", .string "insert"), ("at", (Position.codec .tagged).encode p),
        ("text", Codec.text.encode t)]
    | .delete r =>
      .ofFields [("kind", .string "delete"), ("range", (Range.codec .tagged).encode r)]
  decode v :=
    match v with
    | .object entries =>
      match Table.get? entries "kind" with
      | none => .error (.missingField "kind")
      | some tag => do
        let tag ← decodeTag tag
        decodeTagged tag (.object (entries.filter fun e => e.1 != "kind"))
    | .array [] => .error (.missingField "kind")
    | .array (tag :: fields) => do
      let tag ← decodeTag tag
      decodeTagged tag (.array fields)
    | v => .error (.wrongType v.kind "internally tagged enum TextEdit")

end TextEdit

namespace EditBatch

/-- The fields of a batch. -/
def record : Record EditBatch EditBatch :=
  mk <$> required "uri" uri .string <*> required "edits" edits TextEdit.codec.list

/-- Batches of edits. -/
def codec : Codec EditBatch := record.codec "WorkspaceEdit" .plain

end EditBatch

end Waymark
