import Waymark.Error
import Waymark.Exchange.Codec

/-! Events: what is told to the editor without its asking. -/

namespace Waymark

/-- What the editor is told. -/
inductive Event
  /-- These markers replace all that the document has. -/
  | setDecorations (uri : String) (markers : List RenderedMarker)
  /-- The heap of a state has been rendered. -/
  | heapGraph (uri : String) (state : Nat) (svg : Path) (method : Option String)
  /-- The user can do something about an error. -/
  | hint (message : String)
deriving DecidableEq, Repr

namespace Event

/-- The name of an event in messages. -/
def name : Event → String
  | setDecorations .. => "setDecorations"
  | heapGraph .. => "heapGraph"
  | hint .. => "hint"

/-- What an event tells. It cannot be told where an image is if its path is not text. -/
def body : Event → Except Error Json
  | setDecorations uri markers =>
    .ok (.ofFields [("uri", .string uri),
      ("decorations", .ofList RenderedMarker.codec.encode markers)])
  | heapGraph uri state svg method =>
    match svg.written with
    | .error e => .error e
    | .ok svg =>
      .ok (.ofFields [("uri", .string uri), ("state", .nat state), ("svgPath", .string svg),
        ("methodName", .ofOption .string method)])
  | hint message => .ok (.ofFields [("message", .string message)])

end Event

end Waymark
