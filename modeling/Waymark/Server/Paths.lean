import Waymark.Server.Serve

/-! The paths that the server may look at, so that only these files have to be at hand. -/

namespace Waymark

namespace Request

/-- The file that a request has read: that of a document whose text does not come with it. -/
def opened : Request → List Path
  | .storeRun snapshot =>
    match snapshot.text with
    | some _ => []
    | none => (Uri.documentPath snapshot.uri).toOption.toList
  | _ => []

end Request

namespace Settings

/-- The files of both heap slots. -/
def heapPaths (s : Settings) : List Path :=
  [Slot.first, Slot.second].flatMap fun slot =>
    [HeapSlots.dotPath s.heapDirectory slot.index, HeapSlots.svgPath s.heapDirectory slot.index]

/-- The program that renders graphs. -/
def programPaths (s : Settings) : List Path := s.rendererCommand?.toList.map (·.1)

end Settings

namespace Server

/-- The files of the open documents. -/
def documentPaths (s : Server) : List Path := s.documents.filterMap (·.2.editor.path)

/-- The paths that are looked at when a body is received. -/
def pathsFor (s : Server) (body : Bytes) : List Path :=
  let opened :=
    match World.readBody body with
    | .ok ⟨_, _, .request command arguments⟩ =>
      match Request.parse command arguments with
      | .ok request => request.opened
      | .error _ => []
    | _ => []
  opened ++ s.documentPaths ++ s.settings.heapPaths ++ s.settings.programPaths

end Server

end Waymark
