import Waymark.Error
import Waymark.Heap.Slots
import Waymark.Settings

/-! The renderer: a program that makes images of graph descriptions. -/

namespace Waymark

/-- A program and what it is given before the rest. -/
structure Renderer where
  program : Path
  arguments : List String
deriving DecidableEq, Repr

namespace Renderer

/-- The renderer that the settings name, if there is anything where it should be. -/
def ofSettings (d : Disk) (s : Settings) : Except Error Renderer :=
  match s.rendererCommand? with
  | none => .error (.missingTool none)
  | some (program, arguments) =>
    if d.exists? program then .ok ⟨program, arguments⟩ else .error (.missingTool (some program))

/-- What is started to render `dot` to `svg`. -/
def launch (r : Renderer) (dot svg : Path) : Launch :=
  ⟨r.program,
    r.arguments.map (fun a => Text.toBytes a.toList)
      ++ [Text.toBytes "-Tsvg".toList, dot.bytes, Text.toBytes "-o".toList, svg.bytes]⟩

/-- Renders `dot` to `svg`. How the program ends does not count, only that it starts. -/
def render (r : Renderer) (h : Host) (dot svg : Path) : Except Error Host :=
  if h.disk.exists? dot then (h.run (r.launch dot svg)).mapError .file
  else .error (.missingFile dot)

/-- Writes a description into a slot's file and renders it. What was done before a step failed
stays done. -/
def writeAndRender (r : Renderer) (h : Host) (dir : Path) (slot : Nat) (description : String) :
    Except Error Path × Host :=
  match h.disk.makeDirectories dir with
  | (.error fault, disk) => (.error (.file fault), { h with disk })
  | (.ok (), disk) =>
    let h := { h with disk }
    let dot := HeapSlots.dotPath dir slot
    let svg := HeapSlots.svgPath dir slot
    match h.disk.write dot (Text.toBytes description.toList) with
    | .error fault => (.error (.file fault), h)
    | .ok disk =>
      let h := { h with disk }
      match r.render h dot svg with
      | .error e => (.error e, h)
      | .ok h => (.ok svg, h)

end Renderer

end Waymark
