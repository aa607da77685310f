import Waymark.CommandLine
import Waymark.Server.Paths
import Waymark.Shell.Machine

/-! The program on a real machine. Before each step the files that it may look at are loaded, and
after it what has changed is written back. -/

namespace Waymark.Main

/-- The name that a place has on the machine. -/
def nameOf (place : Place) : String :=
  "/" ++ "/".intercalate (place.map fun n => String.ofList (Utf8.decodeLossy n))

/-- What stands at a place, if anything does that can be read. -/
def lookUp (place : Place) : IO (Option Node) := do
  let path := (← IO.currentDir) / nameOf place
  if ← path.isDir then return some .directory
  match ← (IO.FS.readBinFile path).toBaseIO with
  | .ok contents => return some (.file contents.toList true)
  | .error _ => return none

/-- The working directory. -/
def workingPlace : IO Place := do
  return (Path.ofString (← IO.currentDir).toString).names.filter (!·.isEmpty)

/-- Loads what stands at a path, and the directories on the way to it. -/
def load (wd : Place) (t : FileTree) (p : Path) : IO FileTree := do
  let mut t := t
  let mut place := if p.isAbsolute then [] else wd
  for name in p.names do
    if name = Path.above then place := place.dropLast
    else if name ≠ [] ∧ name ≠ Path.here then
      place := place ++ [name]
      if let some n ← lookUp place then t := t.set place n
  return t

/-- The disk as far as the given paths show it. -/
def diskOf (paths : List Path) : IO Disk := do
  let wd ← workingPlace
  let tree ← (Path.ofString (nameOf wd) :: paths).foldlM (load wd) .empty
  return ⟨tree, wd⟩

/-- Writes back what has changed between two disks. -/
def writeBack (old new : Disk) : IO Unit := do
  for (place, n) in old.tree.entries do
    if new.tree.entries.lookup place = none then
      match n with
      | .directory => IO.FS.removeDirAll (nameOf place)
      | .file .. => IO.FS.removeFile (nameOf place)
  for (place, n) in new.tree.entries do
    if old.tree.entries.lookup place ≠ some n then
      match n with
      | .directory => IO.FS.createDirAll (nameOf place)
      | .file contents _ => IO.FS.writeBinFile (nameOf place) (.mk contents.toArray)

/-- Sends bytes at once. -/
def send (output : IO.FS.Stream) (bytes : Bytes) : IO Unit := do
  output.write (.mk bytes.toArray)
  output.flush

/-- Says why the program stops. -/
def complain (e : Error) : IO UInt32 := do
  IO.eprintln e.message
  return 1

/-- Reads up to the next line feed, behind what has been read of the line in reverse. -/
partial def readLine (input : IO.FS.Stream) (line : Bytes) : IO Bytes := do
  match (← input.read 1).toList with
  | [] => return line.reverse
  | b :: _ => if b = 0x0A then return (b :: line).reverse else readLine input (b :: line)

/-- Reads so many bytes, or all that are left. -/
partial def readBytes (input : IO.FS.Stream) (wanted : Nat) (found : ByteArray) :
    IO ByteArray := do
  if wanted ≤ found.size then return found
  let more ← input.read (wanted - found.size).toUSize
  if more.isEmpty then return found else readBytes input wanted (found ++ more)

/-- Reads the next body behind its headers; nothing at the end of the input. -/
partial def nextBody (input : IO.FS.Stream) (announced : Nat) :
    IO (Except Error (Option Bytes)) := do
  let line ← readLine input []
  if line.isEmpty then return .ok none
  match Frame.readHeader announced line with
  | .error e => return .error e
  | .ok (.announced n) => nextBody input n
  | .ok .finished =>
    let body ← readBytes input announced .empty
    if body.size < announced then return .error (.file .endOfInput)
    return .ok (some body.toList)

/-- The machine as far as the given paths show it. -/
def hostOf (paths : List Path) : IO Host := do
  let temporary := (← IO.getEnv "TMPDIR").getD "/tmp"
  return ⟨← diskOf paths, Shell.start, .ofString temporary⟩

/-- Serves until the end of the input; each answer is sent before the next body is read. -/
partial def serve (input output : IO.FS.Stream) (s : Server) : IO UInt32 := do
  match ← nextBody input 0 with
  | .error e => complain e
  | .ok none =>
    let w : World := ⟨s, ← hostOf s.documentPaths⟩
    writeBack w.host.disk w.shutdown.host.disk
    return 0
  | .ok (some body) =>
    let w : World := ⟨s, ← hostOf (s.pathsFor body)⟩
    match w.receive body with
    | .error e => complain e
    | .ok answer =>
      writeBack w.host.disk answer.world.host.disk
      send output (World.output answer.messages)
      match answer.goesOn with
      | .error e => complain e
      | .ok true => serve input output answer.world.server
      | .ok false => return 0

/-- Does what an invocation asks for. -/
def invoke (i : CommandLine.Invocation) : IO UInt32 := do
  let h ← hostOf (i.logFile.toList ++ i.config.toList)
  let (settings, prepared) := CommandLine.prepare i h
  writeBack h.disk prepared.disk
  match settings, i.action with
  | .error e, _ => complain e
  | .ok settings, .serve => serve (← IO.getStdin) (← IO.getStdout) (.ofSettings settings)
  | .ok _, .strip files =>
    let disk ← diskOf files
    let (lines, stripped) := CommandLine.stripFiles disk files
    writeBack disk stripped
    send (← IO.getStdout) lines.toBytes
    return 0

/-- How the program is used. -/
def usage : String :=
  "Usage: state-debugger [--config FILE] [--log-level LEVEL] [--log-file FILE]\n"
    ++ "                      [serve | strip-markers FILE...]"

/-- Runs the program. -/
def run (args : List String) : IO UInt32 := do
  match CommandLine.read args with
  | .misuse =>
    IO.eprintln usage
    return 2
  | .help =>
    IO.println usage
    return 0
  | .version =>
    IO.println CommandLine.version
    return 0
  | .invocation i => invoke i

end Waymark.Main

/-- Runs the program with the arguments that it is given. -/
def main (args : List String) : IO UInt32 := Waymark.Main.run args
