import Waymark.Shell.Run

/-! A machine with a shell: the programs on it are the shell and two that do nothing. -/

namespace Waymark.Shell

/-- The places where a program without a slash in its name is looked for. -/
def searchPath : List Place := [["usr", "bin"], ["bin"]].map (·.map fun n => bytesOf n.toList)

/-- What stands where a program is looked for. -/
def findProgram (d : Disk) (p : Path) : Except FileFault (Place × Node) :=
  if p.bytes.contains Path.slash then d.tree.find d.wd p
  else if p.bytes.isEmpty then .error .notFound
  else if Path.longestName < p.bytes.length then .error .nameTooLong
  else
    let found := searchPath.filterMap fun dir =>
      (d.tree.node? (dir ++ [p.bytes])).map fun n => (dir ++ [p.bytes], n)
    match found with
    | [] => .error .notFound
    | f :: _ => .ok f

/-- Runs the program of a name. The shell runs the script behind its option `-c`. -/
def runProgram (d : Disk) (name : Path.Name) (args : List Bytes) : Disk :=
  if name = bytesOf "sh".toList then
    match args with
    | option :: script :: args =>
      if option = bytesOf "-c".toList then run d (Utf8.decodeLossy script) args else d
    | _ => d
  else d

/-- How long one of the arguments of a program can be, in bytes. -/
def longestArgument : Nat := 131071

/-- Starts a program, if it is there and may be run. -/
def start (d : Disk) (l : Launch) : Except FileFault Disk :=
  if l.program.hasNul || l.arguments.any (·.contains 0) then .error .nulInArgument
  else
    match findProgram d l.program with
    | .error fault => .error fault
    | .ok (_, .directory) => .error .permissionDenied
    | .ok (_, .file _ false) => .error .permissionDenied
    | .ok (place, .file _ true) =>
      if l.arguments.any (longestArgument < ·.length) then .error .argumentTooLong
      else .ok (runProgram d (place.getLast?.getD []) l.arguments)

/-- The directories and programs of the machine. -/
def systemEntries : List (Place × Node) :=
  let dir (names : List String) : Place × Node :=
    (names.map fun n => bytesOf n.toList, .directory)
  let program (name : String) : Place × Node :=
    ([bytesOf "bin".toList, bytesOf name.toList], .file [] true)
  [dir ["bin"], dir ["usr"], dir ["usr", "bin"], dir ["tmp"], program "sh", program "true",
    program "false"]

/-- The machine with the working directory `wd`, which is made if need be. -/
def machine (wd : Place) : Host :=
  let tree : FileTree := ⟨systemEntries⟩
  let path : Path := ⟨wd.flatMap fun name => Path.slash :: name⟩
  ⟨⟨(tree.makeDirectories [] path).2, wd⟩, start, .ofString "/tmp"⟩

end Waymark.Shell
