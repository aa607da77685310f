import Waymark.Files.Tree

/-! The machine around the program: its files, and the programs that can be started on it. -/

namespace Waymark

/-- Files, seen from a working directory. -/
structure Disk where
  tree : FileTree
  wd : Place
deriving DecidableEq, Repr

namespace Disk

/-- The contents of a file. -/
def read (d : Disk) (p : Path) : Except FileFault Bytes := d.tree.read d.wd p

/-- The text of a file. -/
def readText (d : Disk) (p : Path) : Except FileFault Text :=
  match d.read p with
  | .error fault => .error fault
  | .ok bytes => (Utf8.decode bytes).mapError fun _ => .notText

/-- Writes a whole file. -/
def write (d : Disk) (p : Path) (contents : Bytes) : Except FileFault Disk :=
  (d.tree.write d.wd p contents).map ({ d with tree := · })

/-- Makes a directory and those around it as far as they are missing. What was made before a step
failed stays. -/
def makeDirectories (d : Disk) (p : Path) : Except FileFault Unit × Disk :=
  let (result, tree) := d.tree.makeDirectories d.wd p
  (result, { d with tree })

/-- Whether there is anything at a path. -/
def exists? (d : Disk) (p : Path) : Bool := d.tree.exists? d.wd p

end Disk

/-- A program to start, and what it is given. -/
structure Launch where
  program : Path
  arguments : List Bytes
deriving DecidableEq, Repr

/-- A machine. Starting a program fails, or runs it to its end and gives the files as it leaves
them; how it ends is nobody's concern. -/
structure Host where
  disk : Disk
  start : Disk → Launch → Except FileFault Disk
  /-- The directory for temporary files. -/
  temporary : Path

namespace Host

/-- Runs a program to its end. -/
def run (h : Host) (l : Launch) : Except FileFault Host :=
  (h.start h.disk l).map ({ h with disk := · })

end Host

end Waymark
