import Waymark.Files.Fault
import Waymark.Files.Path

/-! A tree of files and directories, and the operations on it. -/

namespace Waymark

/-- The names from the root of a tree to one of its files or directories. -/
abbrev Place := List Path.Name

/-- What stands at a place. -/
inductive Node
  | file (contents : Bytes) (executable : Bool)
  | directory
deriving DecidableEq, Repr

/-- Files and directories by their places. The root is always a directory. -/
structure FileTree where
  entries : List (Place × Node)
deriving DecidableEq, Repr

namespace FileTree
variable {t : FileTree}

/-- A tree with nothing in it. -/
def empty : FileTree := ⟨[]⟩

/-- What stands at a place. -/
def node? (t : FileTree) (place : Place) : Option Node :=
  if place = [] then some .directory else t.entries.lookup place

/-- Binds a place, in front if it is new. -/
def setEntry (place : Place) (n : Node) : List (Place × Node) → List (Place × Node)
  | [] => [(place, n)]
  | (p, m) :: rest => if p = place then (p, n) :: rest else (p, m) :: setEntry place n rest

/-- The tree with something put at a place. -/
def set (t : FileTree) (place : Place) (n : Node) : FileTree := ⟨setEntry place n t.entries⟩

/-- The tree without a place and all below it. -/
def remove (t : FileTree) (place : Place) : FileTree :=
  ⟨t.entries.filter fun (p, _) => !place.isPrefixOf p⟩

/-- Walks along names. Whatever comes before a name has to be a directory, and no name can be too
long. -/
def walk (t : FileTree) (place : Place) : List Path.Name → Except FileFault Place
  | [] => .ok place
  | name :: names =>
    match t.node? place with
    | none => .error .notFound
    | some (.file ..) => .error .notADirectory
    | some .directory =>
      if name = [] ∨ name = Path.here then t.walk place names
      else if name = Path.above then t.walk place.dropLast names
      else if Path.longestName < name.length then .error .nameTooLong
      else t.walk (place ++ [name]) names

/-- The place of a path, seen from the directory `wd`. There may be nothing at it yet. -/
def locate (t : FileTree) (wd : Place) (p : Path) : Except FileFault Place :=
  if p.hasNul then .error .nulInPath
  else if p.bytes = [] then .error .notFound
  else if Path.longest < p.bytes.length then .error .nameTooLong
  else if p.isAbsolute then t.walk [] p.names
  else t.walk wd p.names

/-- What stands at a path. -/
def find (t : FileTree) (wd : Place) (p : Path) : Except FileFault (Place × Node) :=
  match t.locate wd p with
  | .error fault => .error fault
  | .ok place =>
    match t.node? place with
    | none => .error .notFound
    | some n => .ok (place, n)

/-- Whether there is anything at a path. -/
def exists? (t : FileTree) (wd : Place) (p : Path) : Bool := (t.find wd p).isOk

/-- The contents of a file. -/
def read (t : FileTree) (wd : Place) (p : Path) : Except FileFault Bytes :=
  match t.find wd p with
  | .error fault => .error fault
  | .ok (_, .directory) => .error .isADirectory
  | .ok (_, .file contents _) => .ok contents

/-- Writes a whole file, a new one if there is none at the path. Locating the path has made sure
that the directory around it is there. -/
def write (t : FileTree) (wd : Place) (p : Path) (contents : Bytes) : Except FileFault FileTree :=
  match t.locate wd p with
  | .error fault => .error fault
  | .ok place =>
    match t.node? place with
    | some .directory => .error .isADirectory
    | some (.file _ executable) => .ok (t.set place (.file contents executable))
    | none =>
      if p.bytes.getLast? = some Path.slash then .error .isADirectory
      else .ok (t.set place (.file contents false))

/-- Whether there is a directory at a path. -/
def isDirectory (t : FileTree) (wd : Place) (p : Path) : Bool :=
  match t.find wd p with
  | .ok (_, .directory) => true
  | _ => false

/-- Makes a directory in one that exists. -/
def makeDirectory (t : FileTree) (wd : Place) (p : Path) : Except FileFault FileTree :=
  if !p.hasNul && Path.longest < p.bytes.length then .error .nameTooLong
  else
    match t.locate wd p.withoutEndSlashes with
    | .error fault => .error fault
    | .ok place =>
      match t.node? place with
      | some _ => .error .alreadyExists
      | none => .ok (t.set place .directory)

/-- Makes sure that there is a directory at a path, in one that exists. -/
def ensureDirectory (t : FileTree) (wd : Place) (p : Path) : Except FileFault FileTree :=
  match t.makeDirectory wd p with
  | .error fault => if t.isDirectory wd p then .ok t else .error fault
  | .ok t => .ok t

/-- Makes sure that there are directories at all of some paths, each of which is in the one behind
it. Those behind a path are only tried if it has no place without them. What was made before a
step failed stays. -/
def ensureAll (t : FileTree) (wd : Place) : List Path → Except FileFault Unit × FileTree
  | [] => (.ok (), t)
  | p :: around =>
    match t.ensureDirectory wd p with
    | .ok t => (.ok (), t)
    | .error .notFound =>
      match t.ensureAll wd around with
      | (.error fault, t) => (.error fault, t)
      | (.ok (), t) =>
        match t.ensureDirectory wd p with
        | .ok t => (.ok (), t)
        | .error fault => (.error fault, t)
    | .error fault => (.error fault, t)

/-- Makes a directory and those around it as far as they are missing. The empty path asks for
nothing. -/
def makeDirectories (t : FileTree) (wd : Place) (p : Path) : Except FileFault Unit × FileTree :=
  if p.bytes = [] then (.ok (), t) else t.ensureAll wd (p :: p.directories)

/-- The places below a directory, with what stands there. -/
def below (t : FileTree) (place : Place) : List (Place × Node) :=
  t.entries.filterMap fun (p, n) =>
    if place.isPrefixOf p ∧ p ≠ place then some (p.drop place.length, n) else none

end FileTree

end Waymark
