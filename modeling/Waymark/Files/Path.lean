import Waymark.Text.Utf8

/-! Paths of files: bytes, with slashes between names. -/

namespace Waymark

/-- A path as it was given. Paths need not be text. -/
structure Path where
  bytes : Bytes
deriving DecidableEq, Repr, Inhabited

namespace Path

/-- A name between slashes. -/
abbrev Name := Bytes

/-- The byte between names. -/
def slash : UInt8 := 0x2F

/-- The name of a directory itself. -/
def here : Name := [0x2E]

/-- The name of the directory around. -/
def above : Name := [0x2E, 0x2E]

/-- The path that a text spells. -/
def ofText (t : Text) : Path := ⟨t.toBytes⟩

/-- The path that a string spells. -/
def ofString (s : String) : Path := ofText s.toList

/-- The text that spells a path, if one does. -/
def text? (p : Path) : Option Text := (Utf8.decode p.bytes).toOption

/-- A path as it is shown to people. -/
def text (p : Path) : Text := Utf8.decodeLossy p.bytes

/-- A path as a string to be shown. -/
def display (p : Path) : String := String.ofList p.text

/-- Splits at every slash; there is always one name more than slashes. -/
def split : Bytes → List Name
  | [] => [[]]
  | b :: bs =>
    if b = slash then [] :: split bs
    else
      match split bs with
      | [] => [[b]]
      | name :: names => (b :: name) :: names

/-- The names of a path, empty ones included. -/
def names (p : Path) : List Name := split p.bytes

/-- Whether a path starts at the root. -/
def isAbsolute (p : Path) : Bool := p.bytes.head? == some slash

/-- The path of `name` in the directory `p`. -/
def join (p : Path) (name : String) : Path :=
  if p.bytes.isEmpty || p.bytes.getLast? == some slash then ⟨p.bytes ++ (ofString name).bytes⟩
  else ⟨p.bytes ++ slash :: (ofString name).bytes⟩

/-- A path without the slashes at its end; of slashes alone, one stays. -/
def withoutEndSlashes (p : Path) : Path :=
  match (p.bytes.reverse.dropWhile (· == slash)).reverse with
  | [] => ⟨p.bytes.take 1⟩
  | bytes => ⟨bytes⟩

/-- Whether a path holds a zero byte, which no file's path does. -/
def hasNul (p : Path) : Bool := p.bytes.contains 0

/-- How long a path can be, in bytes. -/
def longest : Nat := 4095

/-- How long a name can be, in bytes. -/
def longestName : Nat := 255

/-- Whether a name leads somewhere. An empty one does not, and one for the directory itself only
does at the front of a path. -/
def leads (front : Bool) (name : Name) : Bool := name != [] && (front || name != here)

/-- The paths that some of the names at the front of a path make, up to one that leads somewhere.
The longest come first. -/
def fronts (p : Path) : List Path :=
  let fronts := (List.range p.names.length).map fun n => p.names.take (n + 1)
  let leading := fronts.filter fun names => leads (names.length == 1) (names.getLast?.getD [])
  leading.reverse.map fun names => ⟨List.intercalate [slash] names⟩

/-- The directories around a path that it names itself, the nearest first. -/
def directories (p : Path) : List Path := p.fronts.drop 1

end Path

end Waymark
