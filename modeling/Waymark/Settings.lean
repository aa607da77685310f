import Waymark.Error
import Waymark.Files.Host
import Waymark.Json.Parser
import Waymark.Json.Record
import Waymark.Text.Blank
import Waymark.Trace.Walk
import Waymark.Words

/-! Settings: what the user chose, laid over the defaults key by key. -/

namespace Waymark
open Json
open Json.Record (required optional)

/-- What can be chosen. -/
structure Settings where
  simpleMode : Bool
  darkGraphs : Bool
  showStates : Bool
  /-- The command line of the program that renders graphs. -/
  dotExecutable : Option String
  /-- Where heap graphs are written to. -/
  heapDirectory : Path
deriving DecidableEq, Repr

namespace Settings

/-- The settings that hold until others are chosen, with the directory for temporary files. -/
def default (temporary : Path) : Settings :=
  ⟨true, true, false, none, temporary.join "state-debugger"⟩

instance : Inhabited Settings := ⟨default (.ofString "/tmp")⟩

/-- How much is shown around a selected state. -/
def mode (s : Settings) : Mode := if s.simpleMode then .simple else .advanced

/-- Paths as strings. -/
def pathCodec : Codec Path where
  encode p := .string (String.ofList (p.text?.getD []))
  decode v := ((Codec.stringAs "path string").decode v).map Path.ofString

/-- The fields of settings; those left out are as in `missing`. -/
def record (missing : Settings) : Record Settings Settings :=
  mk <$> optional "simpleMode" simpleMode .bool missing.simpleMode
    <*> optional "darkGraphs" darkGraphs .bool missing.darkGraphs
    <*> optional "showStates" showStates .bool missing.showStates
    <*> optional "dotExecutable" dotExecutable Codec.string.option missing.dotExecutable
    <*> optional "heapDirectory" heapDirectory pathCodec missing.heapDirectory

/-- The entries that settings are written as, if their path can be written. -/
def entries (s : Settings) : Except Error (Table Json) :=
  s.heapDirectory.written.map fun _ => (record s).entries s

/-- The settings under the keys of a value. Keys that no setting has are passed over. The settings
are written in full and the value goes over what was written, so no field is left out. -/
def merge (s : Settings) (value : Json) : Except Error Settings :=
  match value with
  | .object overrides =>
    match s.entries with
    | .error e => .error e
    | .ok written =>
      ((record s).decodeObject (Table.overlay written overrides)).mapError .ofMisfit
  | v => .error (.protocol (.settingsNotObject v))

/-- The defaults under the settings of a file. -/
def load (h : Host) (p : Path) : Except Error Settings :=
  match h.disk.readText p with
  | .error fault => .error (.file fault)
  | .ok text =>
    match Json.read? text with
    | none => .error (.json .malformed)
    | some value => (default h.temporary).merge value

/-- The program that renders graphs and what it is given first. A command line that cannot be
split is the program as a whole. -/
def rendererCommand? (s : Settings) : Option (Path × List String) :=
  match s.dotExecutable with
  | none => none
  | some line =>
    let line := Text.trimBlank line.toList
    if line.isEmpty then none
    else
      match (Words.split? line).getD [line] with
      | [] => none
      | program :: arguments => some (Path.ofText program, arguments.map String.ofList)

end Settings

end Waymark
