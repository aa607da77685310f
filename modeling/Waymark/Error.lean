import Waymark.Anchor.Guard
import Waymark.Files.Fault
import Waymark.Files.Path
import Waymark.Json.Codec

/-! Errors: why a request or an operation failed, and how that is worded. -/

namespace Waymark

/-- How a peer broke the rules of the conversation. -/
inductive Breach
  | settingsNotObject (value : Json)
  | notFileUri (uri : String)
  | noLocalPath (uri : String)
  | unknownCommand (command : String)
  | badLength (line : Text)

namespace Breach

/-- The wording of a breach. -/
def message : Breach → String
  | settingsNotObject value => "settings must be an object, got " ++ value.text
  | notFileUri uri => "not a file uri: " ++ uri
  | noLocalPath uri => "uri has no local path: " ++ uri
  | unknownCommand command => "unhandled command: " ++ command
  | badLength line => "bad Content-Length header: " ++ String.ofList line

end Breach

/-- What was wrong with JSON: the text, or the value that it holds. -/
inductive JsonFault
  | malformed
  | misfit (m : Json.Misfit)
  /-- A path cannot be written, for it is not text. -/
  | pathNotText
deriving DecidableEq, Repr

namespace JsonFault

/-- The wording of a fault. -/
def message : JsonFault → String
  | malformed => "malformed JSON"
  | misfit m => m.message
  | pathNotText => "path contains invalid UTF-8 characters"

end JsonFault

/-- Why an operation failed. -/
inductive Error
  /-- What was meant for one document arrived at another. -/
  | identityMismatch (expected found : String)
  | unknownDocument (uri : String)
  | noSnapshot (uri : String)
  /-- There is no program to render graphs with, or not where it should be. -/
  | missingTool (path : Option Path)
  | missingFile (path : Path)
  /-- The editor refused to add or to remove anchors. -/
  | editRejected (uri : String) (op : Anchor.Operation)
  | protocol (breach : Breach)
  | file (fault : FileFault)
  | json (fault : JsonFault)

namespace Error

/-- How an error text shows where a program was looked for. -/
def showTool : Option Path → String
  | none => "None"
  | some p => "Some(" ++ String.ofList (Text.quoted p.text) ++ ")"

/-- The wording of an error. -/
def message : Error → String
  | identityMismatch expected found =>
    "uri mismatch: " ++ expected ++ " expected, " ++ found ++ " found"
  | unknownDocument uri => "no session for document " ++ uri
  | noSnapshot uri => "no decoration snapshot for document " ++ uri
  | missingTool path => "missing tool: dot executable not found at " ++ showTool path
  | missingFile path => "missing file: " ++ path.display
  | editRejected uri .add => "edit rejected for " ++ uri ++ ": apply was rejected"
  | editRejected uri .remove => "edit rejected for " ++ uri ++ ": edit was rejected"
  | protocol breach => "protocol error: " ++ breach.message
  | file fault => fault.message
  | json fault => fault.message

/-- The error for a file that could not be read. -/
def ofRead (p : Path) : FileFault → Error
  | .notFound => missingFile p
  | fault => file fault

/-- The error for a value that could not be converted. -/
def ofMisfit (m : Json.Misfit) : Error := json (.misfit m)

end Error

/-- The string that a path is written as. A path that is not text cannot be written. -/
def Path.written (p : Path) : Except Error String :=
  match p.text? with
  | none => .error (.json .pathNotText)
  | some t => .ok (String.ofList t)

end Waymark
