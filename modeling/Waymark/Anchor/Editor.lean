import Waymark.Anchor.Edit
import Waymark.Error
import Waymark.Files.Host
import Waymark.Uri.File

/-! Editors: who holds the text of a document and makes the edits to it. -/

namespace Waymark

/-- What anchors need of an editor. Each operation also gives the editor as it is afterwards. -/
class Editor (ε : Type) where
  /-- The uri of the document. -/
  uri : ε → String
  /-- The text of the document. -/
  text : ε → Text
  /-- Makes all edits of a batch, or answers false and makes none. -/
  apply : ε → EditBatch → Except Error Bool × ε
  /-- Makes the text last. -/
  save : ε → Except Error Unit × ε

/-- A document held in memory, with the file it came from, if it came from one. -/
structure TextDocument where
  uri : String
  path : Option Path
  text : Text
  version : Nat
deriving DecidableEq, Repr

namespace TextDocument

/-- A document that is in no file. -/
def ofText (uri : String) (text : Text) : TextDocument := ⟨uri, none, text, 0⟩

/-- Reads a document from its file. -/
def read (d : Disk) (p : Path) : Except Error TextDocument :=
  match d.readText p with
  | .error fault => .error (.ofRead p fault)
  | .ok text => .ok ⟨String.ofList (Uri.ofPath p), some p, text, 0⟩

/-- Replaces the whole text, as its user may. -/
def setText (doc : TextDocument) (text : Text) : TextDocument :=
  { doc with text, version := doc.version + 1 }

/-- Makes the edits of a batch that is meant for this document. -/
def apply (doc : TextDocument) (b : EditBatch) : Except Error Bool × TextDocument :=
  if b.uri = doc.uri then
    match b.result? doc.text with
    | some text => (.ok true, doc.setText text)
    | none => (.ok false, doc)
  else (.error (.identityMismatch doc.uri b.uri), doc)

/-- Writes the text to the document's file, if it has one. -/
def save (doc : TextDocument) (d : Disk) : Except Error Disk :=
  match doc.path with
  | none => .ok d
  | some p => (d.write p doc.text.toBytes).mapError .file

end TextDocument

/-- A document on the disk that it is saved to. -/
structure Buffer where
  document : TextDocument
  disk : Disk
deriving DecidableEq, Repr

namespace Buffer

instance : Editor Buffer where
  uri b := b.document.uri
  text b := b.document.text
  apply b batch :=
    let (answer, document) := b.document.apply batch
    (answer, { b with document })
  save b :=
    match b.document.save b.disk with
    | .ok disk => (.ok (), { b with disk })
    | .error e => (.error e, b)

end Buffer

/-- What an editor may be unwilling to do. -/
inductive Reluctance
  /-- It does all that it is asked. -/
  | willing
  /-- It refuses every batch of edits. -/
  | refusesEdits
  /-- It edits, but cannot save. -/
  | cannotSave
deriving DecidableEq, Repr

/-- An editor that does not do all that it is asked. -/
structure ReluctantBuffer where
  buffer : Buffer
  reluctance : Reluctance
deriving DecidableEq, Repr

namespace ReluctantBuffer

instance : Editor ReluctantBuffer where
  uri b := Editor.uri b.buffer
  text b := Editor.text b.buffer
  apply b batch :=
    if b.reluctance = .refusesEdits then (.ok false, b)
    else
      let (answer, buffer) := Editor.apply b.buffer batch
      (answer, { b with buffer })
  save b :=
    if b.reluctance = .cannotSave then (.error (.file .readOnly), b)
    else
      let (answer, buffer) := Editor.save b.buffer
      (answer, { b with buffer })

end ReluctantBuffer

namespace Uri

/-- The path of a document: that of its file uri, or the text itself if it is no uri. -/
def documentPath (uri : String) : Except Error Path :=
  match read uri.toList with
  | .none => .ok (Path.ofString uri)
  | .foreign => .error (.protocol (.notFileUri uri))
  | .remote => .error (.protocol (.noLocalPath uri))
  | .file p => .ok p

end Uri

end Waymark
