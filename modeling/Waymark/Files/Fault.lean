import Waymark.Text.Utf8

/-! What can go wrong when files and streams are used. -/

namespace Waymark

/-- Why an operation on a file or a stream failed. -/
inductive FileFault
  | notFound
  | permissionDenied
  | alreadyExists
  | notADirectory
  | isADirectory
  /-- A path, or one of its names, is longer than any can be. -/
  | nameTooLong
  /-- A stream ended inside a body whose length was announced. -/
  | endOfInput
  /-- Bytes that were to be text are none. -/
  | notText
  /-- Bytes that were to be text are none, and it is known where. -/
  | malformed (fault : Utf8.Fault)
  /-- A document cannot be saved. -/
  | readOnly
  /-- A path holds a zero byte. -/
  | nulInPath
  /-- What a program is given holds a zero byte. -/
  | nulInArgument
  /-- What a program is given is longer than it can be. -/
  | argumentTooLong
deriving DecidableEq, Repr

namespace FileFault

/-- The wording of a fault. -/
def message : FileFault → String
  | notFound => "No such file or directory (os error 2)"
  | permissionDenied => "Permission denied (os error 13)"
  | alreadyExists => "File exists (os error 17)"
  | notADirectory => "Not a directory (os error 20)"
  | isADirectory => "Is a directory (os error 21)"
  | nameTooLong => "File name too long (os error 36)"
  | endOfInput => "failed to fill whole buffer"
  | notText => "stream did not contain valid UTF-8"
  | malformed fault => fault.message
  | readOnly => "read-only file"
  | nulInPath => "file name contained an unexpected NUL byte"
  | nulInArgument => "nul byte found in provided data"
  | argumentTooLong => "Argument list too long (os error 7)"

end FileFault

end Waymark
