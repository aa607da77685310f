import Waymark.Files.Path
import Waymark.Uri.Host

/-! File uris and the paths they stand for. Which bytes of a name are written with a percent sign is
what the url library has it to be. It is not the set for paths in the standard as it stands today,
which has the circumflex in it as well, but neither the percent sign nor the slashes. -/

namespace Waymark.Uri

/-- What a text says when it is read as a uri. -/
inductive Reading
  /-- It is no uri. -/
  | none
  /-- It is a uri of another scheme. -/
  | foreign
  /-- It is a file uri of another machine. -/
  | remote
  /-- It is a file uri of this machine. -/
  | file (p : Path)
deriving DecidableEq, Repr

/-- Tabs and line ends, which do not count in a uri. -/
def isPassedOver (c : Char) : Bool := c == '\t' || c == '\n' || c == '\r'

/-- A text without its tabs and line ends. -/
def clean (t : Text) : Text := t.filter fun c => !isPassedOver c

/-- The characters of a scheme behind its first letter. -/
def isSchemeChar (c : Char) : Bool := c.isAlphanum || c == '+' || c == '-' || c == '.'

/-- The scheme of a uri in small letters, and what stands behind its colon. -/
def scheme? (t : Text) : Option (Text × Text) :=
  match t with
  | [] => none
  | c :: _ =>
    if c.isAlpha then
      match t.dropWhile isSchemeChar with
      | ':' :: rest => some ((t.takeWhile isSchemeChar).map Char.toLower, rest)
      | _ => none
    else none

/-- Whether a character separates names in a path, where backslashes count as slashes. -/
def isSlash (c : Char) : Bool := c == '/' || c == '\\'

/-- Whether a character ends the path of a uri. -/
def endsPath (c : Char) : Bool := c == '?' || c == '#'

/-- A letter and a colon or a bar, as some machines name their disks. -/
def isDrive : Text → Bool
  | [c, d] => c.isAlpha && (d == ':' || d == '|')
  | _ => false

/-- The segments of a path between its slashes. -/
def segments (t : Text) : List Text :=
  Text.splitAt '/' (t.map fun c => if isSlash c then '/' else c)

/-- A segment with its dots put back. -/
def undotted : Text → Text
  | '%' :: '2' :: 'e' :: rest => '.' :: undotted rest
  | '%' :: '2' :: 'E' :: rest => '.' :: undotted rest
  | c :: rest => c :: undotted rest
  | [] => []

/-- The segments without the last one; a disk stays. -/
def shorten (done : List Text) : List Text :=
  match done.getLast? with
  | some s => if isDrive s then done else done.dropLast
  | none => []

/-- A disk at the front of a segment and what stands behind it, if a tab or a line end cuts them
apart. What is `before` the text belongs to the segment. -/
def splitDrive? (before : Text) : Text → Option (Text × Text)
  | [] => none
  | c :: rest =>
    if isPassedOver c then
      if isDrive before && !(clean rest).isEmpty then some (before, clean rest)
      else splitDrive? before rest
    else if before.length < 2 then splitDrive? (before ++ [c]) rest
    else none

/-- The segments of a path, and whether the first of them names a disk, so that the path belongs
to this machine. -/
structure Resolved where
  names : List Text
  onDisk : Bool
deriving DecidableEq, Repr

/-- Puts a segment behind those done. A disk at the front is written with a colon. -/
def Resolved.add (done : Resolved) (s : Text) : Resolved :=
  match done.names, s with
  | [], [c, _] => if isDrive s then ⟨[[c, ':']], true⟩ else { done with names := [s] }
  | ss, s => { done with names := ss ++ [s] }

/-- Resolves segments for the directory itself and for the one around it, behind those done. A
path that ends in one of them ends in a slash. A disk at the front that a tab or a line end cuts
off from the rest of its segment is a segment of its own. -/
def resolve (done : Resolved) : List Text → Resolved
  | [] => done
  | raw :: rest =>
    let s := clean raw
    let closed (done : List Text) := if rest.isEmpty then done ++ [[]] else done
    match (if done.names.isEmpty then splitDrive? [] raw else none) with
    | some (drive, s) => resolve { done with names := [drive, s] } rest
    | none =>
      if undotted s = ['.', '.'] then
        resolve { done with names := closed (shorten done.names) } rest
      else if undotted s = ['.'] then
        resolve { done with names := closed done.names } rest
      else resolve (done.add s) rest

/-- The bytes of a path with the slash that belongs behind the name of a disk. -/
def closeDrive (bytes : Bytes) : Bytes :=
  match bytes.reverse with
  | a :: b :: _ :: _ =>
    if isDrive [Char.ofNat b.toNat, Char.ofNat a.toNat] then bytes ++ [Path.slash] else bytes
  | _ => bytes

/-- The path that segments name: empty ones at the front are passed over. -/
def pathOfSegments (ss : List Text) : Path :=
  let ss := ss.dropWhile List.isEmpty
  if ss.isEmpty then ⟨[Path.slash]⟩
  else ⟨closeDrive (ss.flatMap fun s => Path.slash :: Percent.decode (Text.toBytes s))⟩

/-- What the path of a file uri comes to, by what stands behind its first slash. -/
def Resolved.ofText (t : Text) : Resolved :=
  resolve ⟨[], false⟩ (segments (t.takeWhile fun c => !endsPath c))

/-- The local path that a path stands for. -/
def localPath (t : Text) : Path := pathOfSegments (Resolved.ofText t).names

/-- What follows the slash at the front of a text, if there is one. -/
def behindSlash? (t : Text) : Option Text :=
  match t.dropWhile isPassedOver with
  | c :: rest => if isSlash c then some rest else none
  | [] => none

/-- Reads what follows the host of a file uri of another machine. A path on a disk is one of this
machine all the same. -/
def readRemote (t : Text) : Reading :=
  let path := Resolved.ofText ((behindSlash? t).getD t)
  if path.onDisk then .file (pathOfSegments path.names) else .remote

/-- Reads what follows two slashes in a file uri. A disk there is no host, and with no host a slash
in front of the path counts as an empty segment. -/
def readAuthority (t : Text) : Reading :=
  let host := t.takeWhile fun c => !(isSlash c || endsPath c)
  let name := clean host
  if name.isEmpty || isDrive name then .file (localPath t)
  else
    match Host.ofText? name with
    | none => .none
    | some .other => readRemote (t.drop host.length)
    | some .own => .file (localPath (t.drop host.length))

/-- Reads what follows the colon of a file uri. -/
def readFile (t : Text) : Reading :=
  match behindSlash? t with
  | none => .file (localPath t)
  | some rest =>
    match behindSlash? rest with
    | none => .file (localPath rest)
    | some rest => readAuthority rest

/-- Whether the port of a uri, with all up to the path, is well formed. A backslash ends it even
where backslashes are no slashes. -/
def isPort (t : Text) : Bool :=
  let digits := t.takeWhile (· ≠ '\\')
  digits.all Char.isDigit && (Text.number? 10 digits).any (· ≤ 65535)

/-- The host at the front of a text and what follows it; colons in brackets belong to it. -/
def takeHost : (inBrackets : Bool) → Text → Text × Text
  | _, [] => ([], [])
  | inBrackets, c :: cs =>
    if c = ':' ∧ !inBrackets then ([], c :: cs)
    else
      let inBrackets := c = '[' || (inBrackets && c != ']')
      let (host, rest) := takeHost inBrackets cs
      (c :: host, rest)

/-- What stands before the last `@` of a text, if there is one, and what stands behind it. -/
def splitUser (t : Text) : Option Text × Text :=
  match (Text.splitAt '@' t).getLast? with
  | none => (none, t)
  | some rest =>
    if rest.length < t.length then (some (t.take (t.length - rest.length - 1)), rest) else (none, t)

/-- Whether a host may be left out. Where schemes name machines it may not; elsewhere there must
be no port then and no user, but for one without a name if the uri ends there. -/
def mayOmitHost (special ended : Bool) (user : Option Text) (port : Text) : Bool :=
  !special && port.isEmpty
    && match user with
      | none => true
      | some name => name == [':'] || (name.isEmpty && ended)

/-- Whether what stands between two slashes and the path of a uri is well formed; `ended` says
that nothing follows it. -/
def isAuthority (special ended : Bool) (t : Text) : Bool :=
  let (user, rest) := splitUser t
  let (host, port) := takeHost false rest
  if host.isEmpty then mayOmitHost special ended user port
  else
    (if special then (Host.ofText? host).isSome else isOpaqueHost host)
      && (port.isEmpty || isPort (port.drop 1))

/-- The schemes whose uris always name a machine. -/
def isMachineScheme (s : Text) : Bool :=
  ["http", "https", "ws", "wss", "ftp"].any (·.toList == s)

/-- Whether a uri of a scheme other than `file` is well formed, by what follows its colon. -/
def isForeign (scheme rest : Text) : Bool :=
  if isMachineScheme scheme then
    isAuthority true false ((rest.dropWhile isSlash).takeWhile fun c => !(isSlash c || endsPath c))
  else
    match rest with
    | '/' :: '/' :: rest =>
      let authority := rest.takeWhile fun c => !(c == '/' || endsPath c)
      isAuthority false (authority.length == rest.length) authority
    | _ => true

/-- Reads a text as a uri, without controls and blanks at its ends. -/
def read (t : Text) : Reading :=
  let t := t.trim (·.toNat ≤ 0x20)
  match scheme? (clean t) with
  | none => .none
  | some (scheme, rest) =>
    if scheme = "file".toList then readFile ((t.dropWhile (· ≠ ':')).drop 1)
    else if isForeign scheme rest then .foreign
    else .none

/-- The bytes that are written with a percent sign in a segment. -/
def isEncoded (b : UInt8) : Bool :=
  b ≤ 0x20 || 0x7F ≤ b || "\"#<>?\x60\x7b\x7d/%\\".toList.contains (Char.ofNat b.toNat)

/-- The file uri of a path. Segments for the directory itself are left out; those for the one
around it stay. A path that does not start at the root is not encoded. -/
def ofPath (p : Path) : Text :=
  if p.isAbsolute then
    let names := p.names.filter fun n => n ≠ [] && n ≠ Path.here
    "file://".toList
      ++ (if names.isEmpty then ['/'] else names.flatMap fun n => '/' :: Percent.encode isEncoded n)
  else "file://".toList ++ p.text

end Waymark.Uri
