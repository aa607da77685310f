import Waymark.Files.Host
import Waymark.Shell.Script

/-! Running scripts: what their commands do to files. -/

namespace Waymark.Shell

/-- What is printed by a command, and whether it succeeded. -/
structure Effect where
  disk : Disk
  output : Bytes
  ok : Bool

/-- The bytes of a word of a script. -/
def bytesOf (t : Text) : Bytes := t.toBytes

/-- The words that a word of a script stands for, with arguments counted from the script's
name. -/
def expand (args : List Bytes) (w : Word) : List Bytes :=
  let add (done : List Bytes) (b : Bytes) : List Bytes :=
    match done.reverse with
    | [] => [b]
    | last :: front => ((last ++ b) :: front).reverse
  w.foldl
    (fun done piece =>
      match piece with
      | .text t => add done (bytesOf t)
      | .argument n => add done ((args[n]?).getD [])
      | .arguments =>
        match args.drop 1 with
        | [] => done
        | first :: rest => add done first ++ rest)
    (if w = [.arguments] then [] else [[]])

/-- The value of up to three octal digits at the front of a text, and what follows them. -/
def octal : (limit : Nat) → (n : Nat) → Bytes → Nat × Bytes
  | 0, n, bs => (n, bs)
  | _ + 1, n, [] => (n, [])
  | limit + 1, n, b :: bs =>
    if 0x30 ≤ b ∧ b ≤ 0x37 then octal limit (n * 8 + (b.toNat - 0x30)) bs else (n, b :: bs)

/-- What a letter behind a backslash stands for. -/
def letterEscape? (b : UInt8) : Option UInt8 :=
  match (Char.ofNat b.toNat) with
  | 'a' => some 7
  | 'b' => some 8
  | 't' => some 9
  | 'n' => some 10
  | 'v' => some 11
  | 'f' => some 12
  | 'r' => some 13
  | '\\' => some 0x5C
  | _ => none

/-- One pass of a format over its arguments: what is printed, the arguments left, and whether
any was asked for. A format is no longer than its pass has turns. -/
def formatOnce : (limit : Nat) → Bytes → List Bytes → Bytes × List Bytes × Bool
  | 0, _, args => ([], args, false)
  | _ + 1, [], args => ([], args, false)
  | limit + 1, b :: bs, args =>
    let one (printed : Bytes) (rest : Bytes) (args : List Bytes) (used : Bool) :=
      let (out, left, more) := formatOnce limit rest args
      (printed ++ out, left, used || more)
    if b = 0x25 then
      match bs with
      | 0x25 :: bs => one [0x25] bs args false
      | 0x73 :: bs => one (args.head?.getD []) bs args.tail true
      | bs => one [b] bs args false
    else if b = 0x5C then
      match bs with
      | [] => ([b], args, false)
      | c :: rest =>
        if 0x30 ≤ c ∧ c ≤ 0x37 then
          let (n, rest) := octal 3 0 (c :: rest)
          one [UInt8.ofNat n] rest args false
        else
          match letterEscape? c with
          | some e => one [e] rest args false
          | none => one [b, c] rest args false
    else one [b] bs args false

/-- Prints arguments by a format, which is used again as long as arguments are left. -/
def format (fmt : Bytes) : (limit : Nat) → List Bytes → Bytes
  | 0, _ => []
  | limit + 1, args =>
    let (out, left, used) := formatOnce fmt.length fmt args
    if used && !left.isEmpty then out ++ format fmt limit left else out

/-- Words with blanks between them. -/
def spaced : List Bytes → Bytes
  | [] => []
  | [w] => w
  | w :: ws => w ++ 0x20 :: spaced ws

/-- Whether a word is an option. -/
def isOption (w : Bytes) : Bool := w.head? == some 0x2D && w.length != 1

/-- The last name of a path. -/
def lastName (p : Bytes) : Bytes :=
  ((Path.split p).filter (!·.isEmpty)).getLast?.getD []

/-- Where a file goes that is copied to a path: into it, if it is a directory. -/
def target (d : Disk) (source dest : Bytes) : Path :=
  match d.tree.find d.wd ⟨dest⟩ with
  | .ok (_, .directory) => ⟨dest ++ Path.slash :: lastName source⟩
  | _ => ⟨dest⟩

/-- Copies a file. A file is not copied onto itself. -/
def copy (d : Disk) (source dest : Bytes) : Option Disk :=
  let goal := target d source dest
  if (d.tree.locate d.wd ⟨source⟩).toOption = (d.tree.locate d.wd goal).toOption then none
  else
    match d.read ⟨source⟩ with
    | .error _ => none
    | .ok contents => (d.write goal contents).toOption

/-- Removes what is at a path, a directory only if `deep`. -/
def delete (d : Disk) (deep : Bool) (p : Bytes) : Option Disk :=
  match d.tree.find d.wd ⟨p⟩ with
  | .ok (place, .file ..) => some { d with tree := d.tree.remove place }
  | .ok (place, .directory) =>
    if deep && !place.isEmpty then some { d with tree := d.tree.remove place } else none
  | .error _ => none

/-- Makes a directory and those around it as far as they are missing, from the outermost on. -/
def makeAlong (d : Disk) (p : Path) : Option Disk :=
  if p.bytes = [] then none
  else
    (p.fronts.reverse.foldlM (fun (t : FileTree) front => t.ensureDirectory d.wd front)
        d.tree).toOption.map
      ({ d with tree := · })

/-- Does something with each path in turn, as far as it works. -/
def each (f : Disk → Bytes → Option Disk) (d : Disk) : List Bytes → Disk × Bool
  | [] => (d, true)
  | p :: ps =>
    match f d p with
    | some d => each f d ps
    | none =>
      let (d, _) := each f d ps
      (d, false)

/-- Whether one of the options holds a letter. -/
def hasFlag (options : List Bytes) (letter : Char) : Bool :=
  options.any fun o => o.contains (UInt8.ofNat letter.toNat)

/-- What a command does, by its name. One that is not known fails. -/
def perform (d : Disk) (name : String) (args : List Bytes) : Effect :=
  let options := args.takeWhile isOption
  let operands := args.drop options.length
  match name with
  | ":" => ⟨d, [], true⟩
  | "true" => ⟨d, [], true⟩
  | "echo" => ⟨d, spaced args ++ [0x0A], true⟩
  | "printf" =>
    match args with
    | [] => ⟨d, [], false⟩
    | fmt :: args => ⟨d, format fmt (args.length + 1) args, true⟩
  | "cat" =>
    match operands.mapM fun p => (d.read ⟨p⟩).toOption with
    | some parts => ⟨d, parts.flatten, true⟩
    | none => ⟨d, [], false⟩
  | "cp" =>
    match operands with
    | [source, dest] =>
      match copy d source dest with
      | some d => ⟨d, [], true⟩
      | none => ⟨d, [], false⟩
    | _ => ⟨d, [], false⟩
  | "mv" =>
    match operands with
    | [source, dest] =>
      match (copy d source dest).bind (delete · false source) with
      | some d => ⟨d, [], true⟩
      | none => ⟨d, [], false⟩
    | _ => ⟨d, [], false⟩
  | "rm" =>
    let deep := hasFlag options 'r' || hasFlag options 'R'
    let (d, ok) := each (delete · deep) d operands
    ⟨d, [], ok || hasFlag options 'f'⟩
  | "mkdir" =>
    let make (d : Disk) (p : Bytes) : Option Disk :=
      if hasFlag options 'p' then makeAlong d ⟨p⟩
      else ((d.tree.makeDirectory d.wd ⟨p⟩).map ({ d with tree := · })).toOption
    let (d, ok) := each make d operands
    ⟨d, [], ok⟩
  | "touch" =>
    let touch (d : Disk) (p : Bytes) : Option Disk :=
      if d.exists? ⟨p⟩ then some d else (d.write ⟨p⟩ []).toOption
    let (d, ok) := each touch d operands
    ⟨d, [], ok⟩
  | _ => ⟨d, [], false⟩

/-- Where the two streams go: to a file, or nowhere that counts. -/
structure Sinks where
  output : Option Path
  errors : Option Path

/-- Opens the files that streams are sent to, each empty unless it is appended to. -/
def openSinks (args : List Bytes) (d : Disk) (sinks : Sinks) :
    List Redirection → Option (Disk × Sinks)
  | [] => some (d, sinks)
  | .toStream s t :: rest =>
    let sink := match t with
      | .output => sinks.output
      | .errors => sinks.errors
    openSinks args d
      (match s with
        | .output => { sinks with output := sink }
        | .errors => { sinks with errors := sink }) rest
  | .toFile s append w :: rest =>
    match expand args w with
    | [file] =>
      let contents := if append then (d.read ⟨file⟩).toOption.getD [] else []
      match d.write ⟨file⟩ contents with
      | .error _ => none
      | .ok d =>
        openSinks args d
          (match s with
            | .output => { sinks with output := some ⟨file⟩ }
            | .errors => { sinks with errors := some ⟨file⟩ }) rest
    | _ => none

/-- Writes behind what a file holds. -/
def appendTo (d : Disk) (file : Option Path) (bytes : Bytes) : Disk :=
  match file with
  | none => d
  | some p => ((d.write p ((d.read p).toOption.getD [] ++ bytes)).toOption).getD d

/-- Runs one command. -/
def runCommand (args : List Bytes) (d : Disk) (c : Command) : Disk × Bool :=
  match openSinks args d ⟨none, none⟩ c.redirections with
  | none => (d, false)
  | some (d, sinks) =>
    match c.words.flatMap (expand args) with
    | [] => (d, true)
    | name :: rest =>
      let e := perform d (String.ofList (Utf8.decodeLossy name)) rest
      (appendTo e.disk sinks.output e.output, e.ok)

/-- Whether a command ends the script. -/
def isExit (args : List Bytes) (c : Command) : Bool :=
  (c.words.flatMap (expand args)).head? == some (bytesOf "exit".toList)

/-- Runs commands one after the other, each if the ones before it went as it asks. -/
def runFrom (args : List Bytes) (d : Disk) (ok : Bool) : List Command → Disk
  | [] => d
  | c :: rest =>
    let due := match c.link with
      | .always => true
      | .onSuccess => ok
      | .onFailure => !ok
    if !due then runFrom args d ok rest
    else if isExit args c then d
    else
      let (d, ok) := runCommand args d c
      runFrom args d ok rest

/-- Runs a script. One that cannot be read does nothing. -/
def run (d : Disk) (script : Text) (args : List Bytes) : Disk :=
  match script? script with
  | none => d
  | some commands => runFrom args d true commands

end Waymark.Shell
