import Waymark.Server.Serve

/-! The command line: what was asked for, and what comes of it. -/

namespace Waymark.CommandLine

/-- What the program is to do. -/
inductive Action
  /-- Serve an editor over the standard streams. -/
  | serve
  /-- Take the anchors out of files that no editor has open. -/
  | strip (files : List Path)
deriving DecidableEq, Repr

/-- A command line that has been understood. -/
structure Invocation where
  config : Option Path
  logLevel : Option String
  logFile : Option Path
  action : Action
deriving DecidableEq, Repr

/-- What a command line comes to. -/
inductive Reading
  | invocation (i : Invocation)
  /-- The version is to be shown. -/
  | version
  /-- The help is to be shown. -/
  | help
  /-- The command line cannot be understood. -/
  | misuse
deriving DecidableEq, Repr

/-- The version of the program, by its name. -/
def version : String := "state-debugger 0.1.0"

/-- Whether an argument looks like an option; a single dash does not. -/
def isOption (a : String) : Bool := a.startsWith "-" && a != "-"

/-- A path given as a value, which is not empty. -/
def path? (a : String) : Option Path := if a = "" then none else some (Path.ofString a)

/-- Reads the files of the command that strips them, behind those found. After two dashes all
arguments are files. -/
def readFiles (i : Invocation) (found : List Path) (optionsEnded : Bool) :
    List String → Reading
  | [] => if found.isEmpty then .misuse else .invocation { i with action := .strip found }
  | a :: rest =>
    if !optionsEnded && a == "--" then readFiles i found true rest
    else if !optionsEnded && (a == "--help" || a.startsWith "-h") then .help
    else if !optionsEnded && isOption a then .misuse
    else
      match path? a with
      | none => .misuse
      | some p => readFiles i (found ++ [p]) optionsEnded rest

/-- Reads what follows the command that serves, which takes nothing. -/
def readServe (i : Invocation) : List String → Reading
  | [] => .invocation { i with action := .serve }
  | ["--"] => .invocation { i with action := .serve }
  | a :: _ => if a == "--help" || a.startsWith "-h" then .help else .misuse

/-- The options that take a value. -/
inductive Setting
  | config
  | logLevel
  | logFile
deriving DecidableEq, Repr

/-- The options by their names. -/
def settings : List (String × Setting) :=
  [("--config", .config), ("--log-level", .logLevel), ("--log-file", .logFile)]

/-- An invocation with an option set. Each may be given once, and a path is not empty. -/
def Invocation.set (i : Invocation) (v : String) : Setting → Option Invocation
  | .config =>
    if i.config.isSome then none else (path? v).map fun p => { i with config := some p }
  | .logLevel => if i.logLevel.isSome then none else some { i with logLevel := some v }
  | .logFile =>
    if i.logFile.isSome then none else (path? v).map fun p => { i with logFile := some p }

/-- What the first words of a command line are. -/
inductive Argument
  /-- An option, with its value if that stands behind an equals sign. -/
  | setting (s : Setting) (value : Option String)
  | version
  | help
  | word (a : String)

/-- What an argument is. -/
def Argument.ofString (a : String) : Argument :=
  let name := String.ofList (a.toList.takeWhile (· ≠ '='))
  match settings.lookup name with
  | some s =>
    .setting s (if a = name then none else some (String.ofList (a.toList.drop (name.length + 1))))
  | none =>
    if a = "--version" ∨ a.startsWith "-V" then .version
    else if a = "--help" ∨ a.startsWith "-h" then .help
    else .word a

/-- Reads the command that shows the help, which takes the name of a command at most. -/
def readHelp : List String → Reading
  | [] => .help
  | [name] => if ["serve", "strip-markers", "help"].contains name then .help else .misuse
  | _ => .misuse

/-- Reads a command from its name and what follows it. -/
def readCommand (i : Invocation) (name : String) (rest : List String) : Reading :=
  match name with
  | "serve" => readServe i rest
  | "strip-markers" => readFiles i [] false rest
  | "help" => readHelp rest
  | "--" => if rest.isEmpty then .invocation i else .misuse
  | _ => .misuse

/-- What has been set, when nothing has been. -/
def Invocation.start : Invocation := ⟨none, none, none, .serve⟩

/-- Reads a command line, where options come before the command. A value that an option cannot
have, if it is an argument of its own, comes to light with the next option or at the end, so that
a command that asks for help has gone before it. -/
def readFrom (i : Option Invocation) : List String → Reading
  | [] =>
    match i with
    | some i => .invocation i
    | none => .misuse
  | a :: rest =>
    match Argument.ofString a, rest, i with
    | .word name, rest, some i => readCommand i name rest
    | .word name, rest, none =>
      if readCommand .start name rest = .help then .help else .misuse
    | .setting s (some v), rest, some i =>
      match i.set v s with
      | some i => readFrom (some i) rest
      | none => .misuse
    | .setting s none, v :: rest, some i =>
      if isOption v then .misuse else readFrom (i.set v s) rest
    | .version, _, some _ => .version
    | .help, _, some _ => .help
    | _, _, _ => .misuse

/-- What a command line comes to, when nothing has been set. -/
def read (args : List String) : Reading := readFrom (some .start) args

/-- What the program leaves behind. -/
structure Outcome where
  exitCode : Nat
  output : Bytes
  host : Host

/-- A line about a file whose anchors were taken out. -/
def stripLine (p : Path) : Anchor.Outcome → Text
  | .applied n => p.text ++ ": removed ".toList ++ Nat.toDigits 10 n ++ " anchors\n".toList
  | _ => p.text ++ ": no anchors\n".toList

/-- Takes the anchors out of files one after the other, with one guard and one board for all of
them. Files where that fails are passed over. -/
def stripEach (guard : Anchor.Guard) (board : Board) (d : Disk) : List Path → Text × Disk
  | [] => ([], d)
  | p :: ps =>
    let (guard, a) := Anchor.attemptClosed guard board d p
    match a.outcome with
    | .error _ => stripEach guard a.board a.disk ps
    | .ok outcome =>
      let (lines, d) := stripEach guard a.board a.disk ps
      (stripLine p outcome ++ lines, d)

/-- Takes the anchors out of files. -/
def stripFiles (d : Disk) (ps : List Path) : Text × Disk := stripEach .idle .empty d ps

/-- Makes sure that there is a file to write the log to, if one is wanted. -/
def openLog (d : Disk) : Option Path → Except FileFault Disk
  | none => .ok d
  | some p =>
    match d.read p with
    | .ok _ => .ok d
    | .error .notFound => d.write p []
    | .error fault => .error fault

/-- The settings to start with. -/
def startSettings (h : Host) : Option Path → Except Error Settings
  | none => .ok (.default h.temporary)
  | some p => Settings.load h p

/-- What an invocation does before all else: the log is opened, then the settings are read. -/
def prepare (i : Invocation) (h : Host) : Except Error Settings × Host :=
  match openLog h.disk i.logFile with
  | .error fault => (.error (.file fault), h)
  | .ok disk =>
    let h := { h with disk }
    (startSettings h i.config, h)

/-- Does what an invocation asks for, with the given input. -/
def invoke (i : Invocation) (h : Host) (input : Bytes) : Outcome :=
  let (settings, h) := prepare i h
  match settings, i.action with
  | .error _, _ => ⟨1, [], h⟩
  | .ok settings, .serve =>
    let run := (⟨.ofSettings settings, h⟩ : World).serve input
    ⟨if run.result.isOk then 0 else 1, World.output run.messages, run.world.host⟩
  | .ok _, .strip files =>
    let (lines, disk) := stripFiles h.disk files
    ⟨0, lines.toBytes, { h with disk }⟩

/-- Runs the program. -/
def run (args : List String) (h : Host) (input : Bytes) : Outcome :=
  match read args with
  | .misuse => ⟨2, [], h⟩
  | .help => ⟨0, [], h⟩
  | .version => ⟨0, Text.toBytes (version ++ "\n").toList, h⟩
  | .invocation i => invoke i h input

end Waymark.CommandLine
