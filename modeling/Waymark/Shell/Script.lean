import Waymark.Text.Utf8

/-! Scripts: lines of simple commands, as small renderers are written in them. -/

namespace Waymark.Shell

/-- A part of a word. -/
inductive Piece
  | text (t : Text)
  /-- The script's argument of a number. -/
  | argument (n : Nat)
  /-- All arguments, each a word of its own. -/
  | arguments
deriving DecidableEq, Repr

/-- A word is made of parts that stand without a blank between them. -/
abbrev Word := List Piece

/-- When a command is run, after those before it. -/
inductive Link
  | always
  | onSuccess
  | onFailure
deriving DecidableEq, Repr

/-- The streams of a command. -/
inductive Stream
  | output
  | errors
deriving DecidableEq, Repr

/-- A stream sent to a file, or to where another stream goes. -/
inductive Redirection
  | toFile (stream : Stream) (append : Bool) (file : Word)
  | toStream (stream target : Stream)
deriving DecidableEq, Repr

/-- What a script consists of. -/
inductive Token
  | word (w : Word)
  | link (l : Link)
  /-- A stream is sent to the file that the next word names. -/
  | sendTo (stream : Stream) (append : Bool)
  | join (stream target : Stream)
deriving DecidableEq, Repr

/-- How characters are taken. -/
inductive Quoting
  | none
  | single
  | double
deriving DecidableEq, Repr

/-- A word with a character at its end. -/
def addChar (w : Word) (c : Char) : Word :=
  match w.reverse with
  | .text t :: front => (.text (t ++ [c]) :: front).reverse
  | _ => w ++ [.text [c]]

/-- The word read so far, if there is one, as a token. -/
def flush : Option Word → List Token
  | none => []
  | some w => [.word w]

/-- The stream of a number. -/
def stream? (c : Char) : Option Stream :=
  if c = '1' then some .output else if c = '2' then some .errors else none

/-- The stream that a word before an arrow names, and the tokens for any other word. -/
def arrowOf : Option Word → Stream × List Token
  | some [.text [c]] =>
    match stream? c with
    | some s => (s, [])
    | none => (.output, [.word [.text [c]]])
  | w => (.output, flush w)

/-- The part of a word that a dollar and a character stand for. -/
def argumentPiece? (c : Char) : Option Piece :=
  if c = '@' then some .arguments
  else if c.isDigit then some (.argument (c.toNat - '0'.toNat))
  else none

/-- Reads on inside a word or between words; a quote left open is no script. -/
def tokensFrom : Quoting → Option Word → Text → Option (List Token)
  | .none, w, [] => some (flush w)
  | _, _, [] => none
  | .single, w, c :: cs =>
    if c = '\x27' then tokensFrom .none w cs
    else tokensFrom .single (some (addChar (w.getD []) c)) cs
  | .none, w, '>' :: '>' :: cs =>
    let (s, before) := arrowOf w
    (tokensFrom .none none cs).map (before ++ .sendTo s true :: ·)
  | .none, w, '>' :: '&' :: d :: cs =>
    let (s, before) := arrowOf w
    match stream? d with
    | some target => (tokensFrom .none none cs).map (before ++ .join s target :: ·)
    | none => none
  | .none, w, '>' :: cs =>
    let (s, before) := arrowOf w
    (tokensFrom .none none cs).map (before ++ .sendTo s false :: ·)
  | .none, w, '&' :: '&' :: cs =>
    (tokensFrom .none none cs).map (flush w ++ .link .onSuccess :: ·)
  | .none, w, '|' :: '|' :: cs =>
    (tokensFrom .none none cs).map (flush w ++ .link .onFailure :: ·)
  | q, w, '$' :: c :: cs =>
    match argumentPiece? c with
    | some piece => tokensFrom q (some (w.getD [] ++ [piece])) cs
    | none => tokensFrom q (some (addChar (w.getD []) '$')) (c :: cs)
  | .double, w, '\\' :: c :: cs =>
    if c = '\n' then tokensFrom .double w cs
    else if c = '$' ∨ c = '\x60' ∨ c = '\x22' ∨ c = '\\' then
      tokensFrom .double (some (addChar (w.getD []) c)) cs
    else tokensFrom .double (some (addChar (addChar (w.getD []) '\\') c)) cs
  | .none, w, '\\' :: c :: cs =>
    if c = '\n' then tokensFrom .none w cs
    else tokensFrom .none (some (addChar (w.getD []) c)) cs
  | .double, w, c :: cs =>
    if c = '\x22' then tokensFrom .none w cs
    else tokensFrom .double (some (addChar (w.getD []) c)) cs
  | .none, w, c :: cs =>
    if c = ' ' ∨ c = '\t' then (tokensFrom .none none cs).map (flush w ++ ·)
    else if c = ';' ∨ c = '\n' then
      (tokensFrom .none none cs).map (flush w ++ .link .always :: ·)
    else if c = '\x27' then tokensFrom .single (some (w.getD [])) cs
    else if c = '\x22' then tokensFrom .double (some (w.getD [])) cs
    else if c = '&' ∨ c = '|' ∨ c = '<' ∨ c = '(' ∨ c = ')' ∨ c = '\x60' then none
    else tokensFrom .none (some (addChar (w.getD []) c)) cs

/-- A command: its words, and where its streams go. -/
structure Command where
  link : Link
  words : List Word
  redirections : List Redirection
deriving DecidableEq, Repr

/-- The commands of tokens, when part of one has been read. -/
def commandsFrom (c : Command) : List Token → Option (List Command)
  | [] => some [c]
  | .word w :: rest => commandsFrom { c with words := c.words ++ [w] } rest
  | .link l :: rest => (commandsFrom ⟨l, [], []⟩ rest).map (c :: ·)
  | .sendTo s append :: .word w :: rest =>
    commandsFrom { c with redirections := c.redirections ++ [.toFile s append w] } rest
  | .sendTo _ _ :: _ => none
  | .join s target :: rest =>
    commandsFrom { c with redirections := c.redirections ++ [.toStream s target] } rest

/-- The commands of a script, if it can be read. -/
def script? (t : Text) : Option (List Command) :=
  match tokensFrom .none none t with
  | none => none
  | some tokens => commandsFrom ⟨.always, [], []⟩ tokens

end Waymark.Shell
