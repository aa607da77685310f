import Waymark.Uri.Name
import Waymark.Uri.Percent

/-! Hosts in uris: which of them are well formed, and which is this machine. -/

namespace Waymark.Uri

/-- What the host of a uri names. -/
inductive Host
  /-- Nothing, or this machine by its own name. -/
  | own
  /-- Some other machine. -/
  | other
deriving DecidableEq, Repr

/-- A part of an address: octal behind a zero, hexadecimal behind `0x`, else decimal. -/
def addressPart? : Text → Option Nat
  | [] => none
  | ['0'] => some 0
  | '0' :: 'x' :: t => Text.number? 16 t
  | '0' :: 'X' :: t => Text.number? 16 t
  | '0' :: t => Text.number? 8 t
  | t => Text.number? 10 t

/-- The parts of a name between its dots; one dot at the end is passed over. -/
def labels (t : Text) : List Text :=
  let parts := Text.splitAt '.' t
  if 1 < parts.length ∧ parts.getLast? = some [] then parts.dropLast else parts

/-- Whether a part is a number behind `0x`. -/
def isHexPart : Text → Bool
  | '0' :: 'x' :: t => (Text.number? 16 t).isSome
  | '0' :: 'X' :: t => (Text.number? 16 t).isSome
  | _ => false

/-- Whether a name has to be an address, since it ends in a number. -/
def endsInNumber (t : Text) : Bool :=
  match (labels t).getLast? with
  | none => false
  | some [] => false
  | some part => part.all Char.isDigit || isHexPart part

/-- Whether a name is an address of four bytes; the last part may stand for several of them. -/
def isAddress4 (t : Text) : Bool :=
  let parts := labels t
  match parts.mapM addressPart? with
  | none => false
  | some ns =>
    parts.length ≤ 4 && ns.dropLast.all (· ≤ 255)
      && ns.getLast?.getD 0 < Nat.pow 256 (5 - parts.length)

/-- Whether a text is four numbers below 256 between dots, without leading zeros. -/
def isDotted (t : Text) : Bool :=
  let parts := Text.splitAt '.' t
  parts.length == 4
    && parts.all fun p =>
      !p.isEmpty && (p == ['0'] || p.head? != some '0') && (Text.number? 10 p).any (· ≤ 255)

/-- How many of the eight words of an address the groups between colons give, if they are well
formed. -/
def wordsIn? : List Text → Option Nat
  | [] => some 0
  | [t] =>
    if isDotted t then some 2
    else if 0 < t.length ∧ t.length ≤ 4 ∧ (Text.number? 16 t).isSome then some 1
    else none
  | t :: ts =>
    if 0 < t.length ∧ t.length ≤ 4 ∧ (Text.number? 16 t).isSome then (wordsIn? ts).map (· + 1)
    else none

/-- The halves of a text around the first two colons in a row. -/
def splitDouble : Text → Option (Text × Text)
  | ':' :: ':' :: rest => some ([], rest)
  | c :: rest => (splitDouble rest).map fun (a, b) => (c :: a, b)
  | [] => none

/-- The groups of a text between colons; none in the empty text. -/
def groups (t : Text) : List Text := if t.isEmpty then [] else Text.splitAt ':' t

/-- Whether a text is an address of eight words, where two colons in a row stand for as many
zeros as are missing. -/
def isAddress6 (t : Text) : Bool :=
  match splitDouble t with
  | none => wordsIn? (groups t) == some 8
  | some (a, b) =>
    !(groups a).any (·.contains '.')
      && match wordsIn? (groups a), wordsIn? (groups b) with
        | some m, some n => m + n ≤ 7
        | _, _ => false

/-- What stands between brackets, if a text is all in brackets. -/
def bracketed? : Text → Option Text
  | '[' :: rest => if rest.getLast? = some ']' then some rest.dropLast else none
  | _ => none

/-- The characters that no host has where the scheme says nothing of machines. -/
def isForbiddenOpaquely (c : Char) : Bool :=
  c == '\x00' || c == '\t' || c == '\n' || c == '\r' || c == ' '
    || "#/:<>?@[\\]^|".toList.contains c

/-- The host of a uri whose scheme names machines, if it is well formed. -/
def Host.ofText? (t : Text) : Option Host :=
  match t with
  | '[' :: _ =>
    match bracketed? t with
    | some inner => if isAddress6 inner then some .other else none
    | none => none
  | _ =>
    match Name.ofText? (Utf8.decodeLossy (Percent.decode t.toBytes)) with
    | none => none
    | some name =>
      if endsInNumber name then if isAddress4 name then some .other else none
      else if name = "localhost".toList then some .own
      else some .other

/-- Whether the host of a uri of any other scheme is well formed. -/
def isOpaqueHost (t : Text) : Bool :=
  match t with
  | '[' :: _ => (bracketed? t).any isAddress6
  | _ => !t.any isForbiddenOpaquely

end Waymark.Uri
