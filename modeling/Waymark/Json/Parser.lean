import Waymark.Json.Basic
import Waymark.Text.Digits

/-! Reading JSON text. Values keep the order and the repetitions of their keys. -/

namespace Waymark.Json

/-- A parser reads a value from the front of a text and gives what is left. -/
abbrev Reader (α : Type) := List Char → Option (α × List Char)

/-- The characters that may stand between tokens. -/
def isSpace (c : Char) : Bool := c == ' ' || c == '\t' || c == '\n' || c == '\r'

/-- A text without the spaces at its front. -/
def skipSpace (input : List Char) : List Char := input.dropWhile isSpace

/-- The number that four hexadecimal digits make. -/
def hexQuad? (a b c d : Char) : Option Nat :=
  match Text.digit? a, Text.digit? b, Text.digit? c, Text.digit? d with
  | some a, some b, some c, some d => some (((a * 16 + b) * 16 + c) * 16 + d)
  | _, _, _, _ => none

/-- The character of an escape of one letter. -/
def unescape? (c : Char) : Option Char :=
  if c = '"' ∨ c = '\\' ∨ c = '/' then some c
  else if c = 'b' then some '\x08'
  else if c = 'f' then some '\x0C'
  else if c = 'n' then some '\n'
  else if c = 'r' then some '\r'
  else if c = 't' then some '\t'
  else none

/-- The character of a pair of surrogates. -/
def surrogatePair? (high low : Nat) : Option Char :=
  if 0xDC00 ≤ low ∧ low < 0xE000 then
    some (Char.ofNat (0x10000 + (high - 0xD800) * 0x400 + (low - 0xDC00)))
  else none

/-- The characters of a string up to the closing quote. Controls have to be escaped, and
surrogates have to come in pairs. -/
def stringTail : Reader (List Char)
  | [] => none
  | '"' :: rest => some ([], rest)
  | '\\' :: 'u' :: a :: b :: c :: d :: rest =>
    match hexQuad? a b c d with
    | none => none
    | some v =>
      if 0xD800 ≤ v ∧ v < 0xDC00 then
        match rest with
        | '\\' :: 'u' :: e :: f :: g :: h :: rest =>
          match (hexQuad? e f g h).bind (surrogatePair? v), stringTail rest with
          | some ch, some (chs, rest) => some (ch :: chs, rest)
          | _, _ => none
        | _ => none
      else if 0xDC00 ≤ v ∧ v < 0xE000 then none
      else
        match stringTail rest with
        | some (chs, rest) => some (Char.ofNat v :: chs, rest)
        | none => none
  | '\\' :: c :: rest =>
    match unescape? c, stringTail rest with
    | some ch, some (chs, rest) => some (ch :: chs, rest)
    | _, _ => none
  | c :: rest =>
    if c = '\\' ∨ c.toNat < 0x20 then none
    else
      match stringTail rest with
      | some (chs, rest) => some (c :: chs, rest)
      | none => none

/-- The digits at the front of a text, as numbers, and what follows them. -/
def digits : List Char → List Nat × List Char
  | [] => ([], [])
  | c :: cs =>
    if c.isDigit then
      let (ds, rest) := digits cs
      ((c.toNat - '0'.toNat) :: ds, rest)
    else ([], c :: cs)

/-- The number that digits make in base ten. -/
def ofDigits (ds : List Nat) : Nat := ds.foldl (fun n d => n * 10 + d) 0

/-- The largest integer that is kept exactly. -/
def maxNat : Nat := UInt64.size - 1

/-- The integer furthest below zero that is kept exactly, without its sign. -/
def maxNegated : Nat := UInt64.size / 2

/-- Appends digits to a number as long as it stays within 64 bits, and counts those left. -/
def absorb (n : Nat) : List Nat → Nat × Nat
  | [] => (n, 0)
  | d :: ds => if n * 10 + d ≤ maxNat then absorb (n * 10 + d) ds else (n, (d :: ds).length)

/-- A number as it is written. -/
structure Numeral where
  negative : Bool
  whole : List Nat
  fraction : List Nat
  exponent : Option (Bool × List Nat)

namespace Numeral

/-- The exponent of a numeral; one too large for 32 bits counts as unlimited. -/
def shift : Option (Bool × List Nat) → Option Int
  | none => some 0
  | some (down, ds) =>
    let n := ofDigits ds
    if n < UInt32.size / 2 then some (if down then -(n : Int) else n) else none

/-- The value of a numeral that is no integer. Digits that do not fit into 64 bits are left out
and only count as places. -/
def float? (n : Numeral) : Option Json :=
  let (whole, left) := absorb 0 n.whole
  let (significand, dropped) := absorb whole n.fraction
  let places : Int := (left : Int) - ((n.fraction.length - dropped : Nat) : Int)
  match shift n.exponent with
  | some e => (Binary64.ofDecimal? significand (places + e)).map (float n.negative)
  | none =>
    let down := n.exponent.any (·.1)
    if significand = 0 ∨ down then some (float n.negative .zero) else none

/-- The value of a numeral: an integer if it is written as one and fits, and is not minus zero. -/
def value? (n : Numeral) : Option Json :=
  let whole := ofDigits n.whole
  if n.fraction.isEmpty && n.exponent.isNone then
    if n.negative then
      if 0 < whole ∧ whole ≤ maxNegated then some (int (-(whole : Int))) else n.float?
    else if whole ≤ maxNat then some (int whole)
    else n.float?
  else n.float?

end Numeral

/-- The exponent that may follow the digits of a number: whether it is negative, and its
digits. -/
def exponentPart : Reader (Option (Bool × List Nat))
  | c :: rest =>
    if c = 'e' ∨ c = 'E' then
      let (down, rest) :=
        match rest with
        | '+' :: rest => (false, rest)
        | '-' :: rest => (true, rest)
        | rest => (false, rest)
      match digits rest with
      | ([], _) => none
      | (ds, rest) => some (some (down, ds), rest)
    else some (none, c :: rest)
  | [] => some (none, [])

/-- The fraction that may follow the whole part of a number. -/
def fractionPart : Reader (List Nat)
  | '.' :: rest =>
    match digits rest with
    | ([], _) => none
    | (ds, rest) => some (ds, rest)
  | rest => some ([], rest)

/-- A number whose sign has been read. A whole part of several digits does not start with a
zero. -/
def number (negative : Bool) : Reader Json := fun input =>
  match digits input with
  | ([], _) => none
  | (0 :: _ :: _, _) => none
  | (whole, rest) =>
    match fractionPart rest with
    | none => none
    | some (fraction, rest) =>
      match exponentPart rest with
      | none => none
      | some (exponent, rest) =>
        ((⟨negative, whole, fraction, exponent⟩ : Numeral).value?).map (·, rest)

/-- The items of an array behind its bracket, at most `limit` of them. -/
def items (value : Reader Json) : (limit : Nat) → Reader (List Json)
  | 0, _ => none
  | limit + 1, input =>
    match value input with
    | none => none
    | some (v, rest) =>
      match skipSpace rest with
      | ',' :: rest =>
        match items value limit rest with
        | some (vs, rest) => some (v :: vs, rest)
        | none => none
      | ']' :: rest => some ([v], rest)
      | _ => none

/-- One entry of an object. -/
def entry (value : Reader Json) : Reader (String × Json) := fun input =>
  match skipSpace input with
  | '"' :: rest =>
    match stringTail rest with
    | none => none
    | some (key, rest) =>
      match skipSpace rest with
      | ':' :: rest =>
        match value rest with
        | some (v, rest) => some ((String.ofList key, v), rest)
        | none => none
      | _ => none
  | _ => none

/-- The entries of an object behind its brace, at most `limit` of them. -/
def entries (value : Reader Json) : (limit : Nat) → Reader (List (String × Json))
  | 0, _ => none
  | limit + 1, input =>
    match entry value input with
    | none => none
    | some (e, rest) =>
      match skipSpace rest with
      | ',' :: rest =>
        match entries value limit rest with
        | some (es, rest) => some (e :: es, rest)
        | none => none
      | '\x7d' :: rest => some ([e], rest)
      | _ => none

/-- A value that may hold arrays and objects nested `depth` deep. Every item takes a character,
so the length of the text bounds their number. -/
def value : (depth : Nat) → Reader Json
  | depth, input =>
    match skipSpace input with
    | 'n' :: 'u' :: 'l' :: 'l' :: rest => some (null, rest)
    | 't' :: 'r' :: 'u' :: 'e' :: rest => some (bool true, rest)
    | 'f' :: 'a' :: 'l' :: 's' :: 'e' :: rest => some (bool false, rest)
    | '"' :: rest => (stringTail rest).map fun (s, rest) => (string (String.ofList s), rest)
    | '-' :: rest => number true rest
    | '[' :: rest =>
      match depth with
      | 0 => none
      | depth + 1 =>
        match skipSpace rest with
        | ']' :: rest => some (array [], rest)
        | _ =>
          (items (value depth) rest.length rest).map fun (vs, rest) => (array vs, rest)
    | '\x7b' :: rest =>
      match depth with
      | 0 => none
      | depth + 1 =>
        match skipSpace rest with
        | '\x7d' :: rest => some (object [], rest)
        | _ =>
          (entries (value depth) rest.length rest).map fun (es, rest) => (object es, rest)
    | rest => number false rest

/-- How deep arrays and objects may be nested. -/
def maxDepth : Nat := 127

/-- The value that a whole text holds, as it is written. -/
def readRaw? (input : List Char) : Option Json :=
  match value maxDepth input with
  | some (v, rest) => if (skipSpace rest).isEmpty then some v else none
  | none => none

/-- The value that a whole text holds, in canonical form. -/
def read? (input : List Char) : Option Json := (readRaw? input).map canonical

end Waymark.Json
