import Waymark.Json.Basic

/-! The compact written form of JSON values. -/

namespace Waymark.Json

/-- A hexadecimal digit. -/
def hexDigit (n : Nat) : Char := Nat.digitChar n

/-- What stands for a character inside quotes: seven characters have escapes of their own, other
controls are written by number, and everything else stands for itself. -/
def escape (c : Char) : List Char :=
  if c = '"' then ['\\', '"']
  else if c = '\\' then ['\\', '\\']
  else if c = '\n' then ['\\', 'n']
  else if c = '\r' then ['\\', 'r']
  else if c = '\t' then ['\\', 't']
  else if c = '\x08' then ['\\', 'b']
  else if c = '\x0C' then ['\\', 'f']
  else if c.toNat < 0x20 then
    ['\\', 'u', '0', '0', hexDigit (c.toNat / 16), hexDigit (c.toNat % 16)]
  else [c]

/-- A string in quotes. -/
def renderString (s : String) : List Char := '"' :: s.toList.flatMap escape ++ ['"']

/-- An integer in base ten. -/
def renderInt : Int → List Char
  | .ofNat n => Nat.toDigits 10 n
  | .negSucc n => '-' :: Nat.toDigits 10 (n + 1)

mutual

/-- The written form of a value, without spaces. -/
def render : Json → List Char
  | null => "null".toList
  | bool true => "true".toList
  | bool false => "false".toList
  | int i => renderInt i
  | float negative x => (if negative then ['-'] else []) ++ x.text
  | string s => renderString s
  | array [] => ['[', ']']
  | array (v :: vs) => '[' :: render v ++ renderItems vs
  | object [] => ['\x7b', '\x7d']
  | object ((k, v) :: rest) => '\x7b' :: renderString k ++ ':' :: render v ++ renderEntries rest

/-- The rest of an array behind an item. -/
def renderItems : List Json → List Char
  | [] => [']']
  | v :: vs => ',' :: render v ++ renderItems vs

/-- The rest of an object behind an entry. -/
def renderEntries : List (String × Json) → List Char
  | [] => ['\x7d']
  | (k, v) :: rest => ',' :: renderString k ++ ':' :: render v ++ renderEntries rest

end

/-- The written form of a value as a string. -/
def text (v : Json) : String := String.ofList v.render

end Waymark.Json
