import Waymark.Text.Digits
import Waymark.Text.Utf8

/-! Percent signs: bytes written as a percent sign and two hexadecimal digits. -/

namespace Waymark.Percent

/-- The percent sign. -/
def sign : UInt8 := 0x25

/-- The value of a byte that is a hexadecimal digit. -/
def hexValue? (b : UInt8) : Option Nat := Text.digit? (Char.ofNat b.toNat)

/-- The byte that two bytes spell, if both are hexadecimal digits. -/
def pair? (a b : UInt8) : Option UInt8 :=
  match hexValue? a, hexValue? b with
  | some a, some b => some (UInt8.ofNat (a * 16 + b))
  | _, _ => none

/-- Puts the bytes back that are written with a percent sign. A sign that two digits do not
follow stands for itself. -/
def decode : Bytes → Bytes
  | [] => []
  | [a] => [a]
  | [a, b] => [a, b]
  | a :: b :: c :: rest =>
    if a = sign then
      match pair? b c with
      | some byte => byte :: decode rest
      | none => a :: decode (b :: c :: rest)
    else a :: decode (b :: c :: rest)

/-- A hexadecimal digit in capitals. -/
def hexDigit (n : Nat) : Char := (Nat.digitChar n).toUpper

/-- A byte with a percent sign. -/
def encodeByte (b : UInt8) : Text := ['%', hexDigit (b.toNat / 16), hexDigit (b.toNat % 16)]

/-- Writes the bytes that satisfy `p` with a percent sign, and the others as they are. -/
def encode (p : UInt8 → Bool) (bytes : Bytes) : Text :=
  bytes.flatMap fun b => if p b then encodeByte b else [Char.ofNat b.toNat]

end Waymark.Percent
