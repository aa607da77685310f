import Waymark.Text.Basic

/-! UTF-8: the bytes of a text, and the text of bytes that may not be well formed. -/

namespace Waymark

/-- The contents of a file or a stream. -/
abbrev Bytes := List UInt8

namespace Text

/-- The bytes of a text. -/
def toBytes (t : Text) : Bytes := t.flatMap String.utf8EncodeChar

@[simp] theorem toBytes_nil : toBytes [] = [] := rfl

@[simp] theorem toBytes_cons {c : Char} {t : Text} :
    toBytes (c :: t) = String.utf8EncodeChar c ++ toBytes t := by
  simp [toBytes]

@[simp] theorem toBytes_append {t u : Text} : toBytes (t ++ u) = toBytes t ++ toBytes u := by
  simp [toBytes]

theorem length_toBytes {t : Text} : (toBytes t).length = utf8Length t := by
  induction t with
  | nil => rfl
  | cons c t ih => simp [ih]

end Text

namespace Utf8

/-- Where well-formed UTF-8 ends, and how. -/
inductive Fault
  /-- The `width` bytes at `index` are no part of any character. -/
  | invalid (index width : Nat)
  /-- The bytes at `index` begin a character that the input does not finish. -/
  | truncated (index : Nat)
deriving DecidableEq, Repr

namespace Fault

/-- The wording of a fault. -/
def message : Fault → String
  | invalid index width =>
    "invalid utf-8 sequence of " ++ toString width ++ " bytes from index " ++ toString index
  | truncated index => "incomplete utf-8 byte sequence from index " ++ toString index

end Fault

/-- What a byte says when it stands where a character begins. -/
inductive Lead
  /-- The byte is a character by itself. -/
  | whole (c : Char)
  /-- It has `needed` bytes to come; the next one lies between `low` and `high`. -/
  | opening (needed low high value : Nat)
  /-- No character begins so. -/
  | stray
deriving DecidableEq, Repr

/-- The bounds on the second byte rule out overlong forms, surrogates and what lies past the
last code point. -/
def lead (b : UInt8) : Lead :=
  let v := b.toNat
  if v < 0x80 then .whole (Char.ofNat v)
  else if v < 0xC2 then .stray
  else if v < 0xE0 then .opening 1 0x80 0xBF (v - 0xC0)
  else if v = 0xE0 then .opening 2 0xA0 0xBF 0
  else if v = 0xED then .opening 2 0x80 0x9F 13
  else if v < 0xF0 then .opening 2 0x80 0xBF (v - 0xE0)
  else if v = 0xF0 then .opening 3 0x90 0xBF 0
  else if v < 0xF4 then .opening 3 0x80 0xBF (v - 0xF0)
  else if v = 0xF4 then .opening 3 0x80 0x8F 4
  else .stray

/-- The part of a character that has been read. -/
structure Partial where
  needed : Nat
  low : Nat
  high : Nat
  value : Nat
  read : Nat
deriving DecidableEq, Repr

namespace Partial

/-- Whether the character can go on with `b`. -/
def accepts (s : Partial) (b : UInt8) : Bool := s.low ≤ b.toNat && b.toNat ≤ s.high

/-- The character after one more byte, or what is still missing of it. -/
def extend (s : Partial) (b : UInt8) : Char ⊕ Partial :=
  let v := s.value * 64 + (b.toNat - 0x80)
  if s.needed ≤ 1 then .inl (Char.ofNat v)
  else .inr ⟨s.needed - 1, 0x80, 0xBF, v, s.read + 1⟩

end Partial

/-- Reads on with `index` bytes done and perhaps a character begun. -/
def decodeFrom (index : Nat) : Option Partial → Bytes → Except Fault Text
  | none, [] => .ok []
  | some _, [] => .error (.truncated index)
  | none, b :: bs =>
    match lead b with
    | .whole c => (decodeFrom (index + 1) none bs).map (c :: ·)
    | .opening needed low high value =>
      decodeFrom index (some ⟨needed, low, high, value, 1⟩) bs
    | .stray => .error (.invalid index 1)
  | some s, b :: bs =>
    if s.accepts b then
      match s.extend b with
      | .inl c => (decodeFrom (index + s.read + 1) none bs).map (c :: ·)
      | .inr s => decodeFrom index (some s) bs
    else .error (.invalid index s.read)

/-- The text of well-formed bytes. -/
def decode (bytes : Bytes) : Except Fault Text := decodeFrom 0 none bytes

/-- What stands for bytes that are no text. -/
def replacement : Char := '\uFFFD'

/-- Reads on where a character begins, or behind the part of one. -/
def decodeLossyFrom : Option Partial → Bytes → Text
  | none, [] => []
  | some _, [] => [replacement]
  | state, b :: bs =>
    let fresh (begun : Text) : Text :=
      match lead b with
      | .whole c => begun ++ c :: decodeLossyFrom none bs
      | .opening needed low high value =>
        begun ++ decodeLossyFrom (some ⟨needed, low, high, value, 1⟩) bs
      | .stray => begun ++ replacement :: decodeLossyFrom none bs
    match state with
    | none => fresh []
    | some s =>
      if s.accepts b then
        match s.extend b with
        | .inl c => c :: decodeLossyFrom none bs
        | .inr s => decodeLossyFrom (some s) bs
      else fresh [replacement]

/-- The text of any bytes: each longest beginning of a character that does not go on, and each
byte that begins none, is shown as one replacement character. -/
def decodeLossy (bytes : Bytes) : Text := decodeLossyFrom none bytes

end Utf8

end Waymark
