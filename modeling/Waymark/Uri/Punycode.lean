import Waymark.Text.Digits

/-! Names written in ASCII: the characters beyond it are left out and put back by numbers behind
the last dash, each of which says how far to go from one insertion to the next. -/

namespace Waymark.Uri.Punycode

/-- The value of a digit: the letters come before the numerals. -/
def digit? (c : Char) : Option Nat :=
  if 'a' ≤ c ∧ c ≤ 'z' then some (c.toNat - 'a'.toNat)
  else if '0' ≤ c ∧ c ≤ '9' then some (c.toNat - '0'.toNat + 26)
  else none

/-- The digits below this one end a number. It grows with the place of the digit, which is counted
in steps of thirty-six. -/
def threshold (place bias : Nat) : Nat := min 26 (max 1 (place - bias))

/-- How often a distance has to be divided until it is small, and what is left of it. -/
def scale (distance : Nat) : Nat × Nat :=
  if 455 < distance then
    let (times, left) := scale (distance / 35)
    (times + 1, left)
  else (0, distance)
termination_by distance
decreasing_by exact Nat.div_lt_self (by omega) (by decide)

/-- The bias for the next number, by the last one and the length that the name has then. -/
def adapt (distance length : Nat) (isFirst : Bool) : Nat :=
  let distance := if isFirst then distance / 700 else distance / 2
  let (times, left) := scale (distance + distance / length)
  36 * times + 36 * left / (left + 38)

/-- The number at the front of a text, added to `n`, and what follows it. Numbers have a limit. -/
def number? (bias : Nat) : Text → (place weight n : Nat) → Option (Nat × Text)
  | [], _, _, _ => none
  | c :: rest, place, weight, n =>
    match digit? c with
    | none => none
    | some d =>
      let n := n + d * weight
      if UInt32.size ≤ n then none
      else if d < threshold place bias then some (n, rest)
      else
        let weight := weight * (36 - threshold place bias)
        if UInt32.size ≤ weight then none else number? bias rest (place + 36) weight n

theorem number?_length {bias : Nat} {t : Text} {place weight n : Nat} {r : Nat × Text}
    (h : number? bias t place weight n = some r) : r.2.length < t.length := by
  induction t generalizing place weight n with
  | nil => simp [number?] at h
  | cons c t ih =>
    simp only [number?] at h
    split at h
    · simp at h
    · split at h
      · simp at h
      · split at h
        · obtain rfl := Option.some.inj h
          simp
        · split at h
          · simp at h
          · have := ih h
            simp only [List.length_cons]
            omega

/-- Where an insertion is and what is inserted: the place in the name, and the character's
number. -/
structure Cursor where
  place : Nat
  value : Nat

/-- The character with a number, if there is one. -/
def char? (n : Nat) : Option Char := if n.isValidChar then some (Char.ofNat n) else none

/-- Puts characters into a name, by the numbers that a text holds. -/
def insertAll (bias : Nat) (cursor : Cursor) (name : Text) (t : Text) : Option Text :=
  match t with
  | [] => some name
  | c :: rest =>
    match _h : number? bias (c :: rest) 36 1 cursor.place with
    | none => none
    | some (n, rest) =>
      let length := name.length + 1
      let value := cursor.value + n / length
      match char? value with
      | none => none
      | some inserted =>
        insertAll (adapt (n - cursor.place) length (cursor.place == 0)) ⟨n % length + 1, value⟩
          (name.insertIdx (n % length) inserted) rest
termination_by t.length
decreasing_by exact number?_length _h

/-- The name that is written in ASCII as `t`. -/
def decode? (t : Text) : Option Text :=
  let numbers := (t.reverse.takeWhile (· ≠ '-')).reverse
  let plain := t.take (t.length - numbers.length - 1)
  if plain.isEmpty then insertAll 72 ⟨0, 128⟩ [] t
  else if plain.all (· ≤ '\x7f') then insertAll 72 ⟨0, 128⟩ plain numbers
  else none

end Waymark.Uri.Punycode
