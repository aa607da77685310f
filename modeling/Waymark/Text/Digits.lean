import Waymark.Text.Basic

/-! Digits, and the numbers that they make. -/

namespace Waymark.Text

/-- The value of a digit of base sixteen or of a smaller one. -/
def digit? (c : Char) : Option Nat :=
  if '0' ≤ c ∧ c ≤ '9' then some (c.toNat - '0'.toNat)
  else if 'a' ≤ c ∧ c ≤ 'f' then some (c.toNat - 'a'.toNat + 10)
  else if 'A' ≤ c ∧ c ≤ 'F' then some (c.toNat - 'A'.toNat + 10)
  else none

/-- The number that digits make in a base, if all of them are digits of it. -/
def number? (base : Nat) (t : Text) : Option Nat :=
  t.foldl
    (fun n c =>
      match n, digit? c with
      | some n, some d => if d < base then some (n * base + d) else none
      | _, _ => none)
    (some 0)

end Waymark.Text
