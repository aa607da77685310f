import Waymark.Text.Digits

/-! Tables of characters. A table is a list of rows, and a row is a list of words with a blank
between them. A word names a span of characters by the numbers of its first and its last one in
base sixteen, as in `41-5A`, or a single character by its number. -/

namespace Waymark.Unicode

/-- Characters in a row, by the numbers of the first and the last of them. -/
structure Span where
  first : Nat
  last : Nat
deriving DecidableEq, Repr

/-- Whether a character is in a span. -/
def Span.contains (s : Span) (c : Char) : Bool := s.first ≤ c.toNat && c.toNat ≤ s.last

/-- The number that a word spells. -/
def numberOf (w : Text) : Nat := (Text.number? 16 w).getD 0

/-- The span that a word names. -/
def Span.ofWord (w : Text) : Span :=
  match Text.splitAt '-' w with
  | [first, last] => ⟨numberOf first, numberOf last⟩
  | _ => ⟨numberOf w, numberOf w⟩

/-- The words of a table. -/
def words (rows : List String) : List Text := rows.flatMap fun row => Text.splitAt ' ' row.toList

/-- The spans of a table. -/
def spans (rows : List String) : List Span := (words rows).map Span.ofWord

/-- Whether a character is in one of some spans. -/
def isIn (spans : List Span) (c : Char) : Bool := spans.any (·.contains c)

end Waymark.Unicode
