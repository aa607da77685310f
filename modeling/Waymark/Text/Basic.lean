/-! Text as a list of characters, and the two widths it is measured in. -/

namespace Waymark

/-- The contents of a document, one entry per character. -/
abbrev Text := List Char

namespace Text
variable {c : Char} {t u : Text}

/-- Editors count columns in UTF-16 units: a character beyond the basic plane takes two. -/
def utf16Width (c : Char) : Nat := if c.toNat < 0x10000 then 1 else 2

/-- Files and frames count bytes of UTF-8. -/
def utf8Length : Text → Nat
  | [] => 0
  | c :: t => c.utf8Size + utf8Length t

@[simp] theorem utf8Length_nil : utf8Length [] = 0 := rfl

@[simp] theorem utf8Length_cons : utf8Length (c :: t) = c.utf8Size + utf8Length t := rfl

@[simp] theorem utf8Length_append : utf8Length (t ++ u) = utf8Length t + utf8Length u := by
  induction t with
  | nil => simp
  | cons c t ih => simp [ih, Nat.add_assoc]

theorem utf16Width_pos : 0 < utf16Width c := by
  unfold utf16Width; split <;> decide

/-- The part of a text before its first line feed. -/
def firstLine (t : Text) : Text := t.takeWhile (· ≠ '\n')

/-- A line without the carriage return that may end it. -/
def withoutReturn : Text → Text
  | [] => []
  | ['\r'] => []
  | c :: cs => c :: withoutReturn cs

/-- Splits at every `sep`; there is always one part more than separators. -/
def splitAt (sep : Char) : Text → List Text
  | [] => [[]]
  | c :: cs =>
    if c = sep then [] :: splitAt sep cs
    else
      match splitAt sep cs with
      | [] => [[c]]
      | part :: parts => (c :: part) :: parts

/-- Drops what satisfies `p` at both ends. -/
def trim (p : Char → Bool) (t : Text) : Text :=
  ((t.dropWhile p).reverse.dropWhile p).reverse

end Text

end Waymark
