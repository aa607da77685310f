import Waymark.Text.Basic

/-! Places in a text as editors name them, and where they fall in it. -/

namespace Waymark

/-- A line and a column, both from zero; the column counts UTF-16 units. Both are taken to stay
below 2 ^ 32 with all that is added to them, so that no sum of columns wraps around. -/
structure Position where
  line : Nat
  character : Nat
deriving DecidableEq, Repr, Inhabited

namespace Position
variable {p q : Position} {c : Char}

/-- Positions are read line first. -/
protected def le (p q : Position) : Bool :=
  p.line < q.line || (p.line == q.line && p.character ≤ q.character)

/-- The position behind `c`, when `p` is the position before it. -/
def after (p : Position) (c : Char) : Position :=
  if c = '\n' then ⟨p.line + 1, 0⟩ else ⟨p.line, p.character + Text.utf16Width c⟩

/-- The position behind a whole text. -/
def advance (p : Position) (t : Text) : Position := t.foldl after p

@[simp] theorem advance_nil : advance p [] = p := rfl

@[simp] theorem advance_cons {t : Text} : advance p (c :: t) = advance (p.after c) t := rfl

/-- The form in which a position is shown to people. -/
def display (p : Position) : String := toString p.line ++ ":" ++ toString p.character

end Position

/-- The text between two positions; the end is not part of it. -/
structure Range where
  start : Position
  stop : Position
deriving DecidableEq, Repr, Inhabited

namespace Range

/-- The range that holds nothing. -/
def empty (p : Position) : Range := ⟨p, p⟩

end Range

namespace Text

/-- How many characters stand before line `n`; none if the text has fewer lines. -/
def lineStart : Nat → Text → Option Nat
  | 0, _ => some 0
  | _ + 1, [] => none
  | n + 1, c :: cs => (lineStart (if c = '\n' then n else n + 1) cs).map (· + 1)

/-- How many characters of a line stand before column `k`. A column inside a surrogate pair
falls behind the pair, one past the line's end falls on the end. -/
def columnIndex : Nat → Text → Nat
  | 0, _ => 0
  | _ + 1, [] => 0
  | k + 1, c :: cs => columnIndex (k + 1 - utf16Width c) cs + 1

/-- How many characters stand before a position, clamped to the line and to the text. -/
def indexAt (t : Text) (p : Position) : Nat :=
  match lineStart p.line t with
  | none => t.length
  | some n => n + columnIndex p.character (withoutReturn (firstLine (t.drop n)))

/-- What is left of a text behind its first bytes; all of the last character, if it is cut. -/
def dropBytes : Nat → Text → Text
  | 0, t => t
  | _ + 1, [] => []
  | n + 1, c :: cs => dropBytes (n + 1 - c.utf8Size) cs

/-- How many bytes stand before line `n`; none if the text has fewer lines. -/
def lineOffset : Nat → Text → Option Nat
  | 0, _ => some 0
  | _ + 1, [] => none
  | n + 1, c :: cs => (lineOffset (if c = '\n' then n else n + 1) cs).map (c.utf8Size + ·)

/-- How many bytes of a line stand before column `k`, found as in `columnIndex`. -/
def columnOffset : Nat → Text → Nat
  | 0, _ => 0
  | _ + 1, [] => 0
  | k + 1, c :: cs => c.utf8Size + columnOffset (k + 1 - utf16Width c) cs

/-- How many bytes of UTF-8 stand before a position, clamped to the line and to the text. -/
def offsetAt (t : Text) (p : Position) : Nat :=
  match lineOffset p.line t with
  | none => utf8Length t
  | some n => n + columnOffset p.character (withoutReturn (firstLine (t.dropBytes n)))

end Text

end Waymark
