import Waymark.Text.Position

/-! Anchor glyphs: the invisible characters that keep markers attached to a text. -/

namespace Waymark.Anchor

/-- The glyph that is put in: a space of no width. -/
def glyph : Char := '\u200B'

/-- A visible glyph that older texts may hold; it is removed like the other. -/
def legacyGlyph : Char := '\u29BF'

/-- Whether a character is an anchor of either kind. -/
def isGlyph (c : Char) : Bool := c == glyph || c == legacyGlyph

/-- A text without its anchors. -/
def strip (t : Text) : Text := t.filter fun c => !isGlyph c

/-- A text without its anchors, if it has any. -/
def strip? (t : Text) : Option Text := if t.any isGlyph then some (strip t) else none

/-- How many anchors a text holds. -/
def count (t : Text) : Nat := t.countP isGlyph

/-- Reads on at a position, perhaps inside a run that began earlier. -/
def runsFrom (p : Position) : (begun : Option Position) → Text → List Range
  | none, [] => []
  | some start, [] => [⟨start, p⟩]
  | none, c :: cs =>
    if isGlyph c then runsFrom (p.after c) (some p) cs else runsFrom (p.after c) none cs
  | some start, c :: cs =>
    if isGlyph c then runsFrom (p.after c) (some start) cs
    else ⟨start, p⟩ :: runsFrom (p.after c) none cs

/-- The runs of anchors in a text, each as long as it can be. -/
def runs (t : Text) : List Range := runsFrom ⟨0, 0⟩ none t

end Waymark.Anchor
