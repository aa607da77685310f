import Waymark.Marker.Colour
import Waymark.Text.Position

/-! A marker: one state of a verification run as the editor shows it. -/

namespace Waymark

/-- What a marker shows before its place in the text. -/
inductive Glyph
  | hidden
  | collapsed
  | label
deriving DecidableEq, Repr

namespace Glyph

/-- The sign for a state that is there but not shown in full. -/
def collapsedText : String := "\u26AB"

/-- The glyph that a rendered text stands for. -/
def ofRendered (text : Option String) : Glyph :=
  match text with
  | none => hidden
  | some s => if s = "" then hidden else if s = collapsedText then collapsed else label

end Glyph

/-- A state's marker. Its range is worked out from its origin by the board that holds it. -/
structure Marker where
  index : Nat
  origin : Position
  range : Range
  depth : Nat
  method : Nat
  isError : Bool
  parent : Option Nat
  number : Nat
  hover : String
  glyph : Glyph
  colour : Colour
deriving DecidableEq, Repr

namespace Marker

/-- The marker of a state of which nothing is known but where it is. -/
def plain (index : Nat) (origin : Position) : Marker where
  index
  origin
  range := .empty origin
  depth := 0
  method := 0
  isError := false
  parent := none
  number := index
  hover := ""
  glyph := .hidden
  colour := .uninteresting

/-- The label of a state. -/
def label (m : Marker) : String := "(" ++ toString m.number ++ ")"

/-- What the editor shows before the marker's place. -/
def renderedText (m : Marker) : String :=
  match m.glyph with
  | .hidden => ""
  | .collapsed => Glyph.collapsedText
  | .label => m.label

/-- Whether the editor shows anything. -/
def isVisible (m : Marker) : Bool := m.glyph != .hidden

/-- Shows the label. -/
def expand (m : Marker) : Marker := { m with glyph := .label }

/-- Shows only that the state is there. -/
def collapse (m : Marker) : Marker := { m with glyph := .collapsed }

/-- Shows nothing. -/
def hide (m : Marker) : Marker := { m with glyph := .hidden }

/-- The marker after a colour was asked for: it changes if its own colour gives way. -/
def requestColour (m : Marker) (wanted : Colour) : Marker :=
  if m.colour.yieldsTo wanted then { m with colour := wanted } else m

/-- Asks a marker for a colour: the answer whether its own gives way, and the marker afterwards. -/
def recolour (m : Marker) (wanted : Colour) : Bool × Marker :=
  (m.colour.yieldsTo wanted, m.requestColour wanted)

end Marker

end Waymark
