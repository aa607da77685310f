/-! The colours of markers, and which of them gives way to which. -/

namespace Waymark

/-- What a marker's colour says of its state, the strongest first. -/
inductive Colour
  | current
  | previous
  | error
  | interesting
  | uninteresting
deriving DecidableEq, Repr

namespace Colour

/-- Whether a marker of colour `held` takes the colour `wanted`. The first and the last colour
are always taken: the one marks the selection, the other opens a new pass. In between a colour
only replaces weaker ones, so that a pass never makes a marker weaker. -/
def yieldsTo (held : Colour) : (wanted : Colour) → Bool
  | uninteresting | current => true
  | previous => held != current
  | error => held != current && held != previous
  | interesting => held != current && held != previous && held != error

/-- The colour as the editor paints it, on a dark or a light background. -/
def css : Colour → (dark : Bool) → String
  | current, true => "#ff4f4f"
  | current, false => "#d40000"
  | previous, true => "#4fd14f"
  | previous, false => "#008a00"
  | error, true => "#ffa64d"
  | error, false => "#c25e00"
  | interesting, true => "#6fb7ff"
  | interesting, false => "#0057b8"
  | uninteresting, true => "#8c8c8c"
  | uninteresting, false => "#5c5c5c"

/-- The colours by the names they have in messages. -/
def names : List (String × Colour) :=
  [("current", current), ("previous", previous), ("error", error),
    ("interesting", interesting), ("uninteresting", uninteresting)]

/-- The name of a colour in messages. -/
def name : Colour → String
  | current => "current"
  | previous => "previous"
  | error => "error"
  | interesting => "interesting"
  | uninteresting => "uninteresting"

/-- The colour of a name, if it is one. -/
def ofName? (s : String) : Option Colour := names.lookup s

theorem ofName?_name (c : Colour) : ofName? c.name = some c := by
  cases c <;> rfl

end Colour

end Waymark
