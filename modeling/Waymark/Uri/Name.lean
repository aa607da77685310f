import Waymark.Unicode.Direction
import Waymark.Unicode.Folding
import Waymark.Unicode.Joining
import Waymark.Uri.Punycode

/-! Names of machines: the form in which they are compared, and which of them are well formed. -/

namespace Waymark.Uri.Name

/-- The form of a text in which it is compared: folded, with its characters put together. There
is none if it holds a character that no name has. -/
def fold? (t : Text) : Option Text :=
  (t.mapM Unicode.fold?).map fun parts => Unicode.compose parts.flatten

/-- The characters of ASCII that no name has. -/
def isForbidden (c : Char) : Bool :=
  c ≤ ' ' || c == '\x7f' || "#%/:<>?@[\\]^|".toList.contains c

/-- What stands before a label that is written in ASCII instead of its own characters. -/
def mark : Text := "xn--".toList

/-- How long a label can be that is not in ASCII. -/
def longestLabel : Nat := 1000

/-- How long a label can be that is written in ASCII instead. -/
def longestWritten : Nat := 2000

/-- The label that is written in ASCII as `t`. Nothing may be written so that could be written
as it is, nor in any form but the one in which it is compared. -/
def decodeLabel? (t : Text) : Option Text :=
  if longestWritten < t.length then none
  else
    match Punycode.decode? t with
    | none => none
    | some label =>
      if label.all (· ≤ '\x7f') || label.any (fun c => isForbidden c || c == '.')
          || mark.isPrefixOf label || fold? label != some label then none
      else some label

/-- A label as it is meant. -/
def label? (t : Text) : Option Text :=
  if mark.isPrefixOf t then decodeLabel? (t.drop mark.length) else some t

/-- Whether a label that is meant so is well formed, whatever stands beside it. -/
def isLabel (t : Text) : Bool :=
  !t.head?.any Unicode.isMark && Unicode.areJoinersSound [] t
    && (t.all (· ≤ '\x7f') || t.length ≤ longestLabel)

/-- Whether the labels of a name do not mix directions in ways that confuse. -/
def areDirected (labels : List Text) : Bool :=
  !labels.any (·.any Unicode.turns) || labels.all Unicode.isDirected

/-- The form of a name in which it is compared, if the name is well formed. Labels that are
written in ASCII stay so. -/
def ofText? (t : Text) : Option Text :=
  match fold? t with
  | none => none
  | some name =>
    if name.isEmpty || name.any isForbidden then none
    else
      match (Text.splitAt '.' name).mapM label? with
      | none => none
      | some labels => if labels.all isLabel && areDirected labels then some name else none

end Waymark.Uri.Name
