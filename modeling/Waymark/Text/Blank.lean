import Waymark.Text.Basic

/-! The characters that Unicode calls white space. -/

namespace Waymark.Text

/-- Unicode's property White_Space. -/
def isBlank (c : Char) : Bool :=
  let v := c.toNat
  (0x9 ≤ v && v ≤ 0xD) || v == 0x20 || v == 0x85 || v == 0xA0 || v == 0x1680
    || (0x2000 ≤ v && v ≤ 0x200A) || v == 0x2028 || v == 0x2029 || v == 0x202F
    || v == 0x205F || v == 0x3000

/-- A text without the blanks at its ends. -/
def trimBlank (t : Text) : Text := t.trim isBlank

end Waymark.Text
