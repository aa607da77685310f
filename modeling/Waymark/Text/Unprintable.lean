import Waymark.Unicode.Category

/-! The characters that show nothing of their own: controls, formats, blanks other than the
space, fillers, private ones, marks that join the character before them, and those that are not
there at all. -/

namespace Waymark.Text

/-- Beyond ASCII, Unicode's categories Cc, Cf, Co, Zl, Zp and Zs, and the fillers among those
that may be ignored. -/
def invisible : List Unicode.Span := Unicode.spans
  ["80-A0 AD 600-605 61C 6DD 70F 890-891 8E2 115F-1160 1680 180E 2000-200F 2028-202F 205F-2064",
    "2066-206F 3000 3164 E000-F8FF FEFF FFA0 FFF9-FFFB 110BD 110CD 13430-1343F 1BCA0-1BCA3",
    "1D173-1D17A E0001 E0020-E007F F0000-FFFFD 100000-10FFFD"]

/-- The marks that take room and still have Unicode's property Grapheme_Extend. -/
def extending : List Unicode.Span := Unicode.spans
  ["9BE 9D7 B3E B57 BBE BD7 CC0 CC2 CC7-CC8 CCA-CCB CD5-CD6 D3E D57 DCF DDF 1715 1734 1B35 1B3B",
    "1B3D 1B43-1B44 1BAA 1BF2-1BF3 302E-302F A953 A9C0 111C0 11235 1133E 1134D 11357 113B8 113C2",
    "113C5 113C7-113C9 113CF 114B0 114BD 115AF 116B6 11930 1193D 11F41 16FF0-16FF1 1D165-1D166",
    "1D16D-1D172"]

/-- Whether a character shows nothing of its own. -/
def isUnprintable (c : Char) : Bool :=
  if c < '\x7f' then c < ' '
  else
    c = '\x7f' || Unicode.isIn invisible c || Unicode.isNonspacing c || Unicode.isIn extending c
      || Unicode.isUnassigned c

end Waymark.Text
