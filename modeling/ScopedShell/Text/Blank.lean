import ScopedShell.Text

/-!
# Blank characters

The characters that count as white space at the ends of a value: those with the Unicode property
`White_Space`, and the four information separators U+001C to U+001F.
-/

namespace ScopedShell.Text

def blankRanges : List (Nat × Nat) := [
    (0x9, 0xd), (0x1c, 0x20), (0x85, 0x85), (0xa0, 0xa0), (0x1680, 0x1680), (0x2000, 0x200a),
    (0x2028, 0x2029), (0x202f, 0x202f), (0x205f, 0x205f), (0x3000, 0x3000)
  ]

def isBlank (c : Char) : Bool :=
  inRanges blankRanges c

def trim (t : Text) : Text :=
  strip isBlank t

end ScopedShell.Text
