import VoxelRelay.Text.CharClass

/-!
# White space

The characters that the character standard counts as white space.
-/

namespace VoxelRelay.Text

/-- The characters that are white space. -/
def space : CharClass where
  ranges :=
    [(0x9, 0xD), (0x20, 0x20), (0x85, 0x85), (0xA0, 0xA0), (0x1680, 0x1680),
      (0x2000, 0x200A), (0x2028, 0x2029), (0x202F, 0x202F), (0x205F, 0x205F),
      (0x3000, 0x3000)]

/-- Whether a character is white space. -/
def isSpace (c : Char) : Bool := space.contains c

end VoxelRelay.Text
