import MiniLox.Text.Ranges

/-!
# Control, format and private-use characters

The code points of the general categories Cc, Cf, Co and Cs, Unicode 17.0 (unassigned code
points are not among them). A prompt that holds one of them is refused.
-/

set_option autoImplicit false

namespace MiniLox.Text

/-- The control, format, private-use and surrogate code points, as 26 ranges. -/
def otherRanges : List (Nat × Nat) := [
  (0x0, 0x1F), (0x7F, 0x9F), (0xAD, 0xAD), (0x600, 0x605),
  (0x61C, 0x61C), (0x6DD, 0x6DD), (0x70F, 0x70F), (0x890, 0x891),
  (0x8E2, 0x8E2), (0x180E, 0x180E), (0x200B, 0x200F), (0x202A, 0x202E),
  (0x2060, 0x2064), (0x2066, 0x206F), (0xD800, 0xF8FF), (0xFEFF, 0xFEFF),
  (0xFFF9, 0xFFFB), (0x110BD, 0x110BD), (0x110CD, 0x110CD), (0x13430, 0x1343F),
  (0x1BCA0, 0x1BCA3), (0x1D173, 0x1D17A), (0xE0001, 0xE0001), (0xE0020, 0xE007F),
  (0xF0000, 0xFFFFD), (0x100000, 0x10FFFD)]

/-- A control, format, private-use or surrogate character. -/
def isOther (c : Char) : Bool := inRanges otherRanges c.toNat

end MiniLox.Text
