/-!
# Sets of code points as ranges

A character class is a list of inclusive ranges of code points, sorted and apart.
-/

set_option autoImplicit false

namespace MiniLox.Text

/-- The code point `c` lies in one of the inclusive ranges. -/
def inRanges (rs : List (Nat × Nat)) (c : Nat) : Bool := rs.any fun r => r.1 ≤ c && c ≤ r.2

end MiniLox.Text
