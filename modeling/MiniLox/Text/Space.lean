/-!
# White space

The Unicode White_Space code points: tab, line feed, vertical tab, form feed, carriage return,
space, next line, no-break space, and the spaces and separators of the higher planes.
`trimSpace` removes them from both ends of a text.
-/

set_option autoImplicit false

namespace MiniLox.Text

/-- A white-space character. -/
def isSpace (c : Char) : Bool :=
  let n := c.toNat
  (0x09 ≤ n && n ≤ 0x0D) || n == 0x20 || n == 0x85 || n == 0xA0 || n == 0x1680 ||
    (0x2000 ≤ n && n ≤ 0x200A) || n == 0x2028 || n == 0x2029 || n == 0x202F || n == 0x205F ||
    n == 0x3000

/-- The text without white space at either end. -/
def trimSpace (s : String) : String :=
  String.ofList ((s.toList.dropWhile isSpace).reverse.dropWhile isSpace).reverse

end MiniLox.Text
