import MiniLox.Syntax
import MiniLox.Value

/-!
# Printing syntax trees

Trees print in prefix form: an operation is its operator's lexeme and its operands in
parentheses, a grouping is `(group e)`, an assignment `(= name e)`, a literal the value it
denotes and a variable its name. Statements print as `(print e)`, `(; e)`, `(var name)` and
`(var name e)`.
-/

set_option autoImplicit false

namespace MiniLox

/-- The prefix form of an expression. -/
def Expr.show : Expr → String
  | .literal t => t.value.display
  | .var name => name.lexeme
  | .grouping e => "(group " ++ e.show ++ ")"
  | .unary op right => "(" ++ op.lexeme ++ " " ++ right.show ++ ")"
  | .binary left op right => "(" ++ op.lexeme ++ " " ++ left.show ++ " " ++ right.show ++ ")"
  | .assign name value => "(= " ++ name.lexeme ++ " " ++ value.show ++ ")"

/-- The prefix form of a statement. -/
def Stmt.show : Stmt → String
  | .print e => "(print " ++ e.show ++ ")"
  | .expression e => "(; " ++ e.show ++ ")"
  | .varDecl name none => "(var " ++ name.lexeme ++ ")"
  | .varDecl name (some e) => "(var " ++ name.lexeme ++ " " ++ e.show ++ ")"

end MiniLox
