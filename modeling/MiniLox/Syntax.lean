import MiniLox.Token

/-!
# Syntax trees

Expressions are literals, variables, groupings, unary and binary operations and assignments;
statements print a value, evaluate an expression, or declare a variable with an optional
initializer. Nodes keep the tokens they were read from, for their lines and lexemes.
-/

set_option autoImplicit false

namespace MiniLox

/-- An expression. -/
inductive Expr where
  | literal (token : Token)
  | var (name : Token)
  | grouping (inner : Expr)
  | unary (op : Token) (right : Expr)
  | binary (left : Expr) (op : Token) (right : Expr)
  | assign (name : Token) (value : Expr)

/-- A statement. -/
inductive Stmt where
  | print (e : Expr)
  | expression (e : Expr)
  | varDecl (name : Token) (init : Option Expr)

end MiniLox
