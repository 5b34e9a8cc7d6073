import MiniLox.Decimal.Layout

/-!
# Tokens

A token is a kind, the lexeme it was read from, an optional literal value and the line on which
it ends. Kinds have numeric codes in a fixed order: single characters, one or two characters,
literals, then keywords; a code past the last one names no kind and stays `unnamed`.
-/

set_option autoImplicit false

namespace MiniLox

/-- The kinds of tokens. Keyword kinds end in `Kw`. -/
inductive TokenKind where
  | eof | leftParen | rightParen | leftBrace | rightBrace | comma | dot | minus | plus
  | semicolon | slash | star
  | bang | bangEqual | equal | equalEqual | greater | greaterEqual | less | lessEqual
  | identifier | string | number
  | andKw | classKw | elseKw | falseKw | funKw | forKw | ifKw | nilKw | orKw | printKw
  | returnKw | superKw | thisKw | trueKw | varKw | whileKw
  /-- A code that names no kind. -/
  | unnamed (code : Nat) (h : 39 ≤ code)
deriving DecidableEq, Repr

namespace TokenKind

def code : TokenKind → Nat
  | eof => 0 | leftParen => 1 | rightParen => 2 | leftBrace => 3 | rightBrace => 4
  | comma => 5 | dot => 6 | minus => 7 | plus => 8 | semicolon => 9 | slash => 10
  | star => 11 | bang => 12 | bangEqual => 13 | equal => 14 | equalEqual => 15
  | greater => 16 | greaterEqual => 17 | less => 18 | lessEqual => 19 | identifier => 20
  | string => 21 | number => 22 | andKw => 23 | classKw => 24 | elseKw => 25
  | falseKw => 26 | funKw => 27 | forKw => 28 | ifKw => 29 | nilKw => 30 | orKw => 31
  | printKw => 32 | returnKw => 33 | superKw => 34 | thisKw => 35 | trueKw => 36
  | varKw => 37 | whileKw => 38
  | unnamed c _ => c

def ofCode : Nat → TokenKind
  | 0 => eof | 1 => leftParen | 2 => rightParen | 3 => leftBrace | 4 => rightBrace
  | 5 => comma | 6 => dot | 7 => minus | 8 => plus | 9 => semicolon | 10 => slash
  | 11 => star | 12 => bang | 13 => bangEqual | 14 => equal | 15 => equalEqual
  | 16 => greater | 17 => greaterEqual | 18 => less | 19 => lessEqual | 20 => identifier
  | 21 => string | 22 => number | 23 => andKw | 24 => classKw | 25 => elseKw
  | 26 => falseKw | 27 => funKw | 28 => forKw | 29 => ifKw | 30 => nilKw | 31 => orKw
  | 32 => printKw | 33 => returnKw | 34 => superKw | 35 => thisKw | 36 => trueKw
  | 37 => varKw | 38 => whileKw
  | n + 39 => unnamed (n + 39) (Nat.le_add_left 39 n)

def named : List TokenKind :=
  (List.range 39).map ofCode

def name : TokenKind → String
  | eof => "EOF" | leftParen => "LeftParen" | rightParen => "RightParen"
  | leftBrace => "LeftBrace" | rightBrace => "RightBrace" | comma => "Comma" | dot => "Dot"
  | minus => "Minus" | plus => "Plus" | semicolon => "Semicolon" | slash => "Slash"
  | star => "Star" | bang => "Bang" | bangEqual => "BangEqual" | equal => "Equal"
  | equalEqual => "EqualEqual" | greater => "Greater" | greaterEqual => "GreaterEqual"
  | less => "Less" | lessEqual => "LessEqual" | identifier => "Identifier"
  | string => "String" | number => "Number" | andKw => "And" | classKw => "Class"
  | elseKw => "Else" | falseKw => "False" | funKw => "Fun" | forKw => "For" | ifKw => "If"
  | nilKw => "Nil" | orKw => "Or" | printKw => "Print" | returnKw => "Return"
  | superKw => "Super" | thisKw => "This" | trueKw => "True" | varKw => "Var"
  | whileKw => "While"
  | unnamed c _ => "TokenType(" ++ toString c ++ ")"

def ofName? (s : String) : Option TokenKind :=
  named.find? (·.name == s)

def showsLiteral : TokenKind → Bool
  | identifier | string | number => true
  | _ => false

end TokenKind

/-- The value a token carries: none, a text (identifiers and strings) or a number. -/
inductive Literal where
  | absent
  | text (s : String)
  | number (x : Float)

def Literal.layout : Decimal.Layout where
  plain := some (-4, 6)
  posInf := "+Inf"
  negInf := "-Inf"
  nan := "NaN"

def Literal.describe : Literal → String
  | .absent => "<nil>"
  | .text s => s
  | .number x => Literal.layout.render x

/-- A token: its kind, the characters it was read from, its literal and the line it ends on. -/
structure Token where
  kind : TokenKind
  lexeme : String
  literal : Literal
  line : Int

/-- The kind's name, followed by the literal in parentheses for identifiers, strings and
numbers. -/
def Token.describe (t : Token) : String :=
  if t.kind.showsLiteral then t.kind.name ++ "(" ++ t.literal.describe ++ ")" else t.kind.name

end MiniLox
