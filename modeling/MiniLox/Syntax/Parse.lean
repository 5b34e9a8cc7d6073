import MiniLox.Syntax
import MiniLox.Diagnostic

/-!
# The grammar read over a token list

The faults a parser reports, the levels of binary operators, and recursive descent over a token
list, loosest level first:

    declaration := "var" IDENTIFIER ( "=" expression )? ";" | "print" expression ";" | expression ";"
    assignment  := equality ( "=" assignment )?          -- the left side must be a variable
    equality    := comparison ( ( "!=" | "==" ) comparison )*
    comparison  := term ( ( ">" | ">=" | "<" | "<=" ) term )*
    term        := factor ( ( "-" | "+" ) factor )*
    factor      := unary ( ( "/" | "*" ) unary )*
    unary       := ( "!" | "-" ) unary | primary
    primary     := NUMBER | STRING | "true" | "false" | "nil" | IDENTIFIER | "(" expression ")"

Binary operators associate to the left, assignment to the right. A declaration that fails is
reported, the tokens up to just after the next `;` or just before the next keyword that starts
a statement are skipped, and parsing goes on. Here each parser takes the tokens left to read and
an end-of-input token that stands for the end of the list; the parser that runs,
`MiniLox.Syntax.Parser`, reads a slice with a cursor, and `parse_eq_declarations` proves that
it reads what this reading reads from the tokens before the slice's first end-of-input token.
-/

set_option autoImplicit false

namespace MiniLox

/-- What the parser expected and did not find. -/
inductive SyntaxFault where
  | expectVariableName
  | expectSemicolonAfterDeclaration
  | expectSemicolonAfterValue
  | expectSemicolonAfterExpression
  | invalidAssignment
  | expectRightParen
  | expectExpression
deriving DecidableEq, Repr

def SyntaxFault.message : SyntaxFault → String
  | .expectVariableName => "Expect variable name."
  | .expectSemicolonAfterDeclaration => "Expect ';' after variable declaration."
  | .expectSemicolonAfterValue => "Expect ';' after value."
  | .expectSemicolonAfterExpression => "Expect ';' after expression."
  | .invalidAssignment => "Invalid assignment type."
  | .expectRightParen => "Expect ')' after expression."
  | .expectExpression => "Expect expression."

/-- A syntax error and the token it was found at. -/
structure SyntaxError where
  token : Token
  fault : SyntaxFault

def SyntaxError.diagnostic (e : SyntaxError) : Diagnostic := .atToken e.token e.fault.message

/-- The levels of binary operators, loosest first. -/
inductive Tier where
  | equality
  | comparison
  | term
  | factor
deriving DecidableEq, Repr

namespace Tier

def operators : Tier → List TokenKind
  | equality => [.bangEqual, .equalEqual]
  | comparison => [.greater, .greaterEqual, .less, .lessEqual]
  | term => [.minus, .plus]
  | factor => [.slash, .star]

def tighter : Tier → Option Tier
  | equality => some comparison
  | comparison => some term
  | term => some factor
  | factor => none

def rank : Tier → Nat
  | equality => 3
  | comparison => 2
  | term => 1
  | factor => 0

theorem rank_tighter {t u : Tier} (h : t.tighter = some u) : u.rank + 1 = t.rank := by
  cases t <;> cases u <;> simp_all [tighter, rank]

end Tier

def TokenKind.startsStatement (k : TokenKind) : Bool :=
  k == .classKw || k == .funKw || k == .varKw || k == .forKw || k == .ifKw ||
    k == .whileKw || k == .printKw || k == .returnKw

def TokenKind.isLiteral (k : TokenKind) : Bool :=
  k == .falseKw || k == .trueKw || k == .nilKw || k == .number || k == .string

namespace Parse

inductive Step (ts : List Token) (α : Type) where
  | ok (a : α) (rest : List Token) (h : rest.length ≤ ts.length)
  | error (e : SyntaxError) (rest : List Token) (h : rest.length ≤ ts.length)

def Step.widen {ts us : List Token} {α : Type} (h : us.length ≤ ts.length) : Step us α → Step ts α
  | .ok a r h' => .ok a r (Nat.le_trans h' h)
  | .error e r h' => .error e r (Nat.le_trans h' h)

theorem lex_of_le {a b i j : Nat} (h : a ≤ b) (hij : i < j) :
    Prod.Lex (· < ·) (· < ·) (a, i) (b, j) := by
  rcases Nat.lt_or_eq_of_le h with h | h
  · exact Prod.Lex.left _ _ h
  · subst h; exact Prod.Lex.right _ hij

variable (eof : Token)

def peek : List Token → Token
  | [] => eof
  | t :: _ => t

mutual

/-- `assignment := equality ( "=" assignment )?` -/
def assignment (ts : List Token) : Step ts Expr :=
  match binary .equality ts with
  | .error e r h => .error e r h
  | .ok lhs r h =>
    match r with
    | t :: r' =>
      if t.kind = .equal then
        match assignment r' with
        | .error e r2 h2 => .error e r2 (by simp only [List.length_cons] at h; omega)
        | .ok value r2 h2 =>
          match lhs with
          | .var name => .ok (.assign name value) r2 (by simp only [List.length_cons] at h; omega)
          | _ => .error ⟨t, .invalidAssignment⟩ r2 (by simp only [List.length_cons] at h; omega)
      else .ok lhs (t :: r') h
    | [] => .ok lhs [] h
termination_by (ts.length, 10)
decreasing_by
  · exact Prod.Lex.right _ (by decide)
  · simp only [List.length_cons] at h; exact Prod.Lex.left _ _ (by omega)

def binary (tier : Tier) (ts : List Token) : Step ts Expr :=
  match operand tier ts with
  | .error e r h => .error e r h
  | .ok lhs r h => (binaryRest tier lhs r).widen h
termination_by (ts.length, 2 * tier.rank + 3)
decreasing_by
  · exact Prod.Lex.right _ (by omega)
  · exact lex_of_le h (by omega)

def operand (tier : Tier) (ts : List Token) : Step ts Expr :=
  match _h : tier.tighter with
  | some u => binary u ts
  | none => unary ts
termination_by (ts.length, 2 * tier.rank + 2)
decreasing_by
  · have := Tier.rank_tighter _h; exact Prod.Lex.right _ (by omega)
  · exact Prod.Lex.right _ (by omega)

def binaryRest (tier : Tier) (lhs : Expr) (ts : List Token) : Step ts Expr :=
  match ts with
  | t :: r =>
    if t.kind ∈ tier.operators then
      match operand tier r with
      | .error e r2 h2 => .error e r2 (by simp only [List.length_cons]; omega)
      | .ok rhs r2 h2 => (binaryRest tier (.binary lhs t rhs) r2).widen (by simp only [List.length_cons]; omega)
    else .ok lhs (t :: r) (Nat.le_refl _)
  | [] => .ok lhs [] (Nat.le_refl _)
termination_by (ts.length, 2 * tier.rank + 1)
decreasing_by
  · simp only [List.length_cons]; exact Prod.Lex.left _ _ (by omega)
  · simp only [List.length_cons]; exact Prod.Lex.left _ _ (by omega)

def unary (ts : List Token) : Step ts Expr :=
  match ts with
  | t :: r =>
    if t.kind = .bang ∨ t.kind = .minus then
      match unary r with
      | .error e r2 h2 => .error e r2 (by simp only [List.length_cons]; omega)
      | .ok right r2 h2 => .ok (.unary t right) r2 (by simp only [List.length_cons]; omega)
    else if t.kind.isLiteral then .ok (.literal t) r (by simp only [List.length_cons]; omega)
    else if t.kind = .identifier then .ok (.var t) r (by simp only [List.length_cons]; omega)
    else if t.kind = .leftParen then
      match assignment r with
      | .error e r2 h2 => .error e r2 (by simp only [List.length_cons]; omega)
      | .ok inner r2 h2 =>
        match r2 with
        | c :: r3 =>
          if c.kind = .rightParen then
            .ok (.grouping inner) r3 (by simp only [List.length_cons] at h2 ⊢; omega)
          else .error ⟨c, .expectRightParen⟩ (c :: r3) (by simp only [List.length_cons] at h2 ⊢; omega)
        | [] => .error ⟨eof, .expectRightParen⟩ [] (by simp)
    else .error ⟨t, .expectExpression⟩ (t :: r) (Nat.le_refl _)
  | [] => .error ⟨eof, .expectExpression⟩ [] (Nat.le_refl _)
termination_by (ts.length, 0)
decreasing_by
  · simp only [List.length_cons]; exact Prod.Lex.left _ _ (by omega)
  · simp only [List.length_cons]; exact Prod.Lex.left _ _ (by omega)

end

inductive Parsed (ts : List Token) where
  | stmt (s : Stmt) (rest : List Token) (h : rest.length < ts.length)
  | error (e : SyntaxError) (rest : List Token) (h : rest.length ≤ ts.length)

def terminate (fault : SyntaxFault) (s : Stmt) (ts : List Token) : Parsed ts :=
  match ts with
  | t :: r =>
    if t.kind = .semicolon then .stmt s r (by simp)
    else .error ⟨t, fault⟩ (t :: r) (Nat.le_refl _)
  | [] => .error ⟨eof, fault⟩ [] (Nat.le_refl _)

def Parsed.widen {ts us : List Token} (h : us.length ≤ ts.length) : Parsed us → Parsed ts
  | .stmt s r h' => .stmt s r (Nat.lt_of_lt_of_le h' h)
  | .error e r h' => .error e r (Nat.le_trans h' h)

def exprStatement (fault : SyntaxFault) (make : Expr → Stmt) (ts : List Token) : Parsed ts :=
  match assignment eof ts with
  | .error e r h => .error e r h
  | .ok e r h => (terminate eof fault (make e) r).widen h

def varDeclaration (ts : List Token) : Parsed ts :=
  match ts with
  | name :: t :: r =>
    if name.kind = .identifier then
      if t.kind = .equal then
        (exprStatement eof .expectSemicolonAfterDeclaration (fun e => .varDecl name (some e)) r).widen
          (by simp only [List.length_cons]; omega)
      else (terminate eof .expectSemicolonAfterDeclaration (.varDecl name none) (t :: r)).widen
        (by simp only [List.length_cons]; omega)
    else .error ⟨name, .expectVariableName⟩ (name :: t :: r) (Nat.le_refl _)
  | [name] =>
    if name.kind = .identifier then
      (terminate eof .expectSemicolonAfterDeclaration (.varDecl name none) []).widen (by simp)
    else .error ⟨name, .expectVariableName⟩ [name] (Nat.le_refl _)
  | [] => .error ⟨eof, .expectVariableName⟩ [] (Nat.le_refl _)

def declaration (ts : List Token) : Parsed ts :=
  match ts with
  | t :: r =>
    if t.kind = .varKw then (varDeclaration eof r).widen (by simp only [List.length_cons]; omega)
    else if t.kind = .printKw then
      (exprStatement eof .expectSemicolonAfterValue .print r).widen (by simp only [List.length_cons]; omega)
    else exprStatement eof .expectSemicolonAfterExpression .expression (t :: r)
  | [] => exprStatement eof .expectSemicolonAfterExpression .expression []

def skipToBoundary : List Token → List Token
  | [] => []
  | t :: r =>
    if t.kind.startsStatement then t :: r
    else if t.kind = .semicolon then r
    else skipToBoundary r

def synchronize : List Token → List Token
  | [] => []
  | t :: r => if t.kind = .semicolon then r else skipToBoundary r

theorem length_skipToBoundary_le : ∀ ts : List Token, (skipToBoundary ts).length ≤ ts.length
  | [] => Nat.le_refl _
  | t :: r => by
    have := length_skipToBoundary_le r
    simp only [skipToBoundary]
    split
    · simp
    · split
      · simp
      · simp only [List.length_cons]; omega

theorem length_synchronize_lt (t : Token) (r : List Token) :
    (synchronize (t :: r)).length < (t :: r).length := by
  have := length_skipToBoundary_le r
  by_cases hc : t.kind = .semicolon <;> simp [synchronize, hc]; omega

/-- The statements of a token list, and the syntax errors met, in order. -/
def declarations (ts : List Token) : List Stmt × List SyntaxError :=
  match ts with
  | [] => ([], [])
  | t :: r =>
    match declaration eof (t :: r) with
    | .stmt s rest _h =>
      let more := declarations rest
      (s :: more.1, more.2)
    | .error e [] _ => ([], [e])
    | .error e (u :: rest) _h =>
      let more := declarations (synchronize (u :: rest))
      (more.1, e :: more.2)
termination_by ts.length
decreasing_by
  · exact _h
  · have := length_synchronize_lt u rest; omega

end Parse

/-- The tokens a parser reads and the end-of-input token it sees after them: the tokens up to
the first end-of-input token, or all of them and an added end-of-input token on the line of the
last one (line 1 when there are none). -/
def Token.splitAtEnd (ts : List Token) : List Token × Token :=
  match ts.span (·.kind != .eof) with
  | (body, t :: _) => (body, t)
  | (body, []) => (body, ⟨.eof, "", .absent, (ts.getLast?.map (·.line)).getD 1⟩)

end MiniLox
