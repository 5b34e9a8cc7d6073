import MiniLox.Syntax
import MiniLox.Environment
import MiniLox.Diagnostic

/-!
# Evaluation

Expressions evaluate left to right against the environment; an assignment changes it, and a
change made before a runtime error stays. Unary operators evaluate their operand first, binary
operators both operands first. `-` needs a number, `+` two numbers or two texts, the other
arithmetic and comparison operators two numbers; `==` and `!=` compare any two values.
Statements run in order: a statement that fails is reported, and the next one runs.
-/

set_option autoImplicit false

namespace MiniLox

/-- What goes wrong while running. -/
inductive RuntimeFault where
  | undefinedVariable (name : String)
  | operandNotNumber
  | operandsNotNumbers
  | operandsNotAddable
  | unknownUnary (lexeme : String)
  | unknownBinary (lexeme : String)
deriving DecidableEq, Repr

namespace RuntimeFault

def message : RuntimeFault → String
  | undefinedVariable name => "Undefined variable '" ++ name ++ "'."
  | operandNotNumber => "Operand must be a number."
  | operandsNotNumbers => "Operands must be numbers."
  | operandsNotAddable => "Operands must be two numbers or two strings."
  | unknownUnary op => "Unknown unary operator '" ++ op ++ "'."
  | unknownBinary op => "Unknown binary operator '" ++ op ++ "'."

def isOperandType : RuntimeFault → Bool
  | operandNotNumber | operandsNotNumbers | operandsNotAddable => true
  | _ => false

def isUndefinedVariable : RuntimeFault → Bool
  | undefinedVariable _ => true
  | _ => false

end RuntimeFault

/-- A runtime fault and the token nearest to it. -/
structure RuntimeError where
  token : Token
  fault : RuntimeFault

def RuntimeError.diagnostic (e : RuntimeError) : Diagnostic := .runtimeAt e.token e.fault.message

def RuntimeError.undefined (name : Token) : RuntimeError := ⟨name, .undefinedVariable name.lexeme⟩

def applyUnary (op : Token) (v : Value) : Except RuntimeError Value :=
  match op.kind, v with
  | .minus, .number x => .ok (.number (-x))
  | .minus, _ => .error ⟨op, .operandNotNumber⟩
  | .bang, v => .ok (.bool !v.truthy)
  | _, _ => .error ⟨op, .unknownUnary op.lexeme⟩

def applyNumeric (op : Token) (x y : Float) : Except RuntimeError Value :=
  match op.kind with
  | .minus => .ok (.number (x - y))
  | .star => .ok (.number (x * y))
  | .slash => .ok (.number (x / y))
  | .greater => .ok (.bool (decide (x > y)))
  | .greaterEqual => .ok (.bool (decide (x ≥ y)))
  | .less => .ok (.bool (decide (x < y)))
  | .lessEqual => .ok (.bool (decide (x ≤ y)))
  | _ => .error ⟨op, .unknownBinary op.lexeme⟩

theorem applyUnary_error_token {op : Token} {v : Value} {err : RuntimeError}
    (h : applyUnary op v = .error err) : err.token = op := by
  unfold applyUnary at h
  split at h <;> cases h <;> rfl

theorem applyNumeric_error_token {op : Token} {x y : Float} {err : RuntimeError}
    (h : applyNumeric op x y = .error err) : err.token = op := by
  unfold applyNumeric at h
  split at h
  -- only an operator outside the seven fails
  case h_8 => cases h; rfl
  all_goals cases h

def applyBinary (op : Token) (l r : Value) : Except RuntimeError Value :=
  match op.kind, l, r with
  | .equalEqual, l, r => .ok (.bool (l.equal r))
  | .bangEqual, l, r => .ok (.bool !(l.equal r))
  | .plus, .number x, .number y => .ok (.number (x + y))
  | .plus, .text s, .text t => .ok (.text (s ++ t))
  | .plus, _, _ => .error ⟨op, .operandsNotAddable⟩
  | _, .number x, .number y => applyNumeric op x y
  | _, _, _ => .error ⟨op, .operandsNotNumbers⟩

theorem applyBinary_error_token {op : Token} {l r : Value} {err : RuntimeError}
    (h : applyBinary op l r = .error err) : err.token = op := by
  unfold applyBinary at h
  split at h
  case h_6 => exact applyNumeric_error_token h
  all_goals cases h <;> rfl

/-- Evaluates an expression: its value or a runtime error, and the environment after it. -/
def Expr.eval : Expr → Environment → Except RuntimeError Value × Environment
  | .literal t, env => (.ok t.value, env)
  | .var name, env =>
    match env.get? name.lexeme with
    | some v => (.ok v, env)
    | none => (.error (.undefined name), env)
  | .grouping e, env => e.eval env
  | .unary op right, env =>
    match right.eval env with
    | (.error e, env') => (.error e, env')
    | (.ok v, env') => (applyUnary op v, env')
  | .binary left op right, env =>
    match left.eval env with
    | (.error e, env1) => (.error e, env1)
    | (.ok l, env1) =>
      match right.eval env1 with
      | (.error e, env2) => (.error e, env2)
      | (.ok r, env2) => (applyBinary op l r, env2)
  | .assign name value, env =>
    match value.eval env with
    | (.error e, env') => (.error e, env')
    | (.ok v, env') =>
      match env'.assign? name.lexeme v with
      | some env'' => (.ok v, env'')
      | none => (.error (.undefined name), env')

/-- What running a statement shows: a printed line or a runtime error. -/
inductive Effect where
  | printed (line : String)
  | failed (e : RuntimeError)

/-- Runs a statement: what it shows, if anything, and the environment after it. -/
def Stmt.exec : Stmt → Environment → Option Effect × Environment
  | .expression e, env =>
    match e.eval env with
    | (.error err, env') => (some (.failed err), env')
    | (.ok _, env') => (none, env')
  | .print e, env =>
    match e.eval env with
    | (.error err, env') => (some (.failed err), env')
    | (.ok v, env') => (some (.printed v.display), env')
  | .varDecl name none, env => (none, env.define name.lexeme .nil)
  | .varDecl name (some e), env =>
    match e.eval env with
    | (.error err, env') => (some (.failed err), env')
    | (.ok v, env') => (none, env'.define name.lexeme v)

/-- Runs statements in order, each after the one before even when that one failed: what they
show, in order, and the environment after them. -/
def interpret : List Stmt → Environment → List Effect × Environment
  | [], env => ([], env)
  | s :: rest, env =>
    let (eff, env') := s.exec env
    let (effs, env'') := interpret rest env'
    (eff.toList ++ effs, env'')

theorem interpret_cons (s : Stmt) (rest : List Stmt) (env : Environment) :
    interpret (s :: rest) env =
      ((s.exec env).1.toList ++ (interpret rest (s.exec env).2).1,
        (interpret rest (s.exec env).2).2) := rfl

def Effect.outputs (effs : List Effect) : List String :=
  effs.filterMap fun | .printed line => some line | .failed _ => none

def Effect.failures (effs : List Effect) : List RuntimeError :=
  effs.filterMap fun | .printed _ => none | .failed e => some e

end MiniLox
