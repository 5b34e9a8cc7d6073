import MiniLox.Token
import MiniLox.Decimal.Reading

/-!
# Values

A value is a text, a number (a double), a boolean or `nil`. `nil` and `false` are the only
values that count as false. Two numbers are equal when they differ by at most `10^-6`, so a NaN
equals nothing and an infinity not even itself; other values are equal when they are of one
kind and the same. A literal token denotes the value of its literal, or of its lexeme when its
literal is missing or of another kind.
-/

set_option autoImplicit false

namespace MiniLox

/-- A runtime value. -/
inductive Value where
  | text (s : String)
  | number (x : Float)
  | bool (b : Bool)
  | nil

namespace Value

/-- A value is of one of the four kinds; there is no value missing. -/
theorem kinds (v : Value) :
    (∃ s, v = .text s) ∨ (∃ x, v = .number x) ∨ (∃ b, v = .bool b) ∨ v = .nil := by
  cases v with
  | text s => exact .inl ⟨s, rfl⟩
  | number x => exact .inr (.inl ⟨x, rfl⟩)
  | bool b => exact .inr (.inr (.inl ⟨b, rfl⟩))
  | nil => exact .inr (.inr (.inr rfl))

def truthy : Value → Bool
  | nil => false
  | bool b => b
  | _ => true

def tolerance : Float := Float.ofBits (Decimal.nearestBits 1 (Nat.pow 10 6))

/-- Numbers are equal within `tolerance`; texts, booleans and `nil` when of one kind and the
same. -/
def equal : Value → Value → Bool
  | number x, number y => Float.abs (x - y) ≤ tolerance
  | text s, text t => s == t
  | bool a, bool b => a == b
  | nil, nil => true
  | _, _ => false

def layout : Decimal.Layout where
  plain := none
  posInf := "inf"
  negInf := "-inf"
  nan := "NaN"

/-- How a value is printed. -/
def display : Value → String
  | text s => s
  | number x => layout.render x
  | bool b => if b then "true" else "false"
  | nil => "nil"

end Value

def Token.value (t : Token) : Value :=
  match t.kind, t.literal with
  | .number, .number x => .number x
  | .number, _ => .number ((Decimal.Numeral.read? t.lexeme).elim 0 (·.toFloat))
  | .string, .text s => .text s
  | .string, _ => .text t.lexeme
  | .trueKw, _ => .bool true
  | .falseKw, _ => .bool false
  | _, _ => .nil

end MiniLox
