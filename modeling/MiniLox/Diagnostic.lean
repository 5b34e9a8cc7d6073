import MiniLox.Token.Scan

/-!
# Diagnostics

A diagnostic is static (found while scanning or parsing) or a runtime one, with a line, the
place it points at and a message. A `Report` keeps the diagnostics of a run in the order they
were found; the exit status is 65 after a static diagnostic, else 70 after a runtime one, else
0.
-/

set_option autoImplicit false

namespace MiniLox

inductive DiagnosticKind where
  | static
  | runtime
deriving DecidableEq, Repr

/-- A reported problem. `place` is empty, ` at end` or ` at 'lexeme'`. -/
structure Diagnostic where
  kind : DiagnosticKind
  line : Int
  place : String
  message : String
deriving DecidableEq, Repr

def Token.place (t : Token) : String :=
  if t.kind = .eof then " at end" else " at '" ++ t.lexeme ++ "'"

namespace Diagnostic

def atLine (line : Int) (message : String) : Diagnostic := ⟨.static, line, "", message⟩

def atToken (t : Token) (message : String) : Diagnostic := ⟨.static, t.line, t.place, message⟩

def runtimeAt (t : Token) (message : String) : Diagnostic := ⟨.runtime, t.line, "", message⟩

/-- `[line N] Error<place>: message` for static diagnostics, `[line N]: message` for runtime
ones. -/
def text (d : Diagnostic) : String :=
  match d.kind with
  | .static => "[line " ++ toString d.line ++ "] Error" ++ d.place ++ ": " ++ d.message
  | .runtime => "[line " ++ toString d.line ++ "]: " ++ d.message

end Diagnostic

def LexError.diagnostic (e : LexError) : Diagnostic := .atLine e.line e.fault.message

/-- The diagnostics of a run, in the order they were found. -/
structure Report where
  items : List Diagnostic := []
deriving DecidableEq, Repr

namespace Report

def add (r : Report) (d : Diagnostic) : Report := ⟨r.items ++ [d]⟩

def hadError (r : Report) : Bool := r.items.any (·.kind == .static)

def hadRuntimeError (r : Report) : Bool := r.items.any (·.kind == .runtime)

/-- 65 after a static diagnostic, else 70 after a runtime one, else 0. -/
def exitCode (r : Report) : Nat :=
  if r.hadError then 65 else if r.hadRuntimeError then 70 else 0

end Report

end MiniLox
