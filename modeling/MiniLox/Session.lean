import MiniLox.Syntax.Parser
import MiniLox.Syntax.Print
import MiniLox.Eval
import MiniLox.Log
import MiniLox.Text.Quoted

/-!
# Sessions

A session keeps an environment and the report of diagnostics across the sources it runs.
Running a source scans, parses and, unless a static diagnostic has been reported since the last
reset, runs the statements. What a run shows comes as a list of events in the order they
happen: printed lines, diagnostics, the token and statement listings, and debug log records.
The exit status is that of the report.
-/

set_option autoImplicit false

namespace MiniLox

/-- Something a run shows. -/
inductive Event where
  | printed (line : String)
  | reported (d : Diagnostic)
  | tokenListed (t : Token)
  | stmtListed (s : Stmt)
  | logged (r : LogRecord)

def Event.reports (evs : List Event) : List Diagnostic :=
  evs.filterMap fun | .reported x => some x | _ => none

namespace Event

@[simp] theorem reports_nil : reports [] = [] := rfl

@[simp] theorem reports_append (a b : List Event) : reports (a ++ b) = reports a ++ reports b :=
  List.filterMap_append

@[simp] theorem reports_map_reported {α : Type} (f : α → Diagnostic) (xs : List α) :
    reports (xs.map (Event.reported ∘ f)) = xs.map f := by
  rw [reports, List.filterMap_map]
  exact congrFun List.filterMap_eq_map xs

@[simp] theorem reports_map_tokenListed (ts : List Token) : reports (ts.map .tokenListed) = [] := by
  simp [reports]

@[simp] theorem reports_map_stmtListed (ss : List Stmt) : reports (ss.map .stmtListed) = [] := by
  simp [reports]

@[simp] theorem reports_logged (r : LogRecord) (evs : List Event) :
    reports (.logged r :: evs) = reports evs := rfl

end Event

def Token.listing (t : Token) : String :=
  toString t.line ++ " " ++ t.describe ++ " " ++ Text.quote t.lexeme

/-- The environment and the diagnostics since the last reset. -/
structure Session where
  env : Environment := {}
  report : Report := {}

namespace Session

def reportAll (s : Session) (ds : List Diagnostic) : Session × List Event :=
  ({ s with report := ⟨s.report.items ++ ds⟩ }, ds.map .reported)

def reset (s : Session) : Session := { s with report := {} }

/-- Runs a source: its exit status, what it showed, and the session after it. -/
def runSource (s : Session) (source : String) : Nat × List Event × Session :=
  let (tokens, lexErrors) := scan source
  let (s, lexEvents) := s.reportAll (lexErrors.map (·.diagnostic))
  let (stmts, syntaxErrors) := parse tokens
  let (s, syntaxEvents) := s.reportAll (syntaxErrors.map (·.diagnostic))
  let parsed : LogRecord := ⟨.debug, "parsed source",
    [("bytes", .int source.utf8ByteSize), ("tokens", .int tokens.length),
     ("statements", .int stmts.length)]⟩
  let before := lexEvents ++ tokens.map .tokenListed ++ syntaxEvents ++ stmts.map .stmtListed ++
    [.logged parsed]
  if s.report.hadError then
    let skipped : LogRecord := ⟨.debug, "skipping execution after static errors",
      [("diagnostics", .int s.report.items.length)]⟩
    (s.report.exitCode, before ++ [.logged skipped], s)
  else
    let (effects, env) := interpret stmts s.env
    let s := { s with env := env }
    let ranEvents := effects.map fun
      | .printed line => Event.printed line
      | .failed e => Event.reported e.diagnostic
    let s := { s with report := ⟨s.report.items ++ (Effect.failures effects).map (·.diagnostic)⟩ }
    let executed : LogRecord := ⟨.debug, "executed source",
      [("statements", .int stmts.length), ("bindings", .int env.size),
       ("runtime_error", .bool s.report.hadRuntimeError)]⟩
    (s.report.exitCode, before ++ ranEvents ++ [.logged executed], s)

end Session

end MiniLox
