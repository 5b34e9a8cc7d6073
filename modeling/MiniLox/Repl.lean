import MiniLox.Session
import MiniLox.Text.Space

/-!
# The interactive loop

The loop asks a line reader for a line at a time. A line that is blank once trimmed is skipped,
`:quit` ends the loop, `:env` lists the bindings (texts quoted); any other line is remembered,
run in the session, and the session's diagnostics are reset after it, while its bindings stay.
An aborted prompt asks again; the end of input prints an empty line and ends with status 0; a
reader that fails ends with status 70.
-/

set_option autoImplicit false

namespace MiniLox

/-- What a line reader answers when asked for a line. -/
inductive Read where
  | line (s : String)
  | aborted
  | eof
  | failed
deriving DecidableEq, Repr

def Environment.listing (env : Environment) : List String :=
  env.bindings.map fun (n, v) => match v with
    | .text s => n ++ " = " ++ Text.quote s
    | v => n ++ " = " ++ v.display

/-- What the loop did: its exit status, what it showed, the lines it remembered, how many times
it asked for a line, and the session after it. -/
structure ReplRun where
  code : Nat
  events : List Event
  remembered : List String
  prompts : Nat
  session : Session

def ReplRun.stop (code : Nat) (events : List Event) (s : Session) : ReplRun :=
  ⟨code, events, [], 1, s⟩

def ReplRun.after (events : List Event) (remembered : List String) (rest : ReplRun) : ReplRun :=
  { rest with events := events ++ rest.events, remembered := remembered ++ rest.remembered,
              prompts := rest.prompts + 1 }

structure ReplStep where
  stop : Option Nat
  events : List Event
  remembered : List String
  session : Session

/-- One answer of the reader, taken in a session. -/
def replStep (s : Session) : Read → ReplStep
  | .eof => ⟨some 0, [.printed ""], [], s⟩
  | .failed => ⟨some 70, [], [], s⟩
  | .aborted => ⟨none, [], [], s⟩
  | .line l =>
    match Text.trimSpace l with
    | "" => ⟨none, [], [], s⟩
    | ":quit" => ⟨some 0, [], [], s⟩
    | ":env" => ⟨none, s.env.listing.map .printed, [], s⟩
    | _ =>
      let (_, events, s') := s.runSource l
      ⟨none, events, [l], s'.reset⟩

/-- The loop over a reader's answers; once they run out the reader answers `eof`. -/
def repl : List Read → Session → ReplRun
  | [], s => .stop 0 [.printed ""] s
  | r :: rs, s =>
    let step := replStep s r
    match step.stop with
    | some code => ⟨code, step.events, [], 1, step.session⟩
    | none => (repl rs step.session).after step.events step.remembered

end MiniLox
