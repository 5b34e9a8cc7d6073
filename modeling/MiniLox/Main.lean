import MiniLox.Cli.Execute

/-!
# The program

`main` runs the command line on the system: files and environment variables of the process,
standard input for the interactive loop, and the process's output and error output.
-/

set_option autoImplicit false

open MiniLox.Cli

def problemOf : IO.Error → FileProblem
  | .noFileOrDirectory .. => .missing
  | .permissionDenied .. => .denied
  | .inappropriateType _ 21 _ | .otherError 21 _ => .isDirectory
  | .inappropriateType .. => .notDirectory
  | _ => .missing

abbrev System := StateT (List String) IO

instance : Host System where
  getEnv name := IO.getEnv name
  pathExists p := do
    try
      let _ ← IO.FS.Handle.mk p .read
      pure true
    catch e =>
      match e with
      | .noFileOrDirectory .. => pure false
      | _ => pure true
  readFile p := do
    try
      pure (.ok (← IO.FS.readFile p))
    catch e =>
      let problem := problemOf e
      pure (.error ⟨if problem = .isDirectory then "read" else "open", p, problem⟩)
  writeFile p content := do
    try
      IO.FS.writeFile p content
      pure (.ok ())
    catch e =>
      pure (.error ⟨"open", p, problemOf e⟩)
  readLine := do
    match ← get with
    | part :: rest => set rest; pure (some part)
    | [] =>
      let line ← (← IO.getStdin).getLine
      if line.isEmpty then pure none
      else match readerLines line with
        | part :: rest => set rest; pure (some part)
        | [] => pure (some "")
  emit c text := do
    match c with
    | .err =>
      let h ← IO.getStderr
      h.putStr text
      h.flush
    | _ =>
      let h ← IO.getStdout
      h.putStr text
      h.flush

/-- Runs the command line and exits with its status. -/
def main (args : List String) : IO UInt32 := do
  let code ← (execute (m := System) args (Nat.pow 2 62)).run' []
  pure code.toUInt32
