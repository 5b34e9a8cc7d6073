import MiniLox.Cli.Host
import MiniLox.Path

/-!
# A workspace held in memory

A host made of values: files and directories by relative path, environment variables, the lines
of standard input, and the text written to each channel. A directory exists where one is listed
or where a listed path lies under it; the working directory `.` always exists. A path is
followed part by part as a system follows it, so `a/../f` needs a directory `a`, and `f/.` is
refused when `f` is a file. An absolute path names nothing that can be read; a file can be
created under `/tmp`.

Running the command line in the state monad over a workspace runs it without a system.
-/

set_option autoImplicit false

namespace MiniLox.Cli

/-- Files (`some` content) and directories (`none`) by path, environment variables, the lines
of standard input not yet read, and what was written to each channel. -/
structure Workspace where
  entries : List (String × Option String) := []
  env : List (String × String) := []
  input : List String := []
  out : String := ""
  err : String := ""
  terminal : String := ""

/-- What stands at a path. -/
inductive Entry where
  | file (path : String) (content : String)
  | directory (path : List String)
  | nothing
  | blocked

namespace Workspace

def cleaned (w : Workspace) : List (String × Option String) :=
  w.entries.map fun (p, e) => (Path.clean p, e)

def entryAt (w : Workspace) (parts : List String) : Entry :=
  let c := "/".intercalate parts
  match w.cleaned.find? (·.1 = c) with
  | some (_, some content) => .file c content
  | some (_, none) => .directory parts
  | none => if parts.isEmpty || w.cleaned.any (·.1.startsWith (c ++ "/")) then .directory parts else .nothing

def walk (w : Workspace) : List String → List String → Entry
  | dir, [] => .directory dir
  | dir, part :: rest =>
    if part = "" ∨ part = "." then walk w dir rest
    else if part = ".." then
      if dir.isEmpty then .nothing else walk w dir.dropLast rest
    else match w.entryAt (dir ++ [part]) with
      | .directory d => walk w d rest
      | .file c content => if rest.isEmpty then .file c content else .blocked
      | e => e

/-- What stands at a path. An absolute path and the empty path name nothing. -/
def lookup (w : Workspace) (p : String) : Entry :=
  if p.isEmpty || p.startsWith "/" then .nothing else w.walk [] (p.splitOn "/")

def put (w : Workspace) (c : String) (content : String) : Workspace :=
  if w.cleaned.any (·.1 = c) then
    { w with entries := w.entries.map fun (q, e) => if Path.clean q = c then (q, some content) else (q, e) }
  else { w with entries := w.entries ++ [(c, some content)] }

def read (w : Workspace) (p : String) : Except FileError String :=
  match w.lookup p with
  | .file _ content => .ok content
  | .directory _ => .error ⟨"read", p, .isDirectory⟩
  | .nothing => .error ⟨"open", p, .missing⟩
  | .blocked => .error ⟨"open", p, .notDirectory⟩

/-- Creates or empties a file and writes into it; the directory its last part names it in must
exist. -/
def write (w : Workspace) (p : String) (content : String) : Except FileError Workspace :=
  if p.startsWith "/" then
    let c := Path.clean p
    if (c.splitOn "/").length = 3 ∧ c.startsWith "/tmp/" then .ok w else .error ⟨"open", p, .missing⟩
  else
    match w.lookup p with
    | .file c _ => .ok (w.put c content)
    | .directory _ => .error ⟨"open", p, .isDirectory⟩
    | .blocked => .error ⟨"open", p, .notDirectory⟩
    | .nothing =>
      let parts := p.splitOn "/"
      let name := parts.getLastD ""
      if p.isEmpty || name = "" || name = "." || name = ".." then .error ⟨"open", p, .missing⟩
      else match w.walk [] parts.dropLast with
        | .directory d => .ok (w.put ("/".intercalate (d ++ [name])) content)
        | .blocked | .file _ _ => .error ⟨"open", p, .notDirectory⟩
        | .nothing => .error ⟨"open", p, .missing⟩

end Workspace

instance : Host (StateM Workspace) where
  getEnv name := do pure (((← get).env.find? (·.1 = name)).map (·.2))
  pathExists p := do
    pure (match (← get).lookup p with
      | .file _ _ | .directory _ => true
      | _ => false)
  readFile p := do pure ((← get).read p)
  writeFile p content := do
    match (← get).write p content with
    | .ok w => set w; pure (.ok ())
    | .error e => pure (.error e)
  readLine := do
    let w ← get
    match w.input with
    | line :: rest => set { w with input := rest }; pure (some line)
    | [] => pure none
  emit c text := modify fun w => match c with
    | .out => { w with out := w.out ++ text }
    | .err => { w with err := w.err ++ text }
    | .terminal => { w with terminal := w.terminal ++ text }

end MiniLox.Cli
