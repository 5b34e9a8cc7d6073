import MiniLox.Cli.Invocation
import MiniLox.Cli.Host
import MiniLox.Config
import MiniLox.Repl
import MiniLox.Syntax.Print
import MiniLox.Text.Width
import MiniLox.Text.Other

/-!
# The command line

`execute` runs the command line on a host. After the arguments, it finds the settings: the
file named by `--config`, else by `RULOX_CONFIG`, else the first of `./rulox.toml`,
`./rulox.yaml` and `~/.config/rulox/config.toml` that exists, else the defaults. With a script
it runs the script once; without one it runs the interactive loop, reading the history file
first and writing it back at the end.

Exit statuses: 64 for a usage error, 78 for settings that cannot be had, 66 for a script that
cannot be read, else the session's (65 after a static error, 70 after a runtime error).

Print output goes to the output; diagnostics, token and tree listings and log lines to the
error output; prompts and help to the terminal. Unless the colour mode is `never`, a diagnostic
of several lines has its shorter lines padded to the widest.
-/

set_option autoImplicit false

namespace MiniLox.Cli

/-- How the command line shows a session's events. -/
structure Display where
  threshold : Level
  tokens : Bool
  ast : Bool
  styled : Bool

def styleBlock (s : String) : String :=
  let lines := (s.replace "\r\n" "\n").splitOn "\n"
  if lines.length ≤ 1 then "\n".intercalate lines
  else
    let widest := lines.foldl (fun w l => max w (Text.width l)) 0
    "\n".intercalate (lines.map fun l => l ++ String.ofList (List.replicate (widest - Text.width l) ' '))

def Display.route (d : Display) : Event → Option (Channel × String)
  | .printed line => some (.out, line ++ "\n")
  | .reported diag => some (.err, (if d.styled then styleBlock diag.text else diag.text) ++ "\n")
  | .tokenListed t => if d.tokens then some (.err, t.listing ++ "\n") else none
  | .stmtListed s => if d.ast then some (.err, s.show ++ "\n") else none
  | .logged r => if d.threshold.admits r.level then some (.err, r.render ++ "\n") else none

def remember (history : List String) (line : String) : List String :=
  if history.getLast? = some line then history
  else
    let h := history ++ [line]
    if h.length > 1000 then h.drop 1 else h

def historyOf (text : String) : List String :=
  (historyLines text).foldl (fun h l => let h := h ++ [l]; if h.length > 1000 then h.drop 1 else h) []

variable {m : Type → Type} [Monad m] [Host m]

def showEvents (d : Display) (events : List Event) : m Unit :=
  events.forM fun e => match d.route e with
    | some (c, text) => Host.emit c text
    | none => pure ()

def homeDir : m (Option String) := do
  match ← Host.getEnv "HOME" with
  | some h => pure (if h.isEmpty then none else some h)
  | none => pure none

def loadConfig (path : String) : m (Except ConfigFault Config) := do
  let path ← Path.expand Host.getEnv path
  match ← Host.readFile path with
  | .error e => pure (.error (.unreadable path e.text))
  | .ok data =>
    match Config.parse (← homeDir) data (ConfigFormat.detect path) with
    | .ok c => pure (.ok { c with path := path })
    | .error f => pure (.error (.inFile path f))

/-- Finds the settings: the given file, else `RULOX_CONFIG`, else the first default file that
exists, else the defaults. -/
def resolveConfig (explicit : String) : m (Except ConfigFault Config) := do
  if !explicit.isEmpty then return ← loadConfig explicit
  if let some p ← Host.getEnv "RULOX_CONFIG" then
    if !p.isEmpty then return ← loadConfig p
  let home ← homeDir
  let defaults := ["./rulox.toml", "./rulox.yaml"] ++
    (match home with
      | some h => [Path.join [h, ".config", "rulox", "config.toml"]]
      | none => [])
  for p in defaults do
    if ← Host.pathExists p then return ← loadConfig p
  return .ok (Config.byDefault home)

def runScript (d : Display) (path : String) : m Nat := do
  match ← Host.readFile path with
  | .error e =>
    Host.emit .err ("Error: read script " ++ path ++ ": " ++ e.text ++ "\n")
    pure 66
  | .ok source =>
    showEvents d [.logged ⟨Level.info, "running script", [("path", .text path)]⟩]
    let (code, events, _) := ({} : Session).runSource source
    showEvents d events
    pure code

/-- The interactive loop: prompts, reads a line, takes it; ends with the loop's status and the
history. A prompt that holds a control or format character ends the loop with status 70
before anything is shown. -/
def promptLoop (d : Display) (prompt : String) : Nat → Session → List String → m (Nat × List String)
  | 0, _, history => pure (0, history)
  | fuel + 1, s, history => do
    if prompt.toList.any Text.isOther then return (70, history)
    Host.emit .terminal prompt
    let read := match ← Host.readLine with
      | some line => Read.line line
      | none => Read.eof
    let step := replStep s read
    showEvents d step.events
    let history := step.remembered.foldl remember history
    match step.stop with
    | some code => pure (code, history)
    | none => promptLoop d prompt fuel step.session history

def runPrompt (d : Display) (cfg : Config) (fuel : Nat) : m Nat := do
  let history ← if cfg.historyFile.isEmpty then pure [] else do
    match ← Host.readFile cfg.historyFile with
    | .ok text => pure (historyOf text)
    | .error _ => pure []
  let (code, history) ← promptLoop d cfg.prompt fuel {} history
  if !cfg.historyFile.isEmpty then
    match ← Host.writeFile cfg.historyFile (String.join (history.map (· ++ "\n"))) with
    | .error e =>
      showEvents d [.logged ⟨Level.warn, "cannot save history",
        [("path", .text cfg.historyFile), ("error", .text e.text)]⟩]
    | .ok _ => pure ()
  pure code

/-- Runs the command line on its arguments; `fuel` bounds the prompts of the interactive loop.
Returns the exit status. -/
def execute (argv : List String) (fuel : Nat) : m Nat := do
  match Invocation.ofArgs argv with
  | .usageError =>
    Host.emit .err (usageLine ++ "\n")
    pure 64
  | .help =>
    Host.emit .terminal helpText
    pure 0
  | .run opts script =>
    match ← resolveConfig opts.config with
    | .error f =>
      Host.emit .err ("Error: " ++ f.message ++ "\n")
      pure 78
    | .ok cfg =>
      let d : Display := {
        threshold := if opts.verbose then Level.debug else cfg.level
        tokens := opts.tokens || cfg.dumpTokens
        ast := opts.ast || cfg.dumpAst
        styled := cfg.color ≠ "never" }
      if !cfg.path.isEmpty then
        showEvents d [.logged ⟨Level.debug, "loaded config", [("path", .text cfg.path)]⟩]
      match script with
      | some path => runScript d path
      | none => runPrompt d cfg fuel

end MiniLox.Cli
