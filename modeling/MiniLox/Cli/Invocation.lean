/-!
# Invocations

The command line takes at most one script path and the flags `--config FILE`, `-v`/`--verbose`,
`--tokens`, `--ast` and `-h`/`--help`. Flags and arguments may be mixed; `--` ends the flags.
A boolean flag may be given a value (`--verbose=false`); `--config` takes the next argument when
it has no `=value`. Short flags may be grouped (`-vh`).

Reading the arguments either asks for help, refuses them (an unknown flag, a malformed value, a
missing value, or more than one argument: a usage error), or gives the options and the script.
Help wins over too many arguments, but not over a malformed flag.
-/

set_option autoImplicit false

namespace MiniLox.Cli

/-- The options set by flags. -/
structure Options where
  config : String := ""
  verbose : Bool := false
  tokens : Bool := false
  ast : Bool := false
  help : Bool := false
deriving DecidableEq, Repr

/-- What the arguments ask for. -/
inductive Invocation where
  | help
  | usageError
  | run (opts : Options) (script : Option String)
deriving DecidableEq, Repr

def readBool (s : String) : Option Bool :=
  if ["1", "t", "T", "TRUE", "true", "True"].contains s then some true
  else if ["0", "f", "F", "FALSE", "false", "False"].contains s then some false
  else none

def Options.setFlag (o : Options) (name : String) (b : Bool) : Option Options :=
  if name = "verbose" then some { o with verbose := b }
  else if name = "tokens" then some { o with tokens := b }
  else if name = "ast" then some { o with ast := b }
  else if name = "help" then some { o with help := b }
  else none

def shortName : Char → Option String
  | 'v' => some "verbose"
  | 'h' => some "help"
  | _ => none

def readShorts (o : Options) : List Char → Option Options
  | [] => some o
  | c :: rest => do
    let name ← shortName c
    match rest with
    | '=' :: v@(_ :: _) => do o.setFlag name (← readBool (String.ofList v))
    | _ => readShorts (← o.setFlag name true) rest

/-- Reads the arguments: the options and the arguments that are not flags, or `none` for an
argument that cannot be read. -/
def readArgs : List String → Options → List String → Option (Options × List String)
  | [], o, args => some (o, args)
  | s :: rest, o, args =>
    match s.toList with
    | '-' :: '-' :: [] => some (o, args ++ rest)
    | '-' :: '-' :: name =>
      match name with
      | '-' :: _ | '=' :: _ => none
      | _ =>
        let key := String.ofList (name.takeWhile (· ≠ '='))
        let value : Option String :=
          if name.contains '=' then some (String.ofList ((name.dropWhile (· ≠ '=')).drop 1)) else none
        if key = "config" then
          match value with
          | some v => readArgs rest { o with config := v } args
          | none =>
            match _h : rest with
            | v :: rest' => readArgs rest' { o with config := v } args
            | [] => none
        else do
          let b ← readBool (value.getD "true")
          readArgs rest (← o.setFlag key b) args
    | '-' :: shorts@(_ :: _) =>
      if (String.ofList shorts).startsWith "test." then readArgs rest o args
      else do readArgs rest (← readShorts o shorts) args
    | _ => readArgs rest o (args ++ [s])
termination_by xs _ _ => xs.length
decreasing_by all_goals (subst_vars; simp only [List.length_cons]; omega)

/-- What the arguments ask for. -/
def Invocation.ofArgs (argv : List String) : Invocation :=
  match readArgs argv {} [] with
  | none => .usageError
  | some (o, args) =>
    if o.help then .help
    else match args with
      | [] => .run o none
      | [script] => .run o (some script)
      | _ => .usageError

def usageLine : String := "Usage: rulox [script]"

def helpText : String :=
  "rulox evaluates programs written in a small dynamically typed scripting\n" ++
  "language. With a script argument the file is executed once; without one an\n" ++
  "interactive session starts where variables persist from line to line.\n\n" ++
  "Exit status: 65 after a syntax error, 70 after a runtime error, 64 on usage errors.\n\n" ++
  "Usage:\n  rulox [script] [flags]\n\n" ++
  "Flags:\n" ++
  "      --ast             print parsed statements to stderr\n" ++
  "      --config string   config file (default: $RULOX_CONFIG or ./rulox.toml)\n" ++
  "  -h, --help            help for rulox\n" ++
  "      --tokens          print scanned tokens to stderr\n" ++
  "  -v, --verbose         verbose output\n"

end MiniLox.Cli
