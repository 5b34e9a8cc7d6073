import MiniLox.Text.Utf8
/-!
# What the command line needs from its host

The command line reads environment variables, files and lines of standard input, creates the
history file, and writes to three places: the program's output, its error output, and the
terminal (prompts and help). `Host` gathers these operations, so the command line is one
definition for every host: the system, or files and input given as values.
-/

set_option autoImplicit false

namespace MiniLox.Cli

inductive FileProblem where
  | missing
  | isDirectory
  | notDirectory
  | denied
deriving DecidableEq, Repr

/-- A failed file operation: the operation (`open` or `read`), the path and why. -/
structure FileError where
  op : String
  path : String
  problem : FileProblem
deriving DecidableEq, Repr

def FileError.text (e : FileError) : String :=
  let why := match e.problem with
    | .missing => "no such file or directory"
    | .isDirectory => "is a directory"
    | .notDirectory => "not a directory"
    | .denied => "permission denied"
  e.op ++ " " ++ e.path ++ ": " ++ why

def lineBuffer : Nat := 4096

/-- One read of a line from bytes: the line without its line feed (nor a carriage return before
it) and whether the buffer filled before the line ended, with the bytes after it. A line that
fills the buffer comes as the buffer's bytes, less a carriage return at their end, which is left
to the next read. -/
def readPiece (bs : List Nat) : (List Nat × Bool) × List Nat :=
  match bs.findIdx? (· = 10) with
  | some i =>
    if i < lineBuffer then
      let line := bs.take i
      ((if line.getLast? = some 13 then line.dropLast else line, false), bs.drop (i + 1))
    else cut
  | none => if bs.length < lineBuffer then ((bs, false), []) else cut
where
  cut : (List Nat × Bool) × List Nat :=
    let k := if bs[lineBuffer - 1]? = some 13 then lineBuffer - 1 else lineBuffer
    ((bs.take k, true), bs.drop k)

theorem readPiece_shorter (b : Nat) (bs : List Nat) : (readPiece (b :: bs)).2.length < bs.length + 1 := by
  unfold readPiece readPiece.cut lineBuffer
  split <;> (try split) <;> (try split) <;>
    simp only [List.length_drop, List.length_cons, List.length_nil] <;> omega

def readPieces : List Nat → List (List Nat × Bool)
  | [] => []
  | b :: bs => (readPiece (b :: bs)).1 :: readPieces (readPiece (b :: bs)).2
termination_by bs => bs.length
decreasing_by exact readPiece_shorter b bs

/-- The lines of a text as a line reader returns them: split at line feeds, each losing a
carriage return before its line feed, a last line without a line feed counting too, and a line
of 4096 bytes or more coming in parts of 4096 bytes. A part that cuts a character shows its
bytes as replacement characters. -/
def readerLines (s : String) : List String :=
  (readPieces (Text.textBytes s)).map fun p => Text.bytesText p.1

/-- The lines of a history file as they are loaded: the lines before the first one that does not
fit the reader's buffer. -/
def historyLines (s : String) : List String :=
  ((readPieces (Text.textBytes s)).takeWhile fun p => !p.2).map fun p => Text.bytesText p.1

inductive Channel where
  | out
  | err
  | terminal
deriving DecidableEq, Repr

/-- The operations of a host. -/
class Host (m : Type → Type) where
  getEnv : String → m (Option String)
  pathExists : String → m Bool
  readFile : String → m (Except FileError String)
  writeFile : String → String → m (Except FileError Unit)
  readLine : m (Option String)
  emit : Channel → String → m Unit

end MiniLox.Cli
