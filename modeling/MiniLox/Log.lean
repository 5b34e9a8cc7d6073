import MiniLox.Text.Quoted
import MiniLox.Text.Space

/-!
# Log records

A record has a level, a message and named attributes, and is written on one line as
`level=INFO msg="running script" path=s.lox`. Levels are integers: debug is -4, info 0, warn 4,
error 8, and a level between two of them is written as the lower one with an offset, such as
`WARN+1` or `DEBUG-4`. Texts that hold a blank, `=`, `"`, a control character or a character
that is not printable are quoted.
-/

set_option autoImplicit false

namespace MiniLox

/-- A severity of a log record; arithmetic on it wraps at 64 bits. -/
structure Level where
  value : Int64
deriving DecidableEq, Repr

namespace Level

def debug : Level := ⟨-4⟩
def info : Level := ⟨0⟩
def warn : Level := ⟨4⟩
def error : Level := ⟨8⟩

def withOffset (base : String) (d : Int64) : String :=
  if d = 0 then base else base ++ (if d > 0 then "+" else "") ++ toString d.toInt

def name (l : Level) : String :=
  if l.value < info.value then withOffset "DEBUG" (l.value - debug.value)
  else if l.value < warn.value then withOffset "INFO" (l.value - info.value)
  else if l.value < error.value then withOffset "WARN" (l.value - warn.value)
  else withOffset "ERROR" (l.value - error.value)

def admits (threshold l : Level) : Bool := threshold.value ≤ l.value

def readOffset (cs : List Char) : Except String Int :=
  let quoted := Text.quote (String.ofList cs)
  let syntaxFault : Except String Int := .error ("strconv.Atoi: parsing " ++ quoted ++ ": invalid syntax")
  let rangeFault : Except String Int := .error ("strconv.Atoi: parsing " ++ quoted ++ ": value out of range")
  let (neg, digits) := match cs with
    | '-' :: r => (true, r)
    | '+' :: r => (false, r)
    | r => (false, r)
  let signed (n : Nat) : Int := if neg then -(n : Int) else n
  if (String.ofList cs).utf8ByteSize < 19 then
    if digits.isEmpty || !digits.all Char.isDigit then syntaxFault
    else .ok (signed (digits.foldl (fun n d => 10 * n + (d.toNat - '0'.toNat)) 0))
  else
    let step (acc : Except Bool Nat) (d : Char) : Except Bool Nat := do
      let n ← acc
      if !d.isDigit then throw false
      if n ≥ 1844674407370955162 then throw true
      let n := 10 * n + (d.toNat - '0'.toNat)
      if n ≥ Nat.pow 2 64 then throw true
      pure n
    match digits.foldl step (.ok 0) with
    | .error true => rangeFault
    | .error false => syntaxFault
    | .ok n => if (!neg && n ≥ Nat.pow 2 63) || (neg && n > Nat.pow 2 63) then rangeFault else .ok (signed n)

def upperName (c : Char) : Char :=
  if 'a' ≤ c ∧ c ≤ 'z' then Char.ofNat (c.toNat - 32)
  else if c.toNat = 0x131 then 'I' else if c.toNat = 0x17F then 'S' else c

/-- Reads a level: a name (`debug`, `info`, `warn` or `error`, in any case) with an optional
signed offset, as `warn+1` or `INFO-2`. The offset is read first, so a bad offset is reported
even after a bad name. -/
def parse (s : String) : Except String Level :=
  let cs := s.toList
  let cut := cs.findIdx fun c => c = '+' ∨ c = '-'
  let name := String.ofList ((cs.take cut).map upperName)
  let fault (why : String) : String := "slog: level string " ++ Text.quote s ++ ": " ++ why
  match (if cut < cs.length then readOffset (cs.drop cut) else .ok 0) with
  | .error why => .error (fault why)
  | .ok offset =>
    let base := if name = "DEBUG" then some debug else if name = "INFO" then some info
      else if name = "WARN" then some warn else if name = "ERROR" then some error else none
    match base with
    | some b => .ok ⟨b.value + Int64.ofInt offset⟩
    | none => .error (fault "unknown name")

end Level

inductive LogValue where
  | int (n : Int)
  | bool (b : Bool)
  | text (s : String)
deriving DecidableEq, Repr

/-- A log record. -/
structure LogRecord where
  level : Level
  message : String
  attrs : List (String × LogValue)
deriving DecidableEq, Repr

def needsQuotes (s : String) : Bool :=
  s.isEmpty || s.toList.any fun c =>
    if c.toNat < 0x80 then c = ' ' || c = '=' || c = '"' || c.toNat < 0x20
    else Text.isSpace c || !Text.isPrintable c

def logText (s : String) : String := if needsQuotes s then Text.quote s else s

def LogValue.render : LogValue → String
  | .int n => toString n
  | .bool b => if b then "true" else "false"
  | .text s => logText s

/-- The line of a record. -/
def LogRecord.render (r : LogRecord) : String :=
  "level=" ++ r.level.name ++ " msg=" ++ logText r.message ++
    String.join (r.attrs.map fun (k, v) => " " ++ logText k ++ "=" ++ v.render)

end MiniLox
