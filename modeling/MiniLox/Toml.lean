import MiniLox.Text.Quoted
import MiniLox.Text.Letter
import MiniLox.Decimal.Reading

/-!
# Reading TOML

`Toml.read` reads a TOML document into nested tables, and keeps the keys in the order they were
defined and, for each key, the line of its value. It refuses what TOML refuses: control
characters, keys and tables defined twice, malformed keys, strings, numbers and dates. A refusal
names its line and the key read last: `toml: line 2 (last key "prompt"): Key 'prompt' has already
been defined.`.

The reader is one pass over the characters. Every loop takes fuel bounded by what is left to
read, and a refusal is thrown at the first character that decides it.
-/

set_option autoImplicit false

namespace MiniLox.Toml

/-- A TOML value. -/
inductive Value where
  | string (s : String)
  | integer (n : Int)
  | float (x : Float)
  | boolean (b : Bool)
  | datetime (text : String)
  | array (items : List Value)
  | table (entries : List (String × Value))
  | tables (items : List (List (String × Value)))

def Value.typeName : Value → String
  | .string _ => "string"
  | .integer _ => "int64"
  | .float _ => "float64"
  | .boolean _ => "bool"
  | .datetime _ => "time.Time"
  | .array _ => "[]any"
  | .table _ => "map[string]any"
  | .tables _ => "[]map[string]any"

abbrev Table := List (String × Value)

/-- A refusal: its line, the key read last (empty at the top) and the message. -/
structure Error where
  line : Nat
  lastKey : String
  message : String
deriving Repr

/-- `toml: line N (last key "k"): message`, without the key part at the top. -/
def Error.text (e : Error) : String :=
  if e.lastKey.isEmpty then "toml: line " ++ toString e.line ++ ": " ++ e.message
  else "toml: line " ++ toString e.line ++ " (last key " ++ Text.quote e.lastKey ++ "): " ++ e.message

def isBareKeyChar (c : Char) : Bool :=
  ('a' ≤ c && c ≤ 'z') || ('A' ≤ c && c ≤ 'Z') || ('0' ≤ c && c ≤ '9') || c == '_' || c == '-'

def isHexDigit (c : Char) : Bool := c.isDigit || ('a' ≤ c && c ≤ 'f') || ('A' ≤ c && c ≤ 'F')

def hex2 (n : Nat) : String := String.ofList (Text.hexDigits 2 n)

def keyPart (k : String) : String :=
  if k.isEmpty then "\"\""
  else if k.all isBareKeyChar then k
  else "\"" ++ String.join (k.toList.map fun c =>
    match c with
    | '"' => "\\\"" | '\\' => "\\\\"
    | '\x08' => "\\b" | '\t' => "\\t" | '\n' => "\\n" | '\x0c' => "\\f" | '\r' => "\\r"
    | c => if c.toNat < 0x20 ∨ c.toNat = 0x7F then "\\u00" ++ hex2 c.toNat else String.singleton c)
    ++ "\""

def keyText (ks : List String) : String := ".".intercalate (ks.map keyPart)

def isControl (c : Char) : Bool :=
  c != '\t' && c != '\n' && c != '\r' && (c.toNat < 0x20 || c.toNat == 0x7F)

structure KeyInfo where
  array : Bool
  line : Nat

/-- The reader's state: what is left to read, the line, the last character taken, and the
document built so far with the table and key being read. -/
structure St where
  rest : List Char
  line : Nat := 1
  prev : Option Char := none
  root : Table := []
  implicit : List (List String) := []
  ordered : List (List String) := []
  info : List (String × KeyInfo) := []
  context : List String := []
  currentKey : String := ""
  keyLine : Nat := 1

abbrev Reader := StateT St (Except Error)

def St.lastKey (s : St) : String :=
  if s.currentKey.isEmpty then keyText s.context
  else if s.context.isEmpty then s.currentKey
  else keyText s.context ++ "." ++ s.currentKey

def failAt {α : Type} (line : Nat) (msg : String) : Reader α := do
  let s ← get
  throw ⟨line, s.lastKey, msg⟩

def failHere {α : Type} (msg : String) : Reader α := do failAt (← get).line msg

def failPrevLine {α : Type} (msg : String) : Reader α := do failAt ((← get).line - 1) msg

def failAtEnd {α : Type} (msg : String) : Reader α := do
  let s ← get
  failAt (if s.prev = some '\n' then s.line - 1 else s.line) msg

def peekAhead (k : Nat) : Reader (Option Char) := do
  match (← get).rest.drop k with
  | [] => pure none
  | c :: r =>
    if isControl c || (c == '\r' && r.head? != some '\n') then
      failHere ("TOML files cannot contain control characters: '0x" ++ hex2 c.toNat ++ "'")
    else pure (some c)

def peek : Reader (Option Char) := peekAhead 0

def advance : Reader Unit :=
  modify fun s => match s.rest with
    | [] => s
    | c :: r => { s with rest := r, line := if c = '\n' then s.line + 1 else s.line, prev := some c }

def advanceBy : Nat → Reader Unit
  | 0 => pure ()
  | n + 1 => do advance; advanceBy n

def next : Reader (Option Char) := do
  let c ← peek
  if c.isSome then advance
  pure c

def budget : Reader Nat := do pure ((← get).rest.length + 1)

def skipBlanks : Nat → Reader Unit
  | 0 => pure ()
  | fuel + 1 => do
    match ← peek with
    | some ' ' | some '\t' => advance; skipBlanks fuel
    | _ => pure ()

def skipComment : Nat → Reader Unit
  | 0 => pure ()
  | fuel + 1 => do
    match ← peek with
    | some '\n' | some '\r' | none => pure ()
    | some _ => advance; skipComment fuel

/-! ## Strings -/

def readSince (start : List Char) : Reader String := do
  pure (String.ofList (start.take (start.length - (← get).rest.length)))

def hexEscapeFault {α : Type} (start : List Char) (kind : Char) : Reader α := do
  failHere ("expected " ++ (if kind = 'u' then "four" else "eight") ++
    " hexadecimal digits after '\\" ++ String.singleton kind ++ "', but got " ++
    Text.quote (← readSince start) ++ " instead")

def readHexEscape (start : List Char) (kind : Char) : Nat → List Char → Reader (List Char)
  | 0, acc => pure acc
  | k + 1, acc => do
    match ← next with
    | some d => if isHexDigit d then readHexEscape start kind k (acc ++ [d]) else hexEscapeFault start kind
    | none => hexEscapeFault start kind

def readEscape (start : List Char) : Reader (List Char) := do
  match ← next with
  | none => failPrevLine ("invalid escape in string '\\" ++ String.singleton (Char.ofNat 0) ++ "'")
  | some c =>
    if c = 'b' ∨ c = 't' ∨ c = 'n' ∨ c = 'f' ∨ c = 'r' ∨ c = '"' ∨ c = ' ' ∨ c = '\t' ∨ c = '\\' then
      pure [c]
    else if c = 'u' then pure (c :: (← readHexEscape start c 4 []))
    else if c = 'U' then pure (c :: (← readHexEscape start c 8 []))
    else failHere ("invalid escape in string '\\" ++ String.singleton c ++ "'")

def readBasicRaw (start : List Char) : Nat → List Char → Reader (List Char)
  | 0, acc => pure acc
  | fuel + 1, acc => do
    match ← next with
    | none => failAtEnd "unexpected EOF; expected '\"'"
    | some '\n' | some '\r' => failPrevLine "strings cannot contain newlines"
    | some '"' => pure acc
    | some '\\' => readBasicRaw start fuel (acc ++ '\\' :: (← readEscape start))
    | some c => readBasicRaw start fuel (acc ++ [c])

def readLiteralRaw : Nat → List Char → Reader (List Char)
  | 0, acc => pure acc
  | fuel + 1, acc => do
    match ← next with
    | none => failAtEnd "unexpected EOF; expected \"'\""
    | some '\n' | some '\r' => failPrevLine "strings cannot contain newlines"
    | some '\'' => pure acc
    | some c => readLiteralRaw fuel (acc ++ [c])

def tooManyQuotes (q : Char) (basic : Bool) (text : List Char) : Bool :=
  let back := text.reverse
  back.take 5 == List.replicate 5 q && !(basic && (back.drop 5).head? == some '\\')

def readMultiRaw (start : List Char) (q : Char) (basic : Bool) :
    Nat → List Char → Reader (List Char)
  | 0, acc => pure acc
  | fuel + 1, acc => do
    match ← next with
    | none =>
      failAtEnd (if basic then "unexpected EOF; expected '\"\"\"'" else "unexpected EOF; expected \"'''\"")
    | some c =>
      if basic ∧ c = '\\' then
        match ← peek with
        | some '\n' | some '\r' => advance; readMultiRaw start q basic fuel (acc ++ ['\\', '\n'])
        | _ => readMultiRaw start q basic fuel (acc ++ '\\' :: (← readEscape start))
      else if c = q then
        let closing ← if (← peekAhead 0) == some q then do pure ((← peekAhead 1) == some q)
          else pure false
        if !closing then readMultiRaw start q basic fuel (acc ++ [c])
        else if (← peekAhead 2) = some q then
          if tooManyQuotes q basic ((← readSince start).toList ++ [q, q]) then
            failHere (if basic then "unexpected '\"\"\"\"\"\"'" else "unexpected \"''''''\"")
          else readMultiRaw start q basic fuel (acc ++ [c])
        else do
          advanceBy 2
          pure acc
      else readMultiRaw start q basic fuel (acc ++ [c])

def dropFirstNewline : List Char → List Char
  | '\n' :: r => r
  | '\r' :: '\n' :: r => r
  | r => r

def isStretchChar (c : Char) : Bool := c = ' ' ∨ c = '\t' ∨ c = '\r' ∨ c = '\n'

def dropLineEndEscapes : List Char → List Char
  | [] => []
  | '\\' :: '\\' :: r => '\\' :: '\\' :: dropLineEndEscapes r
  | '\\' :: r =>
    let gap := r.takeWhile isStretchChar
    if gap.contains '\n' then dropLineEndEscapes (r.drop gap.length)
    else '\\' :: dropLineEndEscapes r
  | c :: r => c :: dropLineEndEscapes r
termination_by cs => cs.length
decreasing_by all_goals simp only [List.length_cons, List.length_drop]; omega

def hexValue (ds : List Char) : Nat :=
  ds.foldl (fun n d =>
    16 * n + (if d.isDigit then d.toNat - '0'.toNat else d.toLower.toNat - 'a'.toNat + 10)) 0

/-- Decodes the escapes of a basic string. An escaped blank, or an escaped code point that is no
character, is refused on the string's line. -/
def decodeEscapes (line : Nat) : Nat → List Char → Reader (List Char)
  | 0, _ => pure []
  | _, [] => pure []
  | fuel + 1, '\\' :: c :: r =>
    if c = ' ' ∨ c = '\t' then failAt line ("invalid escape: '\\" ++ String.singleton c ++ "'")
    else if c = 'u' ∨ c = 'U' then do
      let width := if c = 'u' then 4 else 8
      let ds := r.take width
      let n := hexValue ds
      if n ≥ 0x110000 ∨ (0xD800 ≤ n ∧ n ≤ 0xDFFF) then
        failAt line ("Escaped character '\\u" ++ String.ofList ds ++ "' is not valid UTF-8.")
      else pure (Char.ofNat n :: (← decodeEscapes line fuel (r.drop width)))
    else
      let d := match c with
        | 'b' => '\x08' | 't' => '\t' | 'n' => '\n' | 'f' => '\x0c' | 'r' => '\r'
        | c => c
      do pure (d :: (← decodeEscapes line fuel r))
  | fuel + 1, c :: r => do pure (c :: (← decodeEscapes line fuel r))

def basicString (line : Nat) (raw : List Char) : Reader String := do
  pure (String.ofList (← decodeEscapes line (raw.length + 1) raw))

/-! ## Keys -/

def readBare : Nat → List Char → Reader String
  | 0, acc => pure (String.ofList acc)
  | fuel + 1, acc => do
    match ← peek with
    | some c =>
      if isBareKeyChar c then do advance; readBare fuel (acc ++ [c]) else pure (String.ofList acc)
    | none => pure (String.ofList acc)

def readKeyPart : Reader String := do
  match ← peek with
  | some '"' => do
    advance
    let raw ← readBasicRaw (← get).rest (← budget) []
    basicString (← get).line raw
  | some '\'' => do
    advance
    pure (String.ofList (← readLiteralRaw (← budget) []))
  | _ => readBare (← budget) []

def readKeyRest : Nat → List String → Reader (List String)
  | 0, parts => pure parts
  | fuel + 1, parts => do
    skipBlanks (← budget)
    match ← next with
    | none => failAtEnd "unexpected EOF; expected key separator '='"
    | some '.' => do
      skipBlanks (← budget)
      match ← peek with
      | some '=' | none => failHere "unexpected '='"
      | some '.' => failHere "unexpected '.'"
      | _ => readKeyRest fuel (parts ++ [← readKeyPart])
    | some '=' => pure parts
    | some '\n' => failPrevLine "expected '.' or '=', but got '\\n' instead"
    | some c => failHere ("expected '.' or '=', but got " ++ Text.quoteChar c ++ " instead")

def readKey : Reader (List String) := do
  skipBlanks (← budget)
  modify fun s => { s with keyLine := s.line }
  match ← peek with
  | some '=' | none => failHere "unexpected '=': key name appears blank"
  | some '.' => failHere "unexpected '.': keys cannot start with a '.'"
  | _ => readKeyRest (← budget) [← readKeyPart]

/-! ## Tables -/

def Table.get? (t : Table) (k : String) : Option Value := (t.find? (·.1 == k)).map (·.2)

def Table.set (t : Table) (k : String) (v : Value) : Table :=
  if t.any (·.1 == k) then t.map fun e => if e.1 == k then (k, v) else e else t ++ [(k, v)]

def Table.modifyAt (bad : List String → String) (f : Table → Except String Table) :
    List String → List String → Table → Except String Table
  | [], _, t => f t
  | k :: ks, seen, t =>
    match t.get? k with
    | some (.table sub) => do
      let sub ← Table.modifyAt bad f ks (seen ++ [k]) sub
      pure (t.set k (.table sub))
    | some (.tables subs) =>
      match subs.getLast? with
      | some last => do
        let last ← Table.modifyAt bad f ks (seen ++ [k]) last
        pure (t.set k (.tables (subs.dropLast ++ [last])))
      | none => .error (bad (seen ++ [k]))
    | _ => .error (bad (seen ++ [k]))

def Table.holds (t : Table) (path : List String) (k : String) : Bool :=
  (Table.modifyAt (fun _ => "") (fun t => if (t.get? k).isSome then .ok t else .error "") path [] t).toBool

def setInfo (key : String) (array : Bool) (line : Nat) : Reader Unit :=
  modify fun s =>
    let path := if key.isEmpty then s.context else s.context ++ [key]
    let path := if path.isEmpty then [""] else path
    { s with info := (keyText path, ⟨array, line⟩) :: s.info }

def St.isArray (s : St) (path : List String) : Bool :=
  ((s.info.find? (·.1 == keyText path)).map (·.2.array)).getD false

def definedTwice (p : List String) : String := "Key '" ++ keyText p ++ "' has already been defined."

/-- Sets a key in the current table. A key that holds a value already is refused, unless its
last value was an array, which is then replaced, or it holds a table made on the way to another
key, which then counts as defined. -/
def setValue (key : String) (v : Value) : Reader Unit := do
  let s ← get
  let full := s.context ++ [key]
  let result := Table.modifyAt definedTwice (fun t =>
    match t.get? key with
    | some _ =>
      if s.isArray full then .ok (t.set key v)
      else if s.implicit.contains full then .ok t
      else .error (definedTwice full)
    | none => .ok (t.set key v)) s.context [] s.root
  let existed := (Table.modifyAt definedTwice (fun t =>
    if (t.get? key).isSome then .ok t else .error "") s.context [] s.root).toBool
  match result with
  | .ok t =>
    set { s with root := t, implicit := if existed then s.implicit.filter (· != full) else s.implicit }
  | .error msg => failAt (← get).keyLine msg

def createdAsHash (p : List String) : String := "Key '" ++ keyText p ++ "' was already created as a hash."

def addParents (parents : List String) : Nat → Reader Unit
  | 0 => pure ()
  | i + 1 => do
    addParents parents i
    let s ← get
    let p := parents.take (i + 1)
    let last := p.getLastD ""
    let here := p.dropLast
    let created := Table.modifyAt createdAsHash (fun t => match t.get? last with
      | some (.table _) | some (.tables _) => .ok t
      | some _ => .error (createdAsHash p)
      | none => .ok (t.set last (.table []))) here [] s.root
    match created with
    | .ok t =>
      let fresh := !s.root.holds here last
      set { s with root := t, implicit := if fresh then p :: s.implicit else s.implicit }
    | .error msg => failAt (← get).keyLine msg

/-- Makes a table, or a new table of an array of tables, the current one. -/
def addContext (key : List String) (array : Bool) : Reader Unit := do
  let parents := key.dropLast
  let last := key.getLastD ""
  addParents parents parents.length
  modify fun s => { s with context := parents }
  if array then
    let s ← get
    let result := Table.modifyAt createdAsHash (fun t => match t.get? last with
      | none => .ok (t.set last (.tables [[]]))
      | some (.tables ts) => .ok (t.set last (.tables (ts ++ [[]])))
      | some _ => .error ("Key '" ++ keyText key ++ "' was already created and cannot be used as an array."))
      parents [] s.root
    match result with
    | .ok t => set { s with root := t }
    | .error msg => failAt (← get).keyLine msg
  else setValue last (.table [])
  modify fun s => { s with context := parents ++ [last] }

def addImplicitContext (key : List String) : Reader Unit := do
  modify fun s => { s with implicit := key :: s.implicit }
  addContext key false

def enterKey (key : List String) : Reader String := do
  let last := key.getLastD ""
  modify fun s => { s with currentKey := last }
  for part in key.dropLast do
    addImplicitContext ((← get).context ++ [part])
  modify fun s => { s with ordered := s.ordered ++ [s.context ++ [last]] }
  pure last

/-! ## Numbers and dates -/

inductive NumKind where
  | integer
  | float
  | datetime
deriving DecidableEq

inductive NumState where
  | digits | afterZero | datetime | decimal | float | hex | octal | binary
deriving DecidableEq

def NumState.step : NumState → Char → Option NumState
  | .digits, c =>
    if c.isDigit then some .digits else if c = '-' ∨ c = ':' then some .datetime
    else if c = '_' then some .decimal else if c = '.' ∨ c = 'e' ∨ c = 'E' then some .float else none
  | .afterZero, c =>
    if c.isDigit then some .digits else if c = '_' then some .decimal
    else if c = '.' ∨ c = 'e' ∨ c = 'E' then some .float
    else if c = 'b' then some .binary else if c = 'o' then some .octal
    else if c = 'x' then some .hex else none
  | .datetime, c =>
    if c.isDigit ∨ c = '-' ∨ c = ':' ∨ c = 'T' ∨ c = 't' ∨ c = ' ' ∨ c = '.' ∨ c = 'Z' ∨
      c = 'z' ∨ c = '+' then some .datetime else none
  | .decimal, c =>
    if c.isDigit ∨ c = '_' then some .decimal else if c = '.' ∨ c = 'e' ∨ c = 'E' then some .float
    else none
  | .float, c =>
    if c.isDigit ∨ c = '_' ∨ c = '.' ∨ c = '-' ∨ c = '+' ∨ c = 'e' ∨ c = 'E' then some .float
    else none
  | .hex, c => if isHexDigit c ∨ c = '_' then some .hex else none
  | .octal, c => if ('0' ≤ c ∧ c ≤ '7') ∨ c = '_' then some .octal else none
  | .binary, c => if c = '0' ∨ c = '1' ∨ c = '_' then some .binary else none

def NumState.kind : NumState → NumKind
  | .datetime => .datetime
  | .float => .float
  | _ => .integer

def NumState.fits (st : NumState) (d : Char) : Bool :=
  match st with
  | .binary => d = '0' ∨ d = '1'
  | .octal => '0' ≤ d ∧ d ≤ '7'
  | _ => isHexDigit d

def NumState.baseName : NumState → String
  | .binary => "a binary"
  | .octal => "an octal"
  | _ => "a hexadecimal"

/-- Reads the rest of a number or date. A base prefix needs a digit of its base after it. -/
def readNumber : Nat → NumState → List Char → Reader (NumKind × List Char)
  | 0, st, acc => pure (st.kind, acc)
  | fuel + 1, st, acc => do
    match ← peek with
    | none => pure (st.kind, acc)
    | some c =>
      match st.step c with
      | none => pure (st.kind, acc)
      | some st' => do
        advance
        let acc := acc ++ [c]
        if st = .afterZero ∧ (st' = .binary ∨ st' = .octal ∨ st' = .hex) then
          let d ← peek
          if !(d.map st'.fits).getD false then
            failHere ("not " ++ st'.baseName ++ " number: '" ++ String.ofList acc ++
              String.singleton (d.getD (Char.ofNat 0)) ++ "'")
        readNumber fuel st' acc

def underscoresFit (s : List Char) : Bool :=
  if ["nan", "+nan", "-nan", "inf", "-inf", "+inf"].contains (String.ofList s) then true else
  let step (st : Option Bool) (c : Char) : Option Bool :=
    match st with
    | none => none
    | some accept => if c = '_' ∧ !accept then none else some (isHexDigit c)
  (s.foldl step (some false)).getD false

def leadingZero : List Char → Bool
  | '0' :: c :: _ => !(c = 'b' ∨ c = 'o' ∨ c = 'x')
  | '-' :: '0' :: _ :: _ | '+' :: '0' :: _ :: _ => true
  | _ => false

def integerValue (s : List Char) : Option Int :=
  let (neg, body) := match s with
    | '-' :: r => (true, r)
    | '+' :: r => (false, r)
    | r => (false, r)
  let digits := body.filter (· != '_')
  let (base, ds) := match digits with
    | '0' :: 'x' :: r => (16, r)
    | '0' :: 'o' :: r => (8, r)
    | '0' :: 'b' :: r => (2, r)
    | r => (10, r)
  let n := ds.foldl (fun n d => base * n + hexValue [d]) 0
  let v : Int := if neg then -(n : Int) else n
  if v < -(Int.pow 2 63) ∨ v ≥ Int.pow 2 63 then none else some v

def pointsFit (s : List Char) : Bool :=
  let step (st : Option Bool) (c : Char) : Option Bool :=
    match st with
    | none => none
    | some point => if point ∧ !c.isDigit then none else some (c = '.')
  match s.foldl step (some false) with
  | some point => !point
  | none => false

def daysIn (year month : Nat) : Nat :=
  if month = 2 then (if year % 4 = 0 ∧ (year % 100 ≠ 0 ∨ year % 400 = 0) then 29 else 28)
  else if month = 4 ∨ month = 6 ∨ month = 9 ∨ month = 11 then 30 else 31

def decimalValue (ds : List Char) : Nat := ds.foldl (fun n d => 10 * n + (d.toNat - '0'.toNat)) 0

def takeDigits (n : Nat) (s : List Char) : Option (Nat × List Char) :=
  let ds := s.take n
  if ds.length = n ∧ ds.all Char.isDigit then some (decimalValue ds, s.drop n) else none

def expectChar (c : Char) : List Char → Option (List Char)
  | d :: r => if d = c then some r else none
  | [] => none

def readDate (s : List Char) : Option (List Char) := do
  let (y, s) ← takeDigits 4 s
  let s ← expectChar '-' s
  let (m, s) ← takeDigits 2 s
  let s ← expectChar '-' s
  let (d, s) ← takeDigits 2 s
  if 1 ≤ m ∧ m ≤ 12 ∧ 1 ≤ d ∧ d ≤ daysIn y m then some s else none

def readTime (s : List Char) : Option (List Char) := do
  let (h, s) ← takeDigits 2 s
  let s ← expectChar ':' s
  let (m, s) ← takeDigits 2 s
  let s ← expectChar ':' s
  let (sec, s) ← takeDigits 2 s
  let s := match s with
    | '.' :: d :: r => if d.isDigit then r.dropWhile Char.isDigit else s
    | _ => s
  if h < 24 ∧ m < 60 ∧ sec < 60 then some s else none

def readZone : List Char → Option (List Char)
  | 'Z' :: r => some r
  | c :: r =>
    if c = '+' ∨ c = '-' then do
      let (h, r) ← takeDigits 2 r
      let r ← expectChar ':' r
      let (m, r) ← takeDigits 2 r
      if h ≤ 24 ∧ m ≤ 60 then some r else none
    else none
  | [] => none

def datetimeNormal (text : List Char) : List Char :=
  text.map fun c => if c = 'z' then 'Z' else if c = 't' ∨ c = ' ' then 'T' else c

def datetimeFits (s : List Char) : Bool :=
  let whole (r : Option (List Char)) : Bool := r == some []
  whole ((readDate s).bind (expectChar 'T') |>.bind readTime |>.bind readZone) ||
  whole ((readDate s).bind (expectChar 'T') |>.bind readTime) ||
  whole (readDate s) || whole (readTime s)

def integerItem (line : Nat) (text : List Char) : Reader Value := do
  let str := String.ofList text
  if !underscoresFit text then
    failAt line ("Invalid integer " ++ Text.quote str ++ ": underscores must be surrounded by digits")
  else if leadingZero text then
    failAt line ("Invalid integer " ++ Text.quote str ++ ": cannot have leading zeroes")
  else match integerValue text with
    | some n => pure (.integer n)
    | none => failAt line (str ++ " is out of range for int64")

def floatItem (line : Nat) (text : List Char) : Reader Value := do
  let str := String.ofList text
  let parts := (str.splitToList fun c => c = '.' ∨ c = 'e' ∨ c = 'E').filter (!·.isEmpty)
  if parts.any (fun p => !underscoresFit p.toList) then
    failAt line ("Invalid float " ++ Text.quote str ++ ": underscores must be surrounded by digits")
  else if (parts.head?.map (leadingZero ·.toList)).getD false then
    failAt line ("Invalid float " ++ Text.quote str ++ ": cannot have leading zeroes")
  else if !pointsFit text then
    failAt line ("Invalid float " ++ Text.quote str ++ ": '.' must be followed by one or more digits")
  else
    let plain := String.ofList (text.filter (· != '_'))
    let plain := if plain = "+nan" ∨ plain = "-nan" then "nan" else plain
    match Decimal.Numeral.read? plain with
    | some n =>
      let bits := n.toBits
      let overflow := match n with
        | .finite _ _ _ => (bits >>> 52) &&& 0x7FF == 0x7FF
        | _ => false
      if overflow then failAt line (str ++ " is out of range for float64")
      else pure (.float n.toFloat)
    | none => failAt line ("Invalid float value: " ++ Text.quote str)

def datetimeItem (line : Nat) (text : List Char) : Reader Value := do
  let normal := datetimeNormal text
  if datetimeFits normal then pure (.datetime (String.ofList text))
  else failAt line ("invalid datetime: " ++ Text.quote (String.ofList normal))

def readNumberItem (first : Char) : Reader (Value × Nat) := do
  let (kind, text) ← readNumber (← budget) (if first = '0' then .afterZero else .digits) [first]
  let line := (← get).line
  match kind with
  | .integer => pure (← integerItem line text, line)
  | .float => pure (← floatItem line text, line)
  | .datetime => pure (← datetimeItem line (String.ofList text).trimAscii.toString.toList, line)

def readSigned (sign : Char) : Reader (Value × Nat) := do
  match ← next with
  | some 'i' =>
    if (← peek) = some 'n' then
      advance
      if (← peek) = some 'f' then
        advance
        let line := (← get).line
        pure (← floatItem line [sign, 'i', 'n', 'f'], line)
      else failHere ("invalid float: '" ++ String.ofList [sign, 'i', 'n'] ++ "'")
    else failHere ("invalid float: '" ++ String.ofList [sign, 'i'] ++ "'")
  | some 'n' =>
    if (← peek) = some 'a' then
      advance
      if (← peek) = some 'n' then
        advance
        let line := (← get).line
        pure (← floatItem line [sign, 'n', 'a', 'n'], line)
      else failHere ("invalid float: '" ++ String.ofList [sign, 'n', 'a'] ++ "'")
    else failHere ("invalid float: '" ++ String.ofList [sign, 'n'] ++ "'")
  | some c =>
    if c.isDigit then do
      if c = '0' then
        if let some p ← peek then
          if p = 'b' ∨ p = 'o' ∨ p = 'x' then
            failHere ("cannot use sign with non-decimal numbers: '" ++ String.ofList [sign, c, p] ++ "'")
      let (kind, text) ← readNumber (← budget) .decimal [sign, c]
      let line := (← get).line
      match kind with
      | .float => pure (← floatItem line text, line)
      | _ => pure (← integerItem line text, line)
    else failHere ("expected a digit but got " ++ Text.quoteChar c)
  | none => failAtEnd "expected a digit but got '\\x00'"

/-! ## Words -/

def readWord : Nat → List Char → Reader String
  | 0, acc => pure (String.ofList acc)
  | fuel + 1, acc => do
    match ← peek with
    | some c => if Text.isLetter c then do advance; readWord fuel (acc ++ [c]) else pure (String.ofList acc)
    | none => pure (String.ofList acc)

def wordValue (word : String) : Reader (Value × Nat) := do
  let line := (← get).line
  if word = "true" then pure (.boolean true, line)
  else if word = "false" then pure (.boolean false, line)
  else failHere ("expected value but found " ++ Text.quote word ++ " instead")

def readLetters (c : Char) : Reader (Value × Nat) := do
  let word (matched : Nat) : Reader (Value × Nat) := do
    if matched = 0 then wordValue (← readWord (← budget) [c])
    else
      advanceBy (matched - 1)
      wordValue (← readWord (← budget) [])
  let special (n : Nat) : Reader (Value × Nat) := do
    let taken := (← get).rest.take n
    advanceBy n
    let line := (← get).line
    pure (← floatItem line (c :: taken), line)
  if c = 'i' ∨ c = 'n' then
    if (← peekAhead 0) = some 'n' then
      if (← peekAhead 1) = some 'f' then special 2
      else if (← peekAhead 1) = some 'a' then
        if (← peekAhead 2) = some 'n' then special 3 else word 2
      else word 1
    else if (← peekAhead 0) = some 'a' then
      if (← peekAhead 1) = some 'n' then special 2 else word 1
    else word 0
  else word 0

/-! ## Values -/

def showNext : Option Char → String
  | some c => "'" ++ String.singleton c ++ "'"
  | none => "end of file"

def readStringItem (q : Char) : Reader (Value × Nat) := do
  let triple ← if (← peekAhead 0) == some q then do pure ((← peekAhead 1) == some q) else pure false
  if triple then
    advanceBy 2
    let raw ← readMultiRaw (← get).rest q (q = '"') (← budget) []
    let line := (← get).line
    if q = '"' then pure (.string (← basicString line (dropFirstNewline (dropLineEndEscapes raw))), line)
    else pure (.string (String.ofList (dropFirstNewline raw)), line)
  else if q = '"' then
    let raw ← readBasicRaw (← get).rest (← budget) []
    let line := (← get).line
    pure (.string (← basicString line raw), line)
  else
    let raw ← readLiteralRaw (← budget) []
    pure (.string (String.ofList raw), (← get).line)

mutual

/-- Reads a value after blanks: the value and the line of its first item. `inArray` tells
whether the value is an item of an array. -/
def readValue (inArray : Bool) : Nat → Reader (Value × Nat)
  | 0 => failAtEnd "unexpected EOF; expected value"
  | fuel + 1 => do
    let startLine := (← get).line
    match ← next with
    | none => failAtEnd "unexpected EOF; expected value"
    | some c =>
      if c = ' ' ∨ c = '\t' then readValue inArray fuel
      else if c.isDigit then readNumberItem c
      else if c = '[' then do
        setInfo (← get).currentKey true startLine
        pure (.array (← readArrayItems fuel []), startLine)
      else if c = '{' then do
        pure (← readInlineTable inArray fuel, startLine)
      else if c = '"' ∨ c = '\'' then readStringItem c
      else if c = '.' then failHere "floats must start with a digit, not '.'"
      else if c = '+' ∨ c = '-' then readSigned c
      else if Text.isLetter c then readLetters c
      else failHere ("expected value but found " ++ Text.quoteChar c ++ " instead")

def readArrayItems : Nat → List Value → Reader (List Value)
  | 0, acc => pure acc
  | fuel + 1, acc => do
    match ← peek with
    | some ' ' | some '\t' | some '\n' | some '\r' => advance; readArrayItems fuel acc
    | some '#' => advance; skipComment (← budget); readArrayItems fuel acc
    | some ',' => advance; failHere "unexpected comma"
    | some ']' => advance; pure acc
    | _ => do
      let (v, _) ← readValue true fuel
      readArrayEnd fuel (acc ++ [v])

def readArrayEnd : Nat → List Value → Reader (List Value)
  | 0, acc => pure acc
  | fuel + 1, acc => do
    match ← next with
    | some ' ' | some '\t' | some '\n' | some '\r' => readArrayEnd fuel acc
    | some '#' => skipComment (← budget); readArrayEnd fuel acc
    | some ',' => readArrayItems fuel acc
    | some ']' => pure acc
    | none => failAtEnd ("expected a comma (',') or array terminator (']'), but got " ++ showNext none)
    | c => failHere ("expected a comma (',') or array terminator (']'), but got " ++ showNext c)

/-- Reads an inline table after its opening brace, through the closing one. Its entries are
set in the document as the entries of a table under the current key, or, for an item of an
array, of a new table of an array of tables there. -/
def readInlineTable (inArray : Bool) : Nat → Reader Value
  | 0 => pure (.table [])
  | fuel + 1 => do
    let s ← get
    let outerContext := s.context
    let outerKey := s.currentKey
    let here := s.context ++ [s.currentKey]
    set { s with context := here, currentKey := "", implicit := here :: s.implicit }
    addContext here inArray
    let entries ← readInlineEntries fuel here []
    modify fun s => { s with context := outerContext, currentKey := outerKey }
    pure (.table entries)

def readInlineEntries : Nat → List String → Table → Reader Table
  | 0, _, acc => pure acc
  | fuel + 1, here, acc => do
    match ← peek with
    | some ' ' | some '\t' => advance; readInlineEntries fuel here acc
    | some '\n' | some '\r' => advance; failPrevLine "newlines not allowed within inline tables"
    | some '#' => advance; skipComment (← budget); readInlineEntries fuel here acc
    | some ',' => advance; failHere "unexpected comma"
    | some '}' => advance; pure acc
    | _ => do
      let keyLine := (← get).line
      let key ← readKey
      let last ← enterKey key
      skipBlanks (← budget)
      let (v, _) ← readValue false fuel
      setValue last v
      setInfo last (v matches .array _) keyLine
      modify fun s => { s with context := here }
      readInlineEnd fuel here (acc.set last v)

def readInlineEnd : Nat → List String → Table → Reader Table
  | 0, _, acc => pure acc
  | fuel + 1, here, acc => do
    match ← next with
    | some ' ' | some '\t' => readInlineEnd fuel here acc
    | some '\n' | some '\r' => failPrevLine "newlines not allowed within inline tables"
    | some '#' => skipComment (← budget); readInlineEnd fuel here acc
    | some ',' => do
      skipBlanks (← budget)
      if (← peek) = some '}' then failHere "trailing comma not allowed in inline tables"
      readInlineEntries fuel here acc
    | some '}' => pure acc
    | none => failAtEnd ("expected a comma or an inline table terminator '\x7d', but got " ++
        showNext none ++ " instead")
    | c => failHere ("expected a comma or an inline table terminator '\x7d', but got " ++
        showNext c ++ " instead")

end

/-! ## The document -/

def readLineEnd : Nat → Reader Unit
  | 0 => pure ()
  | fuel + 1 => do
    match ← next with
    | some ' ' | some '\t' => readLineEnd fuel
    | some '#' => skipComment (← budget)
    | some '\n' | some '\r' | none => pure ()
    | some c =>
      failHere ("expected a top-level item to end with a newline, comment, or EOF, but got " ++
        Text.quoteChar c ++ " instead")

def readTableName : Nat → List String → Reader (List String)
  | 0, parts => pure parts
  | fuel + 1, parts => do
    skipBlanks (← budget)
    match ← peek with
    | some ']' | none => failHere "unexpected end of table name (table names cannot be empty)"
    | some '.' => failHere "unexpected table separator (table names cannot be empty)"
    | _ => do
      let part ← readKeyPart
      skipBlanks (← budget)
      match ← next with
      | some '.' => readTableName fuel (parts ++ [part])
      | some ']' => pure (parts ++ [part])
      | none => failAtEnd "expected '.' or ']' to end table name, but got '\\x00' instead"
      | some c => failHere ("expected '.' or ']' to end table name, but got " ++ Text.quoteChar c ++ " instead")

def readHeader : Reader Unit := do
  let line := (← get).line
  modify fun s => { s with keyLine := line }
  let array := (← peek) = some '['
  if array then advance
  let name ← readTableName (← budget) []
  if array then
    match ← next with
    | some ']' => pure ()
    | none => failAtEnd "expected end of table array name delimiter ']', but got '\\x00' instead"
    | some c => failHere ("expected end of table array name delimiter ']', but got " ++
        Text.quoteChar c ++ " instead")
  addContext name array
  setInfo "" false line
  modify fun s => { s with ordered := s.ordered ++ [name] }

def readKeyValue : Reader Unit := do
  let outer := (← get).context
  let key ← readKey
  let last ← enterKey key
  skipBlanks (← budget)
  let (v, line) ← readValue false (3 * (← budget))
  setValue last v
  setInfo last (v matches .array _) line
  modify fun s => { s with context := outer, currentKey := "" }

def readTop : Nat → Reader Unit
  | 0 => pure ()
  | fuel + 1 => do
    match ← peek with
    | none => pure ()
    | some ' ' | some '\t' | some '\n' | some '\r' => advance; readTop fuel
    | some '#' => advance; skipComment (← budget); readTop fuel
    | some '[' => do
      advance
      readHeader
      readLineEnd (← budget)
      readTop fuel
    | some _ => do
      readKeyValue
      readLineEnd (← budget)
      readTop fuel

/-- A TOML document: its tables, its keys in the order they were defined, and what is known of
each key. -/
structure Document where
  root : Table
  ordered : List (List String)
  info : List (String × KeyInfo)

def Document.lineOf (d : Document) (path : List String) : Nat :=
  ((d.info.find? (·.1 == keyText path)).map (·.2.line)).getD 0

def nulEarly : Nat → List Char → Bool
  | _, [] => false
  | offset, c :: r => offset < 6 && (c.toNat == 0 || nulEarly (offset + c.utf8Size) r)

/-- Reads a TOML document; a byte order mark at the start is skipped. -/
def read (text : String) : Except Error Document :=
  let cs := match text.toList with
    | c :: r => if c.toNat = 0xFEFF then r else c :: r
    | [] => []
  if nulEarly 0 cs then
    .error ⟨1, "", "files cannot contain NULL bytes; probably using UTF-16; TOML files must be UTF-8"⟩
  else
    match (readTop (cs.length + 1)).run { rest := cs } with
    | .ok (_, s) => .ok ⟨s.root, s.ordered, s.info⟩
    | .error e => .error e

end MiniLox.Toml
