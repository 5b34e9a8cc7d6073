import MiniLox.Text.Utf8
/-!
# Scanning YAML

The scanner turns YAML text into tokens: indicators, scalars, anchors, aliases, tags,
directives, and the block structure that indentation makes (`blockMappingStart`, `blockEnd`,
...). A key without `?` is a *simple key*: the scanner remembers where one could start, and
when a `:` follows on the same line it inserts the `key` token (and a `blockMappingStart` when
the key opens a deeper block) before it.

Tokens are produced on demand: the parser asks for the next token, and the scanner reads until
it holds three tokens beyond what was taken and no pending simple key could still change the
first of them. A scanning error therefore shows up when the parser asks for a token at or
after it.

Positions (`Mark`) count characters, and lines and columns from 0.
-/

set_option autoImplicit false

namespace MiniLox.Yaml

/-- A position in the text: characters before it, its line and its column, all from 0. -/
structure Mark where
  index : Nat := 0
  line : Nat := 0
  column : Nat := 0
deriving Inhabited, Repr

/-- The kinds of tokens. A scalar knows whether it was written plain (unquoted); a tag is a
handle (`!`, `!!`, `!name!`, or empty for a verbatim `!<...>` tag) and a suffix. -/
inductive TokenKind where
  | streamStart | streamEnd | documentStart | documentEnd
  | blockSequenceStart | blockMappingStart | blockEnd
  | flowSequenceStart | flowSequenceEnd | flowMappingStart | flowMappingEnd
  | blockEntry | flowEntry | key | value
  | scalar (text : String) (plain : Bool)
  | anchor (name : String) | alias (name : String)
  | tag (handle suffix : String)
  | versionDirective (major minor : Nat)
  | tagDirective (handle expansion : String)
deriving DecidableEq, Repr

/-- A token and where it starts and stops. -/
structure Token where
  kind : TokenKind
  start : Mark
  stop : Mark
deriving Repr

/-- A place where a simple key could start: the number of its token, whether a `:` must follow
(it starts a line of a block at the block's indentation), and its position. -/
structure SimpleKey where
  possible : Bool
  required : Bool
  number : Nat
  mark : Mark

/-- A refusal. `scanner` tells a scanning error from a parsing one; `context` is the position
of what was being read (line 0 when there is none) and `problem` where reading failed; `reach`
is the furthest character the scanner had looked at by then. -/
structure Problem where
  scanner : Bool
  context : Mark
  problem : Mark
  message : String
  reach : Nat

/-- `yaml: line N: message`. The line is the context's, else the problem's, counted from 0
for parsing errors and from 1 for scanning errors; a line 0 is left out. -/
def Problem.text (p : Problem) : String :=
  let line := if p.context.line ≠ 0 then p.context.line else p.problem.line
  let line := if line ≠ 0 ∧ p.scanner then line + 1 else line
  "yaml: " ++ (if line = 0 then "" else "line " ++ toString line ++ ": ") ++ p.message

/-- The scanner's state: the text left, the position, the furthest character looked at, the
tokens not yet taken and how many were taken, the stack of block indentations, the simple keys
(one for each flow level, the innermost first) and the flow depth. -/
structure Scanner where
  rest : List Char
  mark : Mark := {}
  reach : Nat := 0
  queue : List Token := []
  taken : Nat := 0
  started : Bool := false
  available : Bool := false
  indent : Int := -1
  indents : List Int := []
  simpleKeyAllowed : Bool := false
  simpleKeys : List SimpleKey := []
  flowLevel : Nat := 0

abbrev Scan := StateT Scanner (Except Problem)

def isBlank (c : Char) : Bool := c = ' ' || c = '\t'

def isBreak (c : Char) : Bool :=
  c = '\r' || c = '\n' || c.toNat = 0x85 || c.toNat = 0x2028 || c.toNat = 0x2029

def blankOrEnd : Option Char → Bool
  | some c => isBlank c || isBreak c
  | none => true

def breakOrEnd : Option Char → Bool
  | some c => isBreak c
  | none => true

def isHex (c : Char) : Bool := c.isDigit || ('a' ≤ c && c ≤ 'f') || ('A' ≤ c && c ≤ 'F')

def hexDigit (c : Char) : Nat :=
  if c.isDigit then c.toNat - '0'.toNat else c.toLower.toNat - 'a'.toNat + 10

def insertAt {α : Type} : List α → Nat → α → List α
  | xs, 0, a => a :: xs
  | [], _, a => [a]
  | x :: xs, n + 1, a => x :: insertAt xs n a

def lookAhead (k : Nat) : Scan Unit :=
  modify fun s => { s with reach := max s.reach (s.mark.index + k) }

def charAt (k : Nat) : Scan (Option Char) := do
  lookAhead k
  pure (← get).rest[k]?

def budget : Scan Nat := do pure ((← get).rest.length + 2)

def skip : Scan Unit := modify fun s => match s.rest with
  | [] => s
  | _ :: r => { s with rest := r, mark := ⟨s.mark.index + 1, s.mark.line, s.mark.column + 1⟩,
                       reach := max s.reach s.mark.index }

def skipN : Nat → Scan Unit
  | 0 => pure ()
  | n + 1 => do skip; skipN n

def skipLine : Scan Unit := modify fun s => match s.rest with
  | '\r' :: '\n' :: r =>
    { s with rest := r, mark := ⟨s.mark.index + 2, s.mark.line + 1, 0⟩, reach := max s.reach (s.mark.index + 1) }
  | c :: r =>
    if isBreak c then
      { s with rest := r, mark := ⟨s.mark.index + 1, s.mark.line + 1, 0⟩, reach := max s.reach s.mark.index }
    else s
  | [] => s

def readLine : Scan (List Char) := do
  let c ← charAt 0
  skipLine
  match c with
  | some c => pure (if c.toNat = 0x2028 ∨ c.toNat = 0x2029 then [c] else ['\n'])
  | none => pure []

def readChar : Scan (List Char) := do
  match ← charAt 0 with
  | some c => skip; pure [c]
  | none => pure []

def scanError {α : Type} (context : Mark) (msg : String) : Scan α := do
  throw ⟨true, context, (← get).mark, msg, (← get).reach⟩

def atDocumentMarker : Scan Bool := do
  let s ← get
  let marker := s.rest.take 3
  pure (s.mark.column == 0 && (marker == ['-', '-', '-'] || marker == ['.', '.', '.']) &&
    blankOrEnd s.rest[3]?)

def pushToken (kind : TokenKind) (start stop : Mark) : Scan Unit :=
  modify fun s => { s with queue := s.queue ++ [Token.mk kind start stop] }

/-! ## Simple keys and indentation -/

/-- Whether a simple key is still possible: on the line where it started and at most 1024
characters back. One that had to be followed by `:` and no longer can be is refused. -/
def keyValid (k : SimpleKey) : Scan Bool := do
  if !k.possible then return false
  let m := (← get).mark
  if k.mark.line < m.line || k.mark.index + 1024 < m.index then
    if k.required then scanError k.mark "could not find expected ':'"
    else return false
  return true

def removeSimpleKey : Scan Unit := do
  let s ← get
  match s.simpleKeys with
  | k :: ks =>
    if k.possible then
      if k.required then throw ⟨true, k.mark, s.mark, "could not find expected ':'", s.reach⟩
      set { s with simpleKeys := { k with possible := false } :: ks }
  | [] => pure ()

def saveSimpleKey : Scan Unit := do
  let s ← get
  if s.simpleKeyAllowed then
    let required := s.flowLevel == 0 && s.indent == (s.mark.column : Int)
    let key : SimpleKey := ⟨true, required, s.taken + s.queue.length, s.mark⟩
    removeSimpleKey
    modify fun s => { s with simpleKeys := key :: s.simpleKeys.drop 1 }

def rollIndent (column : Int) (number : Option Nat) (kind : TokenKind) (mark : Mark) : Scan Unit := do
  let s ← get
  if s.flowLevel == 0 && s.indent < column then
    let t : Token := ⟨kind, mark, mark⟩
    let queue := match number with
      | some n => insertAt s.queue (n - s.taken) t
      | none => s.queue ++ [t]
    set { s with indents := s.indent :: s.indents, indent := column, queue := queue }

def unrollIndent (column : Int) (scanMark : Mark) : Nat → Scan Unit
  | 0 => pure ()
  | fuel + 1 => do
    let s ← get
    if s.flowLevel == 0 && s.indent > column then
      let m := { scanMark with index := scanMark.index - 1 }
      set { s with queue := s.queue ++ [Token.mk .blockEnd m m] }
      modify fun s => { s with indent := s.indents.headD (-1), indents := s.indents.drop 1 }
      unrollIndent column scanMark fuel

/-! ## Blanks and comments -/

def skipSpaces : Nat → Scan Unit
  | 0 => pure ()
  | fuel + 1 => do
    let s ← get
    match s.rest with
    | c :: _ =>
      if c = ' ' || ((s.flowLevel > 0 || !s.simpleKeyAllowed) && c = '\t') then do
        skip; skipSpaces fuel
    | [] => pure ()

def skipToBreak : Nat → Scan Unit
  | 0 => pure ()
  | fuel + 1 => do
    if !breakOrEnd (← charAt 0) then do skip; skipToBreak fuel

def skipGap : Nat → Scan Unit
  | 0 => pure ()
  | fuel + 1 => do
    match ← charAt 0 with
    | some c =>
      if isBlank c then do skip; skipGap fuel
      else if isBreak c then do skipLine; skipGap fuel
    | none => pure ()

def skipComments : Nat → Scan Unit
  | 0 => pure ()
  | fuel + 1 => do
    skipToBreak (← budget)
    let rest := (← get).rest
    let gap := rest.takeWhile fun c => isBlank c || isBreak c
    if rest[gap.length]? == some '#' then do
      skipGap (← budget)
      skipComments fuel

/-- Skips blanks, comments and line breaks up to the next token. A line break in block context
lets a simple key start. -/
def skipToToken : Nat → Scan Unit
  | 0 => pure ()
  | fuel + 1 => do
    if (← get).mark.column == 0 && (← charAt 0) == some (Char.ofNat 0xFEFF) then skip
    skipSpaces (← budget)
    if (← charAt 0) == some '#' then skipComments (← budget)
    match ← charAt 0 with
    | some c =>
      if isBreak c then do
        skipLine
        if (← get).flowLevel == 0 then modify fun s => { s with simpleKeyAllowed := true }
        skipToToken fuel
    | none => pure ()

/-! ## Scalars -/

/-- Text being folded: the text so far, the first line break of a run and the ones after it,
the blanks not yet placed, and whether the current run began with a line break. -/
structure Fold where
  text : List Char := []
  leadingBreak : List Char := []
  trailingBreaks : List Char := []
  whitespaces : List Char := []
  leadingBlanks : Bool := false

def Fold.join (f : Fold) : Fold :=
  if f.leadingBlanks then
    let text :=
      if f.leadingBreak.head? == some '\n' then
        if f.trailingBreaks.isEmpty then f.text ++ [' '] else f.text ++ f.trailingBreaks
      else f.text ++ f.leadingBreak ++ f.trailingBreaks
    { f with text := text, leadingBreak := [], trailingBreaks := [], leadingBlanks := false }
  else { f with text := f.text ++ f.whitespaces, whitespaces := [] }

def foldBlanks (plainIndent : Option (Int × Mark)) : Nat → Fold → Scan Fold
  | 0, f => pure f
  | fuel + 1, f => do
    match ← charAt 0 with
    | some c =>
      if isBlank c then
        if let some (indent, start) := plainIndent then
          if f.leadingBlanks && ((← get).mark.column : Int) < indent && c = '\t' then
            scanError start "found a tab character that violates indentation"
        if f.leadingBlanks then do skip; foldBlanks plainIndent fuel f
        else do
          let w ← readChar
          foldBlanks plainIndent fuel { f with whitespaces := f.whitespaces ++ w }
      else if isBreak c then
        if f.leadingBlanks then do
          let b ← readLine
          foldBlanks plainIndent fuel { f with trailingBreaks := f.trailingBreaks ++ b }
        else do
          let b ← readLine
          foldBlanks plainIndent fuel { f with whitespaces := [], leadingBreak := b, leadingBlanks := true }
      else pure f
    | none => pure f

def plainRun : Nat → Fold → Mark → Scan (Fold × Mark)
  | 0, f, m => pure (f, m)
  | fuel + 1, f, m => do
    let s ← get
    match s.rest with
    | c :: r =>
      if isBlank c || isBreak c then pure (f, m)
      else if (c = ':' && blankOrEnd r.head?) ||
          (s.flowLevel > 0 && (c = ',' || c = '?' || c = '[' || c = ']' || c = '{' || c = '}')) then
        pure (f, m)
      else do
        let f := if f.leadingBlanks || !f.whitespaces.isEmpty then f.join else f
        skip
        plainRun fuel { f with text := f.text ++ [c] } (← get).mark
    | [] => pure (f, m)

def plainLoop (indent : Int) (start : Mark) : Nat → Fold → Mark → Scan (Fold × Mark)
  | 0, f, m => pure (f, m)
  | fuel + 1, f, m => do
    if ← atDocumentMarker then return (f, m)
    if (← charAt 0) == some '#' then return (f, m)
    let (f, m) ← plainRun (← budget) f m
    match ← charAt 0 with
    | some c =>
      if !(isBlank c || isBreak c) then return (f, m)
      let f ← foldBlanks (some (indent, start)) (← budget) f
      let s ← get
      if s.flowLevel == 0 && (s.mark.column : Int) < indent then return (f, m)
      plainLoop indent start fuel f m
    | none => pure (f, m)

/-- Scans a plain scalar. After one that spans lines a simple key may start. -/
def scanPlain : Scan Unit := do
  let s ← get
  let start := s.mark
  let (f, stop) ← plainLoop (s.indent + 1) start (← budget) {} start
  pushToken (.scalar (String.ofList f.text) true) start stop
  if f.leadingBlanks then modify fun s => { s with simpleKeyAllowed := true }

def escapeOf (c : Char) : Option (Sum Char Nat) :=
  match c with
  | '0' => some (.inl (Char.ofNat 0)) | 'a' => some (.inl (Char.ofNat 7))
  | 'b' => some (.inl (Char.ofNat 8)) | 't' => some (.inl '\t') | '\t' => some (.inl '\t')
  | 'n' => some (.inl '\n') | 'v' => some (.inl (Char.ofNat 11)) | 'f' => some (.inl (Char.ofNat 12))
  | 'r' => some (.inl '\r') | 'e' => some (.inl (Char.ofNat 27)) | ' ' => some (.inl ' ')
  | '"' => some (.inl '"') | '\'' => some (.inl '\'') | '\\' => some (.inl '\\')
  | 'N' => some (.inl (Char.ofNat 0x85)) | '_' => some (.inl (Char.ofNat 0xA0))
  | 'L' => some (.inl (Char.ofNat 0x2028)) | 'P' => some (.inl (Char.ofNat 0x2029))
  | 'x' => some (.inr 2) | 'u' => some (.inr 4) | 'U' => some (.inr 8)
  | _ => none

def readEscape (start : Mark) : Scan (List Char) := do
  let code ← charAt 1
  match code.bind escapeOf with
  | none => scanError start "found unknown escape character"
  | some (.inl c) => do skipN 2; pure [c]
  | some (.inr n) => do
    skipN 2
    let ds := (← get).rest.take n
    if ds.length < n || !ds.all isHex then scanError start "did not find expected hexdecimal number"
    let v := ds.foldl (fun v d => 16 * v + hexDigit d) 0
    if (0xD800 ≤ v && v ≤ 0xDFFF) || v > 0x10FFFF then
      scanError start "found invalid Unicode character escape code"
    skipN n
    pure [Char.ofNat v]

def quotedRun (single : Bool) (start : Mark) : Nat → Fold → Scan Fold
  | 0, f => pure f
  | fuel + 1, f => do
    match (← get).rest with
    | c :: r =>
      if isBlank c || isBreak c then pure f
      else if single && c = '\'' && r.head? == some '\'' then do
        skipN 2; quotedRun single start fuel { f with text := f.text ++ ['\''] }
      else if (single && c = '\'') || (!single && c = '"') then pure f
      else if !single && c = '\\' && (r.head?.map isBreak).getD false then do
        skip; skipLine; pure { f with leadingBlanks := true }
      else if !single && c = '\\' then do
        let e ← readEscape start
        quotedRun single start fuel { f with text := f.text ++ e }
      else do
        skip; quotedRun single start fuel { f with text := f.text ++ [c] }
    | [] => pure f

def quotedLoop (single : Bool) (start : Mark) : Nat → Fold → Scan Fold
  | 0, f => pure f
  | fuel + 1, f => do
    if ← atDocumentMarker then scanError start "found unexpected document indicator"
    if (← get).rest.isEmpty then scanError start "found unexpected end of stream"
    let f ← quotedRun single start (← budget) { f with leadingBlanks := false }
    if (← charAt 0) == some (if single then '\'' else '"') then return f
    let f ← foldBlanks none (← budget) f
    quotedLoop single start fuel f.join

def scanQuoted (single : Bool) : Scan Unit := do
  let start := (← get).mark
  skip
  let f ← quotedLoop single start (← budget) {}
  skip
  pushToken (.scalar (String.ofList f.text) false) start (← get).mark

def blockBreaks (start : Mark) (indent : Nat) (breaks : List Char) :
    Nat → Nat → Scan (Nat × List Char × Mark)
  | 0, _ => do pure (indent, breaks, (← get).mark)
  | fuel + 1, maxIndent => do
    let rec spaces : Nat → Scan Unit
      | 0 => pure ()
      | k + 1 => do
        let s ← get
        if (indent == 0 || s.mark.column < indent) && s.rest.head? == some ' ' then do skip; spaces k
    spaces (← budget)
    let s ← get
    let maxIndent := max maxIndent s.mark.column
    if (indent == 0 || s.mark.column < indent) && s.rest.head? == some '\t' then
      scanError start "found a tab character where an indentation space is expected"
    match s.rest.head? with
    | some c =>
      if isBreak c then do
        let b ← readLine
        blockBreaks start indent (breaks ++ b) fuel maxIndent
      else
        let indent := if indent == 0 then max 1 (max maxIndent (s.indent + 1).toNat) else indent
        pure (indent, breaks, s.mark)
    | none =>
      let indent := if indent == 0 then max 1 (max maxIndent (s.indent + 1).toNat) else indent
      pure (indent, breaks, s.mark)

def blockLines (literal : Bool) (start : Mark) (indent : Nat) :
    Nat → List Char → List Char → List Char → Bool → Mark → Scan (List Char × List Char × List Char × Mark)
  | 0, text, leading, trailing, _, stop => pure (text, leading, trailing, stop)
  | fuel + 1, text, leading, trailing, leadingBlank, stop => do
    let s ← get
    if s.mark.column != indent || s.rest.isEmpty then return (text, leading, trailing, stop)
    let trailingBlank := (s.rest.head?.map isBlank).getD false
    let text :=
      if !literal && leading.head? == some '\n' && !leadingBlank && !trailingBlank then
        if trailing.isEmpty then text ++ [' '] else text
      else text ++ leading
    let text := text ++ trailing
    let leadingBlank := (s.rest.head?.map isBlank).getD false
    let line := s.rest.takeWhile fun c => !isBreak c
    skipN line.length
    let leading ← if (← get).rest.isEmpty then pure [] else readLine
    let (_, trailing, stop) ← blockBreaks start indent [] (← budget) 0
    blockLines literal start indent fuel (text ++ line) leading trailing leadingBlank stop

/-- Scans a literal (`|`) or folded (`>`) block scalar with its chomping and indentation
indicators. -/
def scanBlockScalar (literal : Bool) : Scan Unit := do
  let start := (← get).mark
  skip
  let sign (c : Option Char) : Int := if c == some '+' then 1 else if c == some '-' then -1 else 0
  let mut chomping : Int := 0
  let mut increment : Nat := 0
  let c ← charAt 0
  if sign c ≠ 0 then
    chomping := sign c
    skip
    if let some d ← charAt 0 then
      if d.isDigit then
        if d = '0' then scanError start "found an indentation indicator equal to 0"
        increment := d.toNat - '0'.toNat
        skip
  else if let some d := c then
    if d.isDigit then
      if d = '0' then scanError start "found an indentation indicator equal to 0"
      increment := d.toNat - '0'.toNat
      skip
      let c2 ← charAt 0
      if sign c2 ≠ 0 then
        chomping := sign c2
        skip
  let rec blanks : Nat → Scan Unit
    | 0 => pure ()
    | k + 1 => do if ((← charAt 0).map isBlank).getD false then do skip; blanks k
  blanks (← budget)
  if (← charAt 0) == some '#' then skipToBreak (← budget)
  if !breakOrEnd (← charAt 0) then scanError start "did not find expected comment or line break"
  if ((← charAt 0).map isBreak).getD false then skipLine
  let s ← get
  let indent := if increment > 0 then
      (if s.indent ≥ 0 then (s.indent + increment).toNat else increment) else 0
  let (indent, trailing, stop) ← blockBreaks start indent [] (← budget) 0
  let (text, leading, trailing, stop) ← blockLines literal start indent (← budget) [] [] trailing false stop
  let text := if chomping ≠ -1 then text ++ leading else text
  let text := if chomping = 1 then text ++ trailing else text
  pushToken (.scalar (String.ofList text) false) start stop

/-! ## Anchors, tags and directives -/

def isPrintableChar (c : Char) : Bool :=
  let n := c.toNat
  n = 0x0A || (0x20 ≤ n && n ≤ 0x7E) || (0xA0 ≤ n && n ≤ 0xD7FF) ||
    (0xE000 ≤ n && n ≤ 0xFFFD && n ≠ 0xFEFF)

def isWordChar (c : Char) : Bool :=
  ('0' ≤ c && c ≤ '9') || ('A' ≤ c && c ≤ 'Z') || ('a' ≤ c && c ≤ 'z') || c = '_' || c = '-'

def isUriChar (c : Char) : Bool :=
  isWordChar c || ";/?:@&=+$,.!~*'()[]%".toList.contains c

def tagError {α : Type} (start : Mark) (msg : String) : Scan α := scanError start msg

def utf8Width (b : Nat) : Nat :=
  if b < 0x80 then 1 else if b / 32 = 6 then 2 else if b / 16 = 14 then 3 else if b / 8 = 30 then 4 else 0

def uriEscapes (start : Mark) : Nat → Nat → List Nat → Scan (List Char)
  | 0, _, bs => pure (Text.bytesText bs).toList
  | fuel + 1, width, bs => do
    let s ← get
    match s.rest with
    | '%' :: h :: l :: _ =>
      if !(isHex h && isHex l) then tagError start "did not find URI escaped octet" else
      let b := 16 * hexDigit h + hexDigit l
      let width ← if bs.isEmpty then
          if utf8Width b = 0 then tagError start "found an incorrect leading UTF-8 octet"
          else pure (utf8Width b)
        else if b / 64 ≠ 2 then tagError start "found an incorrect trailing UTF-8 octet"
        else pure width
      skipN 3
      if bs.length + 1 = width then pure (Text.bytesText (bs ++ [b])).toList
      else uriEscapes start fuel width (bs ++ [b])
    | _ => tagError start "did not find URI escaped octet"

def scanTagUri (head : List Char) (start : Mark) : Scan String := do
  let rec go : Nat → List Char → Scan (List Char)
    | 0, acc => pure acc
    | fuel + 1, acc => do
      match ← charAt 0 with
      | some c =>
        if !isUriChar c then pure acc
        else if c = '%' then do
          let e ← uriEscapes start 4 0 []
          go fuel (acc ++ e)
        else do skip; go fuel (acc ++ [c])
      | none => pure acc
  let uri ← go (← budget) (head.drop 1)
  if uri.isEmpty && head.isEmpty then tagError start "did not find expected tag URI"
  pure (String.ofList uri)

def scanTagHandle (directive : Bool) (start : Mark) : Scan (List Char) := do
  if (← charAt 0) != some '!' then tagError start "did not find expected '!'"
  skip
  let word := (← get).rest.takeWhile isWordChar
  skipN word.length
  if (← charAt 0) == some '!' then do
    skip
    pure ('!' :: word ++ ['!'])
  else if directive && !word.isEmpty then tagError start "did not find expected '!'"
  else pure ('!' :: word)

/-- Scans a tag: `!<uri>`, `!handle!suffix`, `!suffix` or a lone `!`. A blank, a line break or the
end must follow, or `,` in flow context. -/
def fetchTag : Scan Unit := do
  saveSimpleKey
  modify fun s => { s with simpleKeyAllowed := false }
  let start := (← get).mark
  let (handle, suffix) ← if (← charAt 1) == some '<' then do
      skipN 2
      let uri ← scanTagUri [] start
      if (← charAt 0) != some '>' then scanError start "did not find the expected '>'"
      skip
      pure ("", uri)
    else do
      let handle ← scanTagHandle false start
      if handle.length > 1 && handle.getLast? == some '!' then
        pure (String.ofList handle, ← scanTagUri [] start)
      else
        let suffix ← scanTagUri handle start
        pure (if suffix.isEmpty then ("", "!") else ("!", suffix))
  let next ← charAt 0
  if !blankOrEnd next && ((← get).flowLevel == 0 || next != some ',') then
    scanError start "did not find expected whitespace or line break"
  pushToken (.tag handle suffix) start (← get).mark

def fetchAnchor (isAlias : Bool) : Scan Unit := do
  saveSimpleKey
  modify fun s => { s with simpleKeyAllowed := false }
  let start := (← get).mark
  skip
  let name := (← get).rest.takeWhile isWordChar
  skipN name.length
  let next ← charAt 0
  let ends := blankOrEnd next || (next.map fun c => "?:,]\x7d%@`".toList.contains c).getD false
  if name.isEmpty || !ends then
    scanError start "did not find expected alphabetic or numeric character"
  let name := String.ofList name
  pushToken (if isAlias then .alias name else .anchor name) start (← get).mark

def versionNumber (start : Mark) : Scan Nat := do
  let ds := (← get).rest.takeWhile Char.isDigit
  if ds.length > 2 then scanError start "found extremely long version number"
  if ds.isEmpty then scanError start "did not find expected version number"
  skipN ds.length
  pure (ds.foldl (fun n d => 10 * n + (d.toNat - '0'.toNat)) 0)

def skipBlanks : Nat → Scan Unit
  | 0 => pure ()
  | fuel + 1 => do if ((← charAt 0).map isBlank).getD false then do skip; skipBlanks fuel

def fetchDirective : Scan Unit := do
  unrollIndent (-1) (← get).mark ((← get).indents.length + 1)
  removeSimpleKey
  modify fun s => { s with simpleKeyAllowed := false }
  let start := (← get).mark
  skip
  let name := (← get).rest.takeWhile isWordChar
  skipN name.length
  if name.isEmpty then scanError start "could not find expected directive name"
  if !blankOrEnd (← charAt 0) then scanError start "found unexpected non-alphabetical character"
  let kind ← if name == "YAML".toList then do
      skipBlanks (← budget)
      let major ← versionNumber start
      if (← charAt 0) != some '.' then scanError start "did not find expected digit or '.' character"
      skip
      let minor ← versionNumber start
      pure (TokenKind.versionDirective major minor)
    else if name == "TAG".toList then do
      skipBlanks (← budget)
      let handle ← scanTagHandle true start
      if !((← charAt 0).map isBlank).getD false then scanError start "did not find expected whitespace"
      skipBlanks (← budget)
      let expansion ← scanTagUri [] start
      if !blankOrEnd (← charAt 0) then scanError start "did not find expected whitespace or line break"
      pure (TokenKind.tagDirective (String.ofList handle) expansion)
    else scanError start "found unknown directive name"
  let stop := (← get).mark
  skipBlanks (← budget)
  if (← charAt 0) == some '#' then skipToBreak (← budget)
  if !breakOrEnd (← charAt 0) then scanError start "did not find expected comment or line break"
  skipLine
  pushToken kind start stop

/-! ## Tokens -/

def indicator (kind : TokenKind) : Scan Unit := do
  let start := (← get).mark
  skip
  pushToken kind start (← get).mark

def fetchDocumentMarker (kind : TokenKind) : Scan Unit := do
  unrollIndent (-1) (← get).mark ((← get).indents.length + 1)
  removeSimpleKey
  modify fun s => { s with simpleKeyAllowed := false }
  let start := (← get).mark
  skipN 3
  pushToken kind start (← get).mark

def fetchFlowStart (kind : TokenKind) : Scan Unit := do
  saveSimpleKey
  modify fun s => { s with
    simpleKeys := ⟨false, false, s.taken + s.queue.length, s.mark⟩ :: s.simpleKeys,
    flowLevel := s.flowLevel + 1 }
  modify fun s => { s with simpleKeyAllowed := true }
  indicator kind

def fetchFlowEnd (kind : TokenKind) : Scan Unit := do
  removeSimpleKey
  modify fun s => if s.flowLevel > 0 then
      { s with flowLevel := s.flowLevel - 1, simpleKeys := s.simpleKeys.drop 1 } else s
  modify fun s => { s with simpleKeyAllowed := false }
  indicator kind

def fetchFlowEntry : Scan Unit := do
  removeSimpleKey
  modify fun s => { s with simpleKeyAllowed := true }
  indicator .flowEntry

def fetchBlockEntry : Scan Unit := do
  let s ← get
  if s.flowLevel == 0 then
    if !s.simpleKeyAllowed then scanError s.mark "block sequence entries are not allowed in this context"
    rollIndent s.mark.column none .blockSequenceStart s.mark
  removeSimpleKey
  modify fun s => { s with simpleKeyAllowed := true }
  indicator .blockEntry

def fetchKey : Scan Unit := do
  let s ← get
  if s.flowLevel == 0 then
    if !s.simpleKeyAllowed then scanError s.mark "mapping keys are not allowed in this context"
    rollIndent s.mark.column none .blockMappingStart s.mark
  removeSimpleKey
  modify fun s => { s with simpleKeyAllowed := s.flowLevel == 0 }
  indicator .key

/-- Scans `:`. After a simple key on the same line it inserts the key token (and opens a block
mapping at the key's column when that is deeper); otherwise, in block context, it needs a
place where a key could have started. -/
def fetchValue : Scan Unit := do
  let s ← get
  let k := s.simpleKeys.headD ⟨false, false, 0, {}⟩
  if ← keyValid k then
    let s ← get
    set { s with queue := insertAt s.queue (k.number - s.taken) (Token.mk .key k.mark k.mark) }
    rollIndent k.mark.column (some k.number) .blockMappingStart k.mark
    modify fun s => { s with
      simpleKeys := (match s.simpleKeys with
        | k :: ks => { k with possible := false } :: ks
        | [] => []),
      simpleKeyAllowed := false }
  else
    let s ← get
    if s.flowLevel == 0 then
      if !s.simpleKeyAllowed then scanError s.mark "mapping values are not allowed in this context"
      rollIndent s.mark.column none .blockMappingStart s.mark
    modify fun s => { s with simpleKeyAllowed := s.flowLevel == 0 }
  indicator .value

def startsPlain (flow : Bool) (c : Char) (next : Option Char) : Bool :=
  !(isBlank c || isBreak c || "-?:,[]{}#&*!|>'\"%@`".toList.contains c) ||
    (c = '-' && !((next.map isBlank).getD false)) ||
    (!flow && (c = '?' || c = ':') && !blankOrEnd next)

/-- Scans the next token, after closing the blocks that the new position leaves. -/
def fetchNext : Scan Unit := do
  let s ← get
  if !s.started then
    set { s with started := true, simpleKeyAllowed := true }
    modify fun s => { s with simpleKeys := [⟨false, false, 0, s.mark⟩] }
    pushToken .streamStart s.mark s.mark
    return
  let scanMark := s.mark
  skipToToken (← budget)
  unrollIndent (← get).mark.column scanMark ((← get).indents.length + 1)
  lookAhead 3
  let s ← get
  match s.rest with
  | [] => do
    if s.mark.column != 0 then
      set { s with mark := { s.mark with column := 0, line := s.mark.line + 1 } }
    unrollIndent (-1) (← get).mark ((← get).indents.length + 1)
    removeSimpleKey
    modify fun s => { s with simpleKeyAllowed := false }
    let m := (← get).mark
    pushToken .streamEnd m m
  | c :: r =>
    let next := r.head?
    let flow := s.flowLevel > 0
    let marker := s.mark.column == 0 && blankOrEnd r[2]?
    if s.mark.column == 0 && c = '%' then fetchDirective
    else if marker && c = '-' && r.take 2 == ['-', '-'] then fetchDocumentMarker .documentStart
    else if marker && c = '.' && r.take 2 == ['.', '.'] then fetchDocumentMarker .documentEnd
    else if c = '[' then fetchFlowStart .flowSequenceStart
    else if c = '{' then fetchFlowStart .flowMappingStart
    else if c = ']' then fetchFlowEnd .flowSequenceEnd
    else if c = '}' then fetchFlowEnd .flowMappingEnd
    else if c = ',' then fetchFlowEntry
    else if c = '-' && blankOrEnd next then fetchBlockEntry
    else if c = '?' && (flow || blankOrEnd next) then fetchKey
    else if c = ':' && (flow || blankOrEnd next) then fetchValue
    else if c = '&' then fetchAnchor false
    else if c = '*' then fetchAnchor true
    else if c = '!' then fetchTag
    else if c = '|' && !flow then do
      removeSimpleKey
      modify fun s => { s with simpleKeyAllowed := true }
      scanBlockScalar true
    else if c = '>' && !flow then do
      removeSimpleKey
      modify fun s => { s with simpleKeyAllowed := true }
      scanBlockScalar false
    else if c = '\'' || c = '"' then do
      saveSimpleKey
      modify fun s => { s with simpleKeyAllowed := false }
      scanQuoted (c = '\'')
    else if startsPlain flow c next then do
      saveSimpleKey
      modify fun s => { s with simpleKeyAllowed := false }
      scanPlain
    else scanError s.mark "found character that cannot start any token"

/-- Scans until three tokens wait beyond those taken and the first of them cannot still turn
out to start a simple key. -/
def fetchMore : Nat → Scan Unit
  | 0 => pure ()
  | fuel + 1 => do
    let s ← get
    if s.queue.length ≥ 3 then
      match s.simpleKeys.find? fun k => k.possible && k.number == s.taken with
      | none => return
      | some k => if !(← keyValid k) then return
    fetchNext
    fetchMore fuel

def peekToken : Scan Token := do
  if !(← get).available then
    fetchMore (4 * (← budget) + 8)
    modify fun s => { s with available := true }
  match (← get).queue with
  | t :: _ => pure t
  | [] => let m := (← get).mark; pure ⟨.streamEnd, m, m⟩

def skipToken : Scan Unit :=
  modify fun s => { s with queue := s.queue.drop 1, taken := s.taken + 1, available := false }

end MiniLox.Yaml
