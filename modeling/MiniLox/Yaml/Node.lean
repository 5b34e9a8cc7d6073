import MiniLox.Yaml.Scan
import MiniLox.Decimal.Reading

/-!
# YAML nodes

The parser pulls tokens from the scanner and builds the first document of the text as a tree
of nodes: scalars, sequences and mappings, each with its tag and the line (from 1) where it
starts, and aliases. A tag written before a node is expanded through the document's handles
(`!!` stands for `tag:yaml.org,2002:`, others come from `%TAG` directives) and kept in short form;
a node without one gets `!!str` when it is a quoted or block scalar, the tag its text reads as
when it is a plain one (`!!null`, `!!bool`, `!!int`, `!!float`, `!!timestamp` or `!!str`),
`!!seq` or `!!map` when it is a collection.

An anchor (`&name`) numbers its node; an alias (`*name`) refers to the latest anchor of that
name defined before it, which may be a collection that is still open around the alias. The
anchored nodes are kept beside the tree, by number.
-/

set_option autoImplicit false

namespace MiniLox.Yaml

/-- A node of a YAML document. Every node has a tag: the one written before it in short form
(`!!str` for `tag:yaml.org,2002:str`), else `!!str` for a quoted or block scalar, the tag its
text reads as for a plain one, `!!seq` and `!!map` for collections. An alias names an anchor and
holds the number of the anchor it refers to, and the position where it stands. -/
inductive Node where
  | scalar (value : String) (tag : String) (line : Nat)
  | sequence (items : List Node) (tag : String) (line : Nat)
  | mapping (pairs : List (Node × Node)) (tag : String) (line : Nat)
  | alias (name : String) (anchor : Nat) (line : Nat) (place : Nat)

def Node.line : Node → Nat
  | .scalar _ _ l | .sequence _ _ l | .mapping _ _ l | .alias _ _ l _ => l

def Node.tag : Node → String
  | .scalar _ t _ | .sequence _ t _ | .mapping _ t _ => t
  | .alias _ _ _ _ => ""

def Node.value : Node → String
  | .scalar v _ _ => v
  | .alias name _ _ _ => name
  | _ => ""

/-- The kind of a node, as a number: scalar, sequence, mapping, alias. Two keys of a mapping
are the same key when kind and text agree. -/
def Node.kind : Node → Nat
  | .scalar _ _ _ => 0
  | .sequence _ _ _ => 1
  | .mapping _ _ _ => 2
  | .alias _ _ _ _ => 3

/-! ## Tags of plain scalars -/

def digitsIn (base : Nat) (s : List Char) : Option Nat :=
  s.foldl (fun acc c => acc.bind fun n =>
    let d := if c.isDigit then c.toNat - '0'.toNat
      else if 'a' ≤ c.toLower ∧ c.toLower ≤ 'z' then c.toLower.toNat - 'a'.toNat + 10 else 99
    if d < base then some (base * n + d) else none) (some 0)

def unsignedValue (s : List Char) : Option Nat :=
  let (base, ds) := match s with
    | '0' :: b :: r =>
      if r.length ≥ 1 ∧ (b = 'x' ∨ b = 'X') then (16, r)
      else if r.length ≥ 1 ∧ (b = 'o' ∨ b = 'O') then (8, r)
      else if r.length ≥ 1 ∧ (b = 'b' ∨ b = 'B') then (2, r)
      else (8, b :: r)
    | '0' :: [] => (8, [])
    | r => (10, r)
  if s.isEmpty then none else
  match digitsIn base ds with
  | some n => if n < Nat.pow 2 64 then some n else none
  | none => none

def isInteger (s : List Char) : Bool :=
  match s with
  | '-' :: r => ((unsignedValue r).map fun n => decide (n ≤ Nat.pow 2 63)).getD false
  | '+' :: r => ((unsignedValue r).map fun n => decide (n < Nat.pow 2 63)).getD false
  | r => (unsignedValue r).isSome

def fitsBase (base : Nat) (s : List Char) : Bool :=
  match s with
  | '-' :: r => !r.isEmpty && ((digitsIn base r).map fun n => decide (n ≤ Nat.pow 2 63)).getD false
  | '+' :: r => !r.isEmpty && ((digitsIn base r).map fun n => decide (n < Nat.pow 2 63)).getD false
  | r => !r.isEmpty && ((digitsIn base r).map fun n => decide (n < Nat.pow 2 64)).getD false

def readsAsFloat (s : String) : Bool :=
  match Decimal.Numeral.read? s with
  | some n@(.finite _ _ _) => (n.toBits >>> 52) &&& 0x7FF != 0x7FF
  | some _ => true
  | none => false

def yamlFloatForm (s : List Char) : Bool :=
  let s := match s with | '-' :: r | '+' :: r => r | r => r
  let intPart := s.takeWhile Char.isDigit
  let s1 := s.drop intPart.length
  let mantissaOk : Option (List Char) :=
    if intPart.isEmpty then
      match s1 with
      | '.' :: r => let f := r.takeWhile Char.isDigit; if f.isEmpty then none else some (r.drop f.length)
      | _ => none
    else
      match s1 with
      | '.' :: r => some (r.dropWhile Char.isDigit)
      | r => some r
  match mantissaOk with
  | none => false
  | some [] => true
  | some (e :: r) =>
    if e = 'e' ∨ e = 'E' then
      let r := match r with | '-' :: t | '+' :: t => t | t => t
      !r.isEmpty && r.all Char.isDigit
    else false

def oneOrTwo (s : List Char) : Option (Nat × List Char) :=
  match s with
  | a :: b :: r =>
    if a.isDigit then
      if b.isDigit then some (10 * (a.toNat - 48) + (b.toNat - 48), r) else some (a.toNat - 48, b :: r)
    else none
  | [a] => if a.isDigit then some (a.toNat - 48, []) else none
  | [] => none

def exactlyTwo (s : List Char) : Option (Nat × List Char) :=
  match s with
  | a :: b :: r => if a.isDigit ∧ b.isDigit then some (10 * (a.toNat - 48) + (b.toNat - 48), r) else none
  | _ => none

def monthDays (year month : Nat) : Nat :=
  if month = 2 then (if year % 4 = 0 ∧ (year % 100 ≠ 0 ∨ year % 400 = 0) then 29 else 28)
  else if month = 4 ∨ month = 6 ∨ month = 9 ∨ month = 11 then 30 else 31

def shortDate (s : List Char) : Option (List Char) := do
  let y := s.take 4
  if !(y.length = 4 ∧ y.all Char.isDigit) then none
  let s ← match s.drop 4 with | '-' :: r => some r | _ => none
  let (m, s) ← oneOrTwo s
  let s ← match s with | '-' :: r => some r | _ => none
  let (d, s) ← oneOrTwo s
  let year := y.foldl (fun n c => 10 * n + (c.toNat - 48)) 0
  if 1 ≤ m ∧ m ≤ 12 ∧ 1 ≤ d ∧ d ≤ monthDays year m then some s else none

def shortTime (s : List Char) : Option (List Char) := do
  let (h, s) ← oneOrTwo s
  let s ← match s with | ':' :: r => some r | _ => none
  let (m, s) ← oneOrTwo s
  let s ← match s with | ':' :: r => some r | _ => none
  let (sec, s) ← oneOrTwo s
  let s := match s with
    | c :: d :: r => if (c = '.' ∨ c = ',') ∧ d.isDigit then r.dropWhile Char.isDigit else s
    | _ => s
  if h < 24 ∧ m < 60 ∧ sec < 60 then some s else none

def zone (s : List Char) : Option (List Char) :=
  match s with
  | 'Z' :: r => some r
  | c :: r =>
    if c = '+' ∨ c = '-' then do
      let (h, r) ← exactlyTwo r
      let r ← match r with | ':' :: t => some t | _ => none
      let (m, r) ← exactlyTwo r
      if h ≤ 24 ∧ m ≤ 60 then some r else none
    else none
  | [] => none

def isTimestamp (s : List Char) : Bool :=
  let lead := s.takeWhile Char.isDigit
  if lead.length ≠ 4 ∨ s[4]? ≠ some '-' then false else
  let whole (r : Option (List Char)) : Bool := r == some []
  match shortDate s with
  | none => false
  | some [] => true
  | some (c :: r) =>
    if c = 'T' ∨ c = 't' then whole ((shortTime r).bind zone)
    else if c = ' ' then whole (shortTime r)
    else false

/-- The tag that a plain scalar's text reads as. Dates count only where `timestamps` allows
them; `<<` is an ordinary text here. -/
def plainTag (timestamps : Bool) (v : String) : String :=
  if ["true", "True", "TRUE", "false", "False", "FALSE"].contains v then "!!bool"
  else if ["", "~", "null", "Null", "NULL"].contains v then "!!null"
  else if [".nan", ".NaN", ".NAN", ".inf", ".Inf", ".INF", "+.inf", "+.Inf", "+.INF",
      "-.inf", "-.Inf", "-.INF"].contains v then "!!float"
  else
    let cs := v.toList
    match cs.head? with
    | some '.' => if readsAsFloat v then "!!float" else "!!str"
    | some c =>
      if c.isDigit ∨ c = '+' ∨ c = '-' then
        let plain := cs.filter (· != '_')
        if timestamps && isTimestamp cs then "!!timestamp"
        else if isInteger plain then "!!int"
        else if yamlFloatForm plain ∧ readsAsFloat (String.ofList plain) then "!!float"
        else match plain with
          | '0' :: 'b' :: r => if fitsBase 2 r then "!!int" else "!!str"
          | '-' :: '0' :: 'b' :: r => if fitsBase 2 ('-' :: r) then "!!int" else "!!str"
          | '0' :: 'o' :: r => if fitsBase 8 r then "!!int" else "!!str"
          | '-' :: '0' :: 'o' :: r => if fitsBase 8 ('-' :: r) then "!!int" else "!!str"
          | _ => "!!str"
      else "!!str"
    | none => "!!str"

def shortTag (t : String) : String :=
  let long := "tag:yaml.org,2002:".toList
  if long.isPrefixOf t.toList then "!!" ++ String.ofList (t.toList.drop long.length) else t

/-- The tag of a scalar written with `tag` (empty when none was written). The tag `!` counts as
none. A plain `<<` is a merge key. -/
def scalarTag (tag : String) (plain : Bool) (v : String) : String :=
  if tag ≠ "" ∧ tag ≠ "!" then shortTag tag
  else if !plain then "!!str"
  else if v = "<<" then "!!merge"
  else plainTag true v

def collectionTag (tag default : String) : String :=
  if tag ≠ "" ∧ tag ≠ "!" then shortTag tag else default

/-! ## Parsing -/

/-- What the parser keeps besides the scanner's state: the tag handles in force with what they
stand for, the anchors defined so far (the latest first) with their numbers, and the nodes of
the anchors, by number, once complete. -/
structure Builder where
  handles : List (String × String) := []
  names : List (String × Nat) := []
  anchored : List (Nat × Node) := []
  count : Nat := 0

abbrev Parse := StateT Builder Scan

def parseError {α : Type} (context problem : Mark) (msg : String) : Scan α := do
  throw ⟨false, context, problem, msg, (← get).reach⟩

def emptyAt (m : Mark) : Node := .scalar "" "!!null" (m.line + 1)

def nextIs (kinds : List TokenKind) : Parse Bool := do
  pure (kinds.contains (← peekToken).kind)

def properties : Parse (Option String × Option (String × String × Mark) × Mark) := do
  let t ← peekToken
  match t.kind with
  | .anchor a => do
    skipToken
    let t2 ← peekToken
    match t2.kind with
    | .tag h s => do skipToken; pure (some a, some (h, s, t2.start), t.start)
    | _ => pure (some a, none, t.start)
  | .tag h s => do
    skipToken
    let t2 ← peekToken
    match t2.kind with
    | .anchor a => do skipToken; pure (some a, some (h, s, t.start), t.start)
    | _ => pure (none, some (h, s, t.start), t.start)
  | _ => pure (none, none, t.start)

def fullTag (start : Mark) : Option (String × String × Mark) → Parse String
  | none => pure ""
  | some (handle, suffix, m) => do
    if handle.isEmpty then return suffix
    match (← get).handles.lookup handle with
    | some e => pure (e ++ suffix)
    | none => parseError start m "found undefined tag handle"

def defineAnchor : Option String → Parse (Option Nat)
  | none => pure none
  | some name => modifyGet fun b =>
    (some b.count, { b with names := (name, b.count) :: b.names, count := b.count + 1 })

def keepAnchored (k : Option Nat) (n : Node) : Parse Node := do
  if let some k := k then modify fun b => { b with anchored := (k, n) :: b.anchored }
  pure n

mutual

/-- Parses a node; in block context block collections may start here, and an indentless
sequence where `indentless` allows one. An anchor or a tag with no content after it stands
before an empty scalar. -/
def parseNode (block indentless : Bool) : Nat → Parse Node
  | 0 => do pure (emptyAt (← peekToken).start)
  | fuel + 1 => do
    let t ← peekToken
    if let .alias name := t.kind then
      skipToken
      match (← get).names.lookup name with
      | some k => return .alias name k (t.start.line + 1) t.start.index
      | none => throw ⟨false, {}, {}, "unknown anchor '" ++ name ++ "' referenced", (← getThe Scanner).reach⟩
    let (anchor, written, start) ← properties
    let tag ← fullTag start written
    let k ← defineAnchor anchor
    let line := start.line + 1
    let t ← peekToken
    let empty : Parse Node :=
      if anchor.isSome || !tag.isEmpty then pure (.scalar "" (scalarTag tag true "") line)
      else parseError start t.start "did not find expected node content"
    let node ← match t.kind with
      | .scalar v plain => do
        skipToken
        pure (.scalar v (scalarTag tag plain v) line)
      | .blockEntry =>
        if indentless then do
          pure (.sequence (← indentlessEntries fuel []) (collectionTag tag "!!seq") line)
        else empty
      | .flowSequenceStart => do
        skipToken
        pure (.sequence (← flowSequenceEntries t.start true fuel []) (collectionTag tag "!!seq") line)
      | .flowMappingStart => do
        skipToken
        pure (.mapping (← flowMappingEntries t.start true fuel []) (collectionTag tag "!!map") line)
      | .blockSequenceStart =>
        if block then do
          skipToken
          pure (.sequence (← blockSequenceEntries t.start fuel []) (collectionTag tag "!!seq") line)
        else empty
      | .blockMappingStart =>
        if block then do
          skipToken
          pure (.mapping (← blockMappingEntries t.start fuel []) (collectionTag tag "!!map") line)
        else empty
      | _ => empty
    keepAnchored k node

def blockSequenceEntries (start : Mark) : Nat → List Node → Parse (List Node)
  | 0, acc => pure acc
  | fuel + 1, acc => do
    let t ← peekToken
    match t.kind with
    | .blockEntry => do
      skipToken
      let item ← if ← nextIs [.blockEntry, .blockEnd] then pure (emptyAt t.stop)
        else parseNode true false fuel
      blockSequenceEntries start fuel (acc ++ [item])
    | .blockEnd => do skipToken; pure acc
    | _ => parseError start t.start "did not find expected '-' indicator"

def indentlessEntries : Nat → List Node → Parse (List Node)
  | 0, acc => pure acc
  | fuel + 1, acc => do
    let t ← peekToken
    match t.kind with
    | .blockEntry => do
      skipToken
      let item ← if ← nextIs [.blockEntry, .key, .value, .blockEnd] then pure (emptyAt t.stop)
        else parseNode true false fuel
      indentlessEntries fuel (acc ++ [item])
    | _ => pure acc

def blockMappingEntries (start : Mark) : Nat → List (Node × Node) → Parse (List (Node × Node))
  | 0, acc => pure acc
  | fuel + 1, acc => do
    let t ← peekToken
    match t.kind with
    | .key => do
      skipToken
      let k ← if ← nextIs [.key, .value, .blockEnd] then pure (emptyAt t.stop)
        else parseNode true true fuel
      let v ← blockMappingValue fuel
      blockMappingEntries start fuel (acc ++ [(k, v)])
    | .blockEnd => do skipToken; pure acc
    | _ => parseError start t.start "did not find expected key"

def blockMappingValue : Nat → Parse Node
  | 0 => do pure (emptyAt (← peekToken).start)
  | fuel + 1 => do
    let t ← peekToken
    match t.kind with
    | .value => do
      skipToken
      if ← nextIs [.key, .value, .blockEnd] then pure (emptyAt t.stop) else parseNode true true fuel
    | _ => pure (emptyAt t.start)

def flowSequenceEntries (start : Mark) (first : Bool) : Nat → List Node → Parse (List Node)
  | 0, acc => pure acc
  | fuel + 1, acc => do
    let t ← peekToken
    if t.kind == .flowSequenceEnd then do skipToken; return acc
    let t ← if first then pure t
      else if t.kind == .flowEntry then do skipToken; peekToken
      else parseError start t.start "did not find expected ',' or ']'"
    match t.kind with
    | .key => do
      skipToken
      let k ← do
        let t2 ← peekToken
        if [TokenKind.value, .flowEntry, .flowSequenceEnd].contains t2.kind then do
          skipToken; pure (emptyAt t2.stop)
        else parseNode false false fuel
      let v ← do
        let t3 ← peekToken
        if t3.kind == .value then do
          skipToken
          let t4 ← peekToken
          if [TokenKind.flowEntry, .flowSequenceEnd].contains t4.kind then pure (emptyAt t4.start)
          else parseNode false false fuel
        else pure (emptyAt t3.start)
      flowSequenceEntries start false fuel (acc ++ [.mapping [(k, v)] "!!map" (t.start.line + 1)])
    | .flowSequenceEnd => do skipToken; pure acc
    | _ => do
      let item ← parseNode false false fuel
      flowSequenceEntries start false fuel (acc ++ [item])

def flowMappingEntries (start : Mark) (first : Bool) :
    Nat → List (Node × Node) → Parse (List (Node × Node))
  | 0, acc => pure acc
  | fuel + 1, acc => do
    let t ← peekToken
    if t.kind == .flowMappingEnd then do skipToken; return acc
    let t ← if first then pure t
      else if t.kind == .flowEntry then do skipToken; peekToken
      else parseError start t.start "did not find expected ',' or '\x7d'"
    match t.kind with
    | .key => do
      skipToken
      let t2 ← peekToken
      let k ← if [TokenKind.value, .flowEntry, .flowMappingEnd].contains t2.kind then pure (emptyAt t2.start)
        else parseNode false false fuel
      let v ← flowMappingValue fuel
      flowMappingEntries start false fuel (acc ++ [(k, v)])
    | .flowMappingEnd => do skipToken; pure acc
    | _ => do
      let k ← parseNode false false fuel
      let v := emptyAt (← peekToken).start
      flowMappingEntries start false fuel (acc ++ [(k, v)])

def flowMappingValue : Nat → Parse Node
  | 0 => do pure (emptyAt (← peekToken).start)
  | fuel + 1 => do
    let t ← peekToken
    if t.kind == .value then do
      skipToken
      let t2 ← peekToken
      if [TokenKind.flowEntry, .flowMappingEnd].contains t2.kind then pure (emptyAt t2.start)
      else parseNode false false fuel
    else pure (emptyAt t.start)

end

def defaultHandles : List (String × String) := [("!", "!"), ("!!", "tag:yaml.org,2002:")]

def TokenKind.isDirective : TokenKind → Bool
  | .versionDirective _ _ | .tagDirective _ _ => true
  | _ => false

/-- Reads the directives before a document. A `%YAML` directive may appear once and must ask for
version 1.1; a handle may be declared once. The default handles follow the declared ones, unless
a declared one takes their name. -/
def readDirectives : Nat → Bool → List (String × String) → Parse Unit
  | fuel + 1, seenVersion, hs => do
    let t ← peekToken
    match t.kind with
    | .versionDirective major minor =>
      if seenVersion then parseError {} t.start "found duplicate %YAML directive"
      if major ≠ 1 ∨ minor ≠ 1 then parseError {} t.start "found incompatible YAML document"
      skipToken
      readDirectives fuel true hs
    | .tagDirective h e =>
      if hs.any (·.1 == h) then parseError {} t.start "found duplicate %TAG directive"
      skipToken
      readDirectives fuel seenVersion (hs ++ [(h, e)])
    | _ =>
      modify fun b => { b with handles := hs ++ defaultHandles.filter fun d => !hs.any (·.1 == d.1) }
  | 0, _, hs =>
    modify fun b => { b with handles := hs ++ defaultHandles.filter fun d => !hs.any (·.1 == d.1) }

/-- Parses the first document of the stream; `none` when there is none. A document with
directives must open with `---`. -/
def parseDocument (fuel : Nat) : Parse (Option Node) := do
  let _ ← peekToken
  skipToken
  let t ← peekToken
  if t.kind == .streamEnd then return none
  let explicit := t.kind.isDirective || t.kind == .documentStart
  readDirectives fuel false []
  let content ← if explicit then do
      let t ← peekToken
      if t.kind != .documentStart then parseError {} t.start "did not find expected <document start>"
      skipToken
      let t2 ← peekToken
      if t2.kind.isDirective || [TokenKind.documentStart, .documentEnd, .streamEnd].contains t2.kind then
        pure (emptyAt t2.start)
      else parseNode true false fuel
    else parseNode true false fuel
  if (← peekToken).kind == .documentEnd then skipToken
  pure (some content)

def isAllowed (c : Char) : Bool :=
  let n := c.toNat
  n = 0x09 || n = 0x0A || n = 0x0D || (0x20 ≤ n && n ≤ 0x7E) || n = 0x85 ||
    (0xA0 ≤ n && n ≤ 0xD7FF) || (0xE000 ≤ n && n ≤ 0xFFFD) || (0x10000 ≤ n && n ≤ 0x10FFFF)

/-- A parsed document: its root node (`none` for a text with no document) and the nodes that
anchors name, by number. -/
structure Document where
  root : Option Node
  anchored : List (Nat × Node)

/-- The text is taken in by blocks of this many bytes, and each block is checked whole when the
reader first needs a character of it. -/
def blockSize : Nat := 512

def takenIn (offset : Nat) (cs : List Char) (reach : Nat) : Nat :=
  if reach < cs.length then
    let stop := (cs.take (reach + 1)).foldl (fun n c => n + c.utf8Size) offset
    blockSize * ((stop + blockSize - 1) / blockSize)
  else cs.foldl (fun n c => n + c.utf8Size) offset

def refusedWithin (limit : Nat) : Nat → List Char → Bool
  | _, [] => false
  | offset, c :: r =>
    let stop := offset + c.utf8Size
    stop ≤ limit && (!isAllowed c || refusedWithin limit stop r)

/-- Reads the first document of a YAML text into nodes. A character that YAML refuses stops
reading once the reader takes in its block, whatever the document would have been; beyond the
blocks that reading the first document needed, it does not matter. -/
def read (text : String) : Except String Document :=
  let (offset, cs) := match text.toList with
    | c :: r => if c.toNat = 0xFEFF then (3, r) else (0, c :: r)
    | [] => (0, [])
  let refused (reach : Nat) := refusedWithin (takenIn offset cs reach) offset cs
  match ((parseDocument (4 * cs.length + 16)).run {}).run { rest := cs } with
  | .ok ((root, b), s) =>
    if refused s.reach then .error "yaml: control characters are not allowed"
    else .ok ⟨root, b.anchored⟩
  | .error p => if refused p.reach then .error "yaml: control characters are not allowed" else .error p.text

end MiniLox.Yaml
