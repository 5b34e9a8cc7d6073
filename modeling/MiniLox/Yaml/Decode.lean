import MiniLox.Yaml.Node
import MiniLox.Text.Quoted
import MiniLox.Text.Utf8

/-!
# Decoding YAML into a record

A record has named fields, each holding a text or a flag. Decoding a document into one follows
aliases to the nodes their anchors name and reads each scalar under its tag. A value that does
not fit where it goes is a type error; the errors are collected and decoding goes on. Some
faults stop decoding at once: a scalar that its written tag refuses, `!!binary` text that is no
base64, an alias met again inside itself, and a merge of something that is no mapping.

A mapping merges the mappings under its `<<` key after its own pairs, so its own keys win; of
several merged mappings the first that sets a key wins.
-/

set_option autoImplicit false

namespace MiniLox.Yaml

inductive Slot where
  | text | flag
deriving DecidableEq, Repr

inductive Setting where
  | text (s : String)
  | flag (b : Bool)
deriving DecidableEq, Repr

/-- What a scalar stands for once read under its tag: nothing, a boolean, a text, or another
kind of value (a number or a date). -/
inductive Reading where
  | null
  | bool (b : Bool)
  | text (s : String)
  | other
deriving DecidableEq, Repr

/-! ## Base64 -/

def base64Value (c : Char) : Option Nat :=
  if 'A' ≤ c ∧ c ≤ 'Z' then some (c.toNat - 'A'.toNat)
  else if 'a' ≤ c ∧ c ≤ 'z' then some (c.toNat - 'a'.toNat + 26)
  else if '0' ≤ c ∧ c ≤ '9' then some (c.toNat - '0'.toNat + 52)
  else if c = '+' then some 62 else if c = '/' then some 63 else none

def base64Groups : List Char → Option (List Nat)
  | [] => some []
  | [a, b, '=', '='] => do
    let n := (← base64Value a) * 64 + (← base64Value b)
    pure [n / 16]
  | [a, b, c, '='] => do
    let n := ((← base64Value a) * 64 + (← base64Value b)) * 64 + (← base64Value c)
    pure [n / 1024, n / 4 % 256]
  | a :: b :: c :: d :: rest => do
    let n := (((← base64Value a) * 64 + (← base64Value b)) * 64 + (← base64Value c)) * 64 +
      (← base64Value d)
    pure ([n / 65536, n / 256 % 256, n % 256] ++ (← base64Groups rest))
  | _ => none

def base64Decode (s : String) : Option (List Nat) :=
  base64Groups (s.toList.filter fun c => c ≠ '\n' ∧ c ≠ '\r')

/-! ## Scalars -/

def checkedTags : List String := ["!!bool", "!!int", "!!float", "!!null", "!!timestamp"]

/-- Reads a scalar's text under its tag. A checked tag must agree with what the text reads as
(an integer also reads as a float); `!!binary` text is base64; under any other tag the text is
a text. -/
def readScalar (tag v : String) : Except String Reading :=
  if tag = "!!str" then .ok (.text v)
  else if tag = "!!binary" then
    match base64Decode v with
    | some bs => .ok (.text (Text.bytesText bs))
    | none => .error "yaml: !!binary value contains invalid base64 data"
  else if !checkedTags.contains tag then .ok (.text v)
  else
    let r := plainTag (tag = "!!timestamp") v
    if r = tag ∨ (tag = "!!float" ∧ r = "!!int") then
      .ok (if r = "!!null" then .null
        else if r = "!!bool" then .bool (v = "true" ∨ v = "True" ∨ v = "TRUE")
        else if r = "!!str" then .text v
        else .other)
    else .error ("yaml: cannot decode " ++ r ++ " `" ++ v ++ "` as a " ++ tag)

def yesWords : List String := ["y", "Y", "yes", "Yes", "YES", "on", "On", "ON"]

def noWords : List String := ["n", "N", "no", "No", "NO", "off", "Off", "OFF"]

/-- The type error for a node that does not fit a destination: its line, its tag, its text
unless it is a collection (cut to seven bytes and `...` past ten), and the destination. -/
def misfit (n : Node) (into : String) : String :=
  let shown :=
    if n.tag = "!!seq" ∨ n.tag = "!!map" then ""
    else
      let bs := Text.textBytes n.value
      if bs.length > 10 then " `" ++ Text.bytesText (bs.take 7) ++ "...`" else " `" ++ n.value ++ "`"
  "line " ++ toString n.line ++ ": cannot unmarshal " ++ n.tag ++ shown ++ " into " ++ into

def repeatedKeys (pairs : List (Node × Node)) : List String :=
  let keys := pairs.map (·.1)
  (List.range keys.length).flatMap fun i =>
    let k := keys.getD i (.scalar "" "" 0)
    ((keys.drop (i + 1)).filter fun l => l.kind == k.kind && l.value == k.value).map fun l =>
      "line " ++ toString l.line ++ ": mapping key " ++ Text.quote l.value ++
        " already defined at line " ++ toString k.line

def isMergeKey : Node → Bool
  | .scalar "<<" "!!merge" _ => true
  | _ => false

/-! ## Decoding -/

/-- What decoding keeps: the fields set so far, in order, the type errors found, and while a
merge is under way the keys already taken. -/
structure Decoder where
  settings : List (String × Setting) := []
  errors : List String := []
  merged : Option (List String) := none

abbrev Decode := StateT Decoder (Except String)

/-- The record decoded into: its fields with what each holds, and the name of its type. -/
structure Record where
  fields : List (String × Slot)
  typeName : String

def typeError (e : String) : Decode Unit := modify fun d => { d with errors := d.errors ++ [e] }

def checkKeys (pairs : List (Node × Node)) : Decode Bool := do
  let repeated := repeatedKeys pairs
  modify fun d => { d with errors := d.errors ++ repeated }
  pure !repeated.isEmpty

def follow (anchored : List (Nat × Node)) (visited : List Nat) :
    Node → Except String (Node × List Nat)
  | .alias name k _ place =>
    if visited.contains place then .error ("yaml: anchor '" ++ name ++ "' value contains itself")
    else .ok ((anchored.lookup k).getD (.scalar "" "!!null" 0), place :: visited)
  | n => .ok (n, visited)

/-- Decodes a node into a text: a scalar's text (base64 decoded under `!!binary`), nothing for a
null; a collection does not fit. -/
def toText (anchored : List (Nat × Node)) (visited : List Nat) (n : Node) :
    Decode (Option String) := do
  let (n, _) ← follow anchored visited n
  match n with
  | .scalar v tag _ =>
    match ← readScalar tag v with
    | .null => pure none
    | .text s => pure (some s)
    | _ => pure (some v)
  | .mapping pairs _ _ => do
    if !(← checkKeys pairs) then typeError (misfit n "string")
    pure none
  | _ => do typeError (misfit n "string"); pure none

/-- Decodes a node into a flag: a boolean, or a text that is a yes or no word; nothing for a
null. -/
def toFlag (anchored : List (Nat × Node)) (visited : List Nat) (n : Node) :
    Decode (Option Bool) := do
  let (n, _) ← follow anchored visited n
  match n with
  | .scalar v tag _ =>
    match ← readScalar tag v with
    | .null => pure none
    | .bool b => pure (some b)
    | .text s =>
      if yesWords.contains s then pure (some true)
      else if noWords.contains s then pure (some false)
      else do typeError (misfit n "bool"); pure none
    | .other => do typeError (misfit n "bool"); pure none
  | .mapping pairs _ _ => do
    if !(← checkKeys pairs) then typeError (misfit n "bool")
    pure none
  | _ => do typeError (misfit n "bool"); pure none

def keyText (anchored : List (Nat × Node)) (visited : List Nat) (n : Node) :
    Except String (Option String) := do
  let (n, _) ← follow anchored visited n
  match n with
  | .scalar v tag _ =>
    match ← readScalar tag v with
    | .text s => pure (some s)
    | _ => pure none
  | _ => pure none

def setField (anchored : List (Nat × Node)) (visited : List Nat) (name : String) :
    Slot → Node → Decode Unit
  | .text, v => do
    if let some s ← toText anchored visited v then
      modify fun d => { d with settings := d.settings ++ [(name, .text s)] }
  | .flag, v => do
    if let some b ← toFlag anchored visited v then
      modify fun d => { d with settings := d.settings ++ [(name, .flag b)] }

def pairFields (r : Record) (anchored : List (Nat × Node)) (visited : List Nat) :
    List (Node × Node) → List String → Option (List String) → Decode (Option (List String))
  | [], _, taken => pure taken
  | (k, v) :: rest, done, taken => do
    match ← toText anchored visited k with
    | none => pairFields r anchored visited rest done taken
    | some name =>
      if (taken.map (·.contains name)).getD false then
        pairFields r anchored visited rest done taken
      else
        let taken := taken.map (· ++ [name])
        match r.fields.lookup name with
        | some slot =>
          if done.contains name then do
            typeError ("line " ++ toString k.line ++ ": field " ++ name ++ " already set in type " ++
              r.typeName)
            pairFields r anchored visited rest done taken
          else do
            setField anchored visited name slot v
            pairFields r anchored visited rest (name :: done) taken
        | none => do
          typeError ("line " ++ toString k.line ++ ": field " ++ name ++ " not found in type " ++
            r.typeName)
          pairFields r anchored visited rest done taken

def mapsTo (anchored : List (Nat × Node)) : Node → Bool
  | .mapping _ _ _ => true
  | .alias _ k _ _ => match anchored.lookup k with
    | some (.mapping _ _ _) => true
    | _ => false
  | _ => false

def mergeFault : String := "yaml: map merge requires map or sequence of maps as the value"

mutual

/-- Decodes a node into the record: a mapping's pairs set fields; a null leaves the record as it
is; anything else does not fit. -/
def intoRecord (r : Record) (anchored : List (Nat × Node)) : Nat → List Nat → Node → Decode Unit
  | 0, _, _ => pure ()
  | fuel + 1, visited, n => do
    let (n, visited) ← follow anchored visited n
    match n with
    | .scalar v tag _ =>
      if (← readScalar tag v) != .null then typeError (misfit n r.typeName)
    | .mapping pairs _ _ =>
      if !(← checkKeys pairs) then recordPairs r anchored fuel visited pairs
    | _ => typeError (misfit n r.typeName)

def recordPairs (r : Record) (anchored : List (Nat × Node)) :
    Nat → List Nat → List (Node × Node) → Decode Unit
  | 0, _, _ => pure ()
  | fuel + 1, visited, pairs => do
    let taken := (← get).merged
    modify fun d => { d with merged := none }
    let own := pairs.filter fun p => !isMergeKey p.1
    let taken ← pairFields r anchored visited own [] taken
    modify fun d => { d with merged := taken }
    match (pairs.filter fun p => isMergeKey p.1).getLast? with
    | some (_, m) => mergeInto r anchored fuel visited pairs m
    | none => pure ()

/-- Merges a mapping, an alias of one, or a sequence of them into the record. Keys of the
mapping that holds the merge key, and of mappings merged before, are taken already. -/
def mergeInto (r : Record) (anchored : List (Nat × Node)) :
    Nat → List Nat → List (Node × Node) → Node → Decode Unit
  | 0, _, _, _ => pure ()
  | fuel + 1, visited, parent, m => do
    let saved := (← get).merged
    if saved.isNone then
      let keys ← parent.filterMapM fun p => keyText anchored visited p.1
      modify fun d => { d with merged := some keys }
    match m with
    | .mapping _ _ _ => intoRecord r anchored fuel visited m
    | .alias _ _ _ _ =>
      if mapsTo anchored m then intoRecord r anchored fuel visited m else throw mergeFault
    | .sequence items _ _ => mergeItems r anchored fuel visited items
    | _ => throw mergeFault
    modify fun d => { d with merged := saved }

def mergeItems (r : Record) (anchored : List (Nat × Node)) :
    Nat → List Nat → List Node → Decode Unit
  | 0, _, _ => pure ()
  | _, _, [] => pure ()
  | fuel + 1, visited, item :: rest => do
    if !mapsTo anchored item then throw mergeFault
    intoRecord r anchored fuel visited item
    mergeItems r anchored fuel visited rest

end

/-- Decodes a document into a record: the fields set, in order, and the type errors; or the
fault that stopped decoding. -/
def decodeRecord (r : Record) (doc : Document) (fuel : Nat) :
    Except String (List (String × Setting) × List String) :=
  match doc.root with
  | none => .ok ([], [])
  | some n =>
    match (intoRecord r doc.anchored fuel [] n).run {} with
    | .ok (_, d) => .ok (d.settings, d.errors)
    | .error e => .error e

end MiniLox.Yaml
