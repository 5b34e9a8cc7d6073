import MiniLox.Toml
import MiniLox.Yaml.Decode
import MiniLox.Log
import MiniLox.Path

/-!
# Configuration

The settings of the command line: the prompt, the history file, the colour mode (`auto` or
`never`), the log level, and whether to dump tokens and trees. They are read from a TOML file,
or a YAML one when its name ends in `.yaml` or `.yml`. Missing settings take defaults; then the
colour mode and the log level are checked.

TOML keys match settings exactly, else ignoring case; a key that matches none is refused after
reading. YAML keys must match exactly, and a YAML mapping may not repeat a key.
-/

set_option autoImplicit false

namespace MiniLox

inductive ConfigFormat where
  | toml
  | yaml
deriving DecidableEq, Repr

namespace ConfigFormat

def detect (path : String) : ConfigFormat :=
  let ext := String.ofList ((Path.extension path).toList.map Char.toLower)
  if ext = ".yaml" ∨ ext = ".yml" then .yaml else .toml

def name : ConfigFormat → String
  | .toml => "toml"
  | .yaml => "yaml"

end ConfigFormat

/-- The settings. `path` is the file they were read from, if any. -/
structure Config where
  prompt : String := ""
  historyFile : String := ""
  color : String := ""
  logLevel : String := ""
  dumpTokens : Bool := false
  dumpAst : Bool := false
  path : String := ""
deriving DecidableEq, Repr

/-- Why settings could not be had. -/
inductive ConfigFault where
  | toml (text : String)
  | yaml (text : String)
  | yamlValues (errors : List String)
  | unknownKey (key : String)
  | colorMode (mode : String)
  | logLevel (text why : String)
  | unreadable (path why : String)
  | inFile (path : String) (fault : ConfigFault)
deriving Repr

def ConfigFault.message : ConfigFault → String
  | .toml text => "TOML parse error: " ++ text
  | .yaml text => "YAML parse error: " ++ text
  | .yamlValues errors => "YAML parse error: yaml: unmarshal errors:\n  " ++ "\n  ".intercalate errors
  | .unknownKey key => "unknown config key " ++ Text.quote key
  | .colorMode mode => "invalid color mode " ++ Text.quote mode
  | .logLevel text why => "invalid log level " ++ Text.quote text ++ ": " ++ why
  | .unreadable path why => "read config " ++ path ++ ": " ++ why
  | .inFile path fault => "parse config " ++ path ++ ": " ++ fault.message

namespace Config

/-- Fills in what is missing: the prompt `> `, the history file `.rulox_history` in the home
directory (when there is one), colour `auto` and log level `warn`. -/
def withDefaults (home : Option String) (c : Config) : Config :=
  { c with
    prompt := if c.prompt.isEmpty then "> " else c.prompt
    historyFile := if c.historyFile.isEmpty then
        (match home with
          | some h => Path.join [h, ".rulox_history"]
          | none => "")
      else c.historyFile
    color := if c.color.isEmpty then "auto" else c.color
    logLevel := if c.logLevel.isEmpty then "warn" else c.logLevel }

def byDefault (home : Option String) : Config := ({} : Config).withDefaults home

/-- Checks the colour mode and the log level. -/
def validate (c : Config) : Except ConfigFault Unit := do
  if c.color ≠ "auto" ∧ c.color ≠ "never" then throw (.colorMode c.color)
  match Level.parse c.logLevel with
  | .ok _ => pure ()
  | .error why => throw (.logLevel c.logLevel why)

def level (c : Config) : Level :=
  match Level.parse c.logLevel with
  | .ok l => l
  | .error _ => Level.info

/-! ## Settings from TOML -/

def fieldNames : List (String × Bool) :=
  [("prompt", true), ("history_file", true), ("color", true), ("log_level", true),
   ("dump_tokens", false), ("dump_ast", false)]

def setText (c : Config) (field value : String) : Config :=
  if field = "prompt" then { c with prompt := value }
  else if field = "history_file" then { c with historyFile := value }
  else if field = "color" then { c with color := value }
  else if field = "log_level" then { c with logLevel := value }
  else c

def setFlag (c : Config) (field : String) (value : Bool) : Config :=
  if field = "dump_tokens" then { c with dumpTokens := value }
  else if field = "dump_ast" then { c with dumpAst := value }
  else c

def foldEq (a b : Char) : Bool :=
  let fold (c : Char) : Char :=
    if c.toNat = 0x17F then 's' else if c.toNat = 0x212A then 'k' else c.toLower
  fold a = fold b

/-- The setting a TOML key names: exactly, else the first one equal up to case. -/
def tomlField (key : String) : Option (String × Bool) :=
  match fieldNames.find? (·.1 = key) with
  | some f => some f
  | none => fieldNames.find? fun (name, _) =>
      name.length = key.length ∧ (name.toList.zip key.toList).all fun (a, b) => foldEq a b

/-- Takes the settings from a TOML document. A value of the wrong type is refused, naming the
line of its key when known; then the first key that named no setting is refused. -/
def ofToml (doc : Toml.Document) : Except ConfigFault Config := do
  let mut c : Config := {}
  let mut decoded : List String := []
  for (key, v) in doc.root do
    match tomlField key with
    | none => pure ()
    | some (field, isText) =>
      decoded := Toml.keyText [key] :: decoded
      let line := doc.lineOf [key]
      let fault (wanted : String) : ConfigFault :=
        let place := if line > 0 then "line " ++ toString line ++ " " else ""
        .toml ("toml: " ++ place ++ "(last key " ++ Text.quote (Toml.keyText [key]) ++
          "): incompatible types: TOML value has type " ++ v.typeName ++ "; destination has type " ++ wanted)
      match isText, v with
      | true, .string s => c := c.setText field s
      | true, _ => throw (fault "string")
      | false, .boolean b => c := c.setFlag field b
      | false, _ => throw (fault "boolean")
  match doc.ordered.find? fun k => !decoded.contains (Toml.keyText k) with
  | some k => throw (.unknownKey (Toml.keyText k))
  | none => pure c

/-! ## Settings from YAML -/

def yamlRecord : Yaml.Record :=
  ⟨fieldNames.map fun (name, isText) => (name, if isText then .text else .flag), "config.Config"⟩

/-- Takes the settings from a YAML document: the fields decoded, in order, unless a value did
not fit. -/
def ofYaml (doc : Yaml.Document) (fuel : Nat) : Except ConfigFault Config :=
  match Yaml.decodeRecord yamlRecord doc fuel with
  | .error e => .error (.yaml e)
  | .ok (settings, errors) =>
    if !errors.isEmpty then .error (.yamlValues errors)
    else .ok (settings.foldl (fun c (name, v) => match v with
      | .text s => c.setText name s
      | .flag b => c.setFlag name b) {})

/-! ## Reading settings -/

/-- Reads settings from a text in a format, fills in defaults and checks them. -/
def parse (home : Option String) (data : String) (format : ConfigFormat) : Except ConfigFault Config := do
  let c ← match format with
    | .yaml =>
      match Yaml.read data with
      | .ok doc => ofYaml doc (4 * data.length + 16)
      | .error text => throw (.yaml text)
    | .toml =>
      match Toml.read data with
      | .ok doc => ofToml doc
      | .error e => throw (.toml e.text)
  let c := c.withDefaults home
  c.validate
  pure c

end Config

end MiniLox
