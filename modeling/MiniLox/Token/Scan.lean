import MiniLox.Token
import MiniLox.Decimal.Reading
import MiniLox.Text.Letter

/-!
# Scanning source text

`scan` reads a source text from the front, longest lexeme first: blanks and `//` comments are
skipped and a line feed starts a new line; a number is digits with an optional fraction; a
string runs to the next double quote and may span lines; an identifier starts with a letter or
`_` and goes on with letters, `_` and digits, and is a keyword when it spells one; an operator
is one of the two-character operators `!=`, `==`, `>=`, `<=` when it can be, else one
character. A string without its closing quote and a character that starts nothing are faults;
scanning goes on after both. The token list always ends with one end-of-input token.
-/

set_option autoImplicit false

namespace MiniLox

/-- What can go wrong while scanning. -/
inductive LexFault where
  | unterminatedString
  | unexpectedChar
deriving DecidableEq, Repr

def LexFault.message : LexFault → String
  | .unterminatedString => "Unterminated string."
  | .unexpectedChar => "Unexpected character."

/-- A scanning fault and the line it was found on. -/
structure LexError where
  line : Int
  fault : LexFault
deriving DecidableEq, Repr

namespace Scan

def keyword? : String → Option TokenKind
  | "and" => some .andKw | "class" => some .classKw | "else" => some .elseKw
  | "false" => some .falseKw | "fun" => some .funKw | "for" => some .forKw
  | "if" => some .ifKw | "nil" => some .nilKw | "or" => some .orKw
  | "print" => some .printKw | "return" => some .returnKw | "super" => some .superKw
  | "this" => some .thisKw | "true" => some .trueKw | "var" => some .varKw
  | "while" => some .whileKw
  | _ => none

def isIdentStart (c : Char) : Bool := c == '_' || Text.isLetter c

def isIdentChar (c : Char) : Bool := isIdentStart c || c.isDigit

def singleKind? : Char → Option TokenKind
  | '(' => some .leftParen | ')' => some .rightParen | '{' => some .leftBrace
  | '}' => some .rightBrace | ',' => some .comma | '.' => some .dot | '-' => some .minus
  | '+' => some .plus | ';' => some .semicolon | '/' => some .slash | '*' => some .star
  | '!' => some .bang | '=' => some .equal | '>' => some .greater | '<' => some .less
  | _ => none

def pairKind? : Char → Char → Option TokenKind
  | '!', '=' => some .bangEqual
  | '=', '=' => some .equalEqual
  | '>', '=' => some .greaterEqual
  | '<', '=' => some .lessEqual
  | _, _ => none

def digitsValue (ds : List Char) : Nat :=
  ds.foldl (fun n d => 10 * n + (d.toNat - '0'.toNat)) 0

def numberValue (whole frac : List Char) : Float :=
  Float.ofBits (Decimal.nearestBits (digitsValue (whole ++ frac)) (Nat.pow 10 frac.length))

theorem length_dropWhile_le (p : Char → Bool) : ∀ l : List Char, (l.dropWhile p).length ≤ l.length
  | [] => Nat.le_refl _
  | c :: cs => by
    rw [List.dropWhile_cons]
    split
    · exact Nat.le_succ_of_le (length_dropWhile_le p cs)
    · exact Nat.le_refl _

def emit (t : Token) (r : List Token × List LexError) : List Token × List LexError :=
  (t :: r.1, r.2)

def fail (e : LexError) (r : List Token × List LexError) : List Token × List LexError :=
  (r.1, e :: r.2)

/-- Scans from the given line on: the tokens, ending with the end-of-input token, and the
faults, each in the order met. -/
def tokensFrom (line : Nat) (input : List Char) : List Token × List LexError :=
  match input with
  | [] => ([⟨.eof, "", .absent, line⟩], [])
  | c :: cs =>
    if c = '\n' then tokensFrom (line + 1) cs
    else if c = ' ' ∨ c = '\t' ∨ c = '\r' then tokensFrom line cs
    else if c.isDigit then
      let whole := c :: cs.takeWhile Char.isDigit
      let number (frac : List Char) : Token :=
        let text := if frac.isEmpty then whole else whole ++ '.' :: frac
        ⟨.number, String.ofList text, .number (numberValue whole frac), line⟩
      match _hr : cs.dropWhile Char.isDigit with
      | '.' :: d :: more =>
        if d.isDigit then
          emit (number (d :: more.takeWhile Char.isDigit))
            (tokensFrom line (more.dropWhile Char.isDigit))
        else emit (number []) (tokensFrom line ('.' :: d :: more))
      | rest => emit (number []) (tokensFrom line rest)
    else if c = '"' then
      let body := cs.takeWhile (· != '"')
      let endLine := line + body.count '\n'
      match _hr : cs.dropWhile (· != '"') with
      | [] => fail ⟨endLine, .unterminatedString⟩ (tokensFrom endLine [])
      | _ :: rest =>
        emit ⟨.string, String.ofList ('"' :: body ++ ['"']), .text (String.ofList body), endLine⟩
          (tokensFrom endLine rest)
    else if isIdentStart c then
      let word := String.ofList (c :: cs.takeWhile isIdentChar)
      let t : Token := match keyword? word with
        | some k => ⟨k, word, .absent, line⟩
        | none => ⟨.identifier, word, .text word, line⟩
      emit t (tokensFrom line (cs.dropWhile isIdentChar))
    else if c = '/' ∧ cs.head? = some '/' then tokensFrom line (cs.dropWhile (· != '\n'))
    else
      match _hr : cs with
      | d :: more =>
        match pairKind? c d with
        | some k => emit ⟨k, String.ofList [c, d], .absent, line⟩ (tokensFrom line more)
        | none =>
          match singleKind? c with
          | some k => emit ⟨k, String.singleton c, .absent, line⟩ (tokensFrom line cs)
          | none => fail ⟨line, .unexpectedChar⟩ (tokensFrom line cs)
      | [] =>
        match singleKind? c with
        | some k => emit ⟨k, String.singleton c, .absent, line⟩ (tokensFrom line [])
        | none => fail ⟨line, .unexpectedChar⟩ (tokensFrom line [])
termination_by input.length
decreasing_by
  all_goals simp only [List.length_cons, List.length_nil]
  all_goals first
    | omega
    | (have k := length_dropWhile_le Char.isDigit cs; rw [_hr] at k
       have k2 := length_dropWhile_le Char.isDigit more; simp only [List.length_cons] at *; omega)
    | (have k := length_dropWhile_le Char.isDigit cs; rw [_hr] at k; omega)
    | (have k := length_dropWhile_le (· != '"') cs; rw [_hr] at k
       simp only [List.length_cons] at *; omega)
    | (have k := length_dropWhile_le isIdentChar cs; omega)
    | (have k := length_dropWhile_le (· != '\n') cs; omega)
    | (subst _hr; simp only [List.length_cons]; omega)

end Scan

/-- The tokens of a source text, ending with the end-of-input token, and the scanning faults. -/
def scan (source : String) : List Token × List LexError :=
  Scan.tokensFrom 1 source.toList

end MiniLox
