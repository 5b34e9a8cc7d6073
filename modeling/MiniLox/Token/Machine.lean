import MiniLox.Token.Scan

/-!
# The scanner as a state machine

The scanner of the source is written as state functions that hand control to one another: a
lexer holds the source text, the byte offsets where the current lexeme starts and where reading
stands, the line, and what was emitted; each state function reads from the lexer and returns
the next state function, or none once the end-of-input token is emitted. `StateFn.run` calls
them from the default state on until one returns none, making at most as many calls as its fuel
allows.

Offsets are UTF-8 byte offsets into the source and a rune is read by decoding at the current
offset, so reading a rune advances the offset by its byte size. The default state skips blanks
and line feeds in a loop of its own and then dispatches on the rune it sees: a digit to the
number state, a double quote to the string state, a letter or `_` to the identifier state,
anything else to the operator state, which hands a second `/` to the line-comment state.
-/

set_option autoImplicit false

namespace MiniLox

/-- The state functions of the scanner. -/
inductive StateFn where
  | default
  | number
  | string
  | identifier
  | operator
  | lineComment
deriving DecidableEq, Repr

/-- The scanner's state between calls: the source, the byte offsets where the current lexeme
starts and where reading stands, the line, the tokens emitted and the faults reported. -/
structure Lexer where
  source : String
  start : Nat
  current : Nat
  line : Nat
  tokens : List Token
  faults : List LexError

namespace Lexer

def init (source : String) : Lexer := ⟨source, 0, 0, 1, [], []⟩

def peek (l : Lexer) : Option Char :=
  if l.current < l.source.utf8ByteSize then some (String.Pos.Raw.get l.source ⟨l.current⟩)
  else none

theorem lt_of_peek_eq_some {l : Lexer} {c : Char} (h : l.peek = some c) :
    l.current < l.source.utf8ByteSize := by
  unfold peek at h
  split at h
  · assumption
  · cases h

/-- Reads the rune at the current offset, moving past its bytes; at the end of the source,
reads none and stays. -/
def next (l : Lexer) : Option Char × Lexer :=
  match l.peek with
  | some c => (some c, { l with current := l.current + c.utf8Size })
  | none => (none, l)

theorem next_of_peek {l : Lexer} {c : Char} (h : l.peek = some c) :
    l.next = (some c, { l with current := l.current + c.utf8Size }) := by
  simp [next, h]

def peekNext (l : Lexer) : Option Char :=
  match l.peek with
  | some c => { l with current := l.current + c.utf8Size }.peek
  | none => none

def lexeme (l : Lexer) : String := String.Pos.Raw.extract l.source ⟨l.start⟩ ⟨l.current⟩

def emitLiteral (l : Lexer) (kind : TokenKind) (literal : Literal) : Lexer × Option StateFn :=
  ({ l with tokens := l.tokens ++ [⟨kind, l.lexeme, literal, l.line⟩] }, some .default)

def emit (l : Lexer) (kind : TokenKind) : Lexer × Option StateFn := l.emitLiteral kind .absent

def errorf (l : Lexer) (fault : LexFault) : Lexer × Option StateFn :=
  ({ l with faults := l.faults ++ [⟨l.line, fault⟩] }, some .default)

def skipWhile (p : Char → Bool) (l : Lexer) : Lexer :=
  match _h : l.peek with
  | some c => if p c then l.next.2.skipWhile p else l
  | none => l
termination_by l.source.utf8ByteSize - l.current
decreasing_by
  have hlt := lt_of_peek_eq_some _h
  have hpos := c.utf8Size_pos
  simp only [next, _h]
  omega

theorem skipWhile_of_peek {p : Char → Bool} {l : Lexer} {c : Char} (h : l.peek = some c) :
    l.skipWhile p = if p c then l.next.2.skipWhile p else l := by
  rw [skipWhile]
  split
  · next c' h' =>
    rw [h] at h'
    cases h'
    rfl
  · next h' => rw [h] at h'; cases h'

theorem skipWhile_of_peek_none {p : Char → Bool} {l : Lexer} (h : l.peek = none) :
    l.skipWhile p = l := by
  rw [skipWhile]
  split
  · next c' h' => rw [h] at h'; cases h'
  · rfl

def stringBody (l : Lexer) : Lexer :=
  match _h : l.peek with
  | some c =>
    if c != '"' then { l.next.2 with line := if c = '\n' then l.line + 1 else l.line }.stringBody
    else l
  | none => l
termination_by l.source.utf8ByteSize - l.current
decreasing_by
  have hlt := lt_of_peek_eq_some _h
  have hpos := c.utf8Size_pos
  simp only [next, _h]
  omega

theorem stringBody_of_peek {l : Lexer} {c : Char} (h : l.peek = some c) :
    l.stringBody = if c != '"' then
      { l.next.2 with line := if c = '\n' then l.line + 1 else l.line }.stringBody else l := by
  rw [stringBody]
  split
  · next c' h' =>
    rw [h] at h'
    cases h'
    rfl
  · next h' => rw [h] at h'; cases h'

theorem stringBody_of_peek_none {l : Lexer} (h : l.peek = none) : l.stringBody = l := by
  rw [stringBody]
  split
  · next c' h' => rw [h] at h'; cases h'
  · rfl

def defaultPass (l : Lexer) : Lexer ⊕ (Lexer × Option StateFn) :=
  let l := { l with start := l.current }
  match l.peek with
  | none => .inr ((l.emit .eof).1, none)
  | some c =>
    if c = ' ' ∨ c = '\t' ∨ c = '\r' then .inl l.next.2
    else if c = '\n' then .inl { l.next.2 with line := l.line + 1 }
    else if c.isDigit then .inr (l, some .number)
    else if c = '"' then .inr (l, some .string)
    else if Scan.isIdentStart c then .inr (l, some .identifier)
    else .inr (l, some .operator)

theorem defaultPass_consumes {l l' : Lexer} (h : l.defaultPass = .inl l') :
    ∃ c, l.peek = some c ∧ l'.current = l.current + c.utf8Size ∧ l'.source = l.source := by
  have hpeek : ({ l with start := l.current } : Lexer).peek = l.peek := rfl
  unfold defaultPass at h
  dsimp only at h
  rw [hpeek] at h
  rcases hc : l.peek with _ | c <;> rw [hc] at h
  · cases h
  · have hnext := next_of_peek (l := { l with start := l.current }) (hpeek.trans hc)
    simp only [hnext] at h
    split at h
    · cases h
      exact ⟨c, rfl, rfl, rfl⟩
    · split at h
      · cases h
        exact ⟨c, rfl, rfl, rfl⟩
      · -- any other rune ends the call
        repeat' split at h
        all_goals cases h

/-- The default state: skips blanks and line feeds, then hands over to the state that reads
what follows, or emits the end-of-input token at the end of the source. -/
def defaultState (l : Lexer) : Lexer × Option StateFn :=
  match _h : l.defaultPass with
  | .inl l' => l'.defaultState
  | .inr r => r
termination_by l.source.utf8ByteSize - l.current
decreasing_by
  obtain ⟨c, hc, hcur, hsrc⟩ := defaultPass_consumes _h
  have hlt := lt_of_peek_eq_some hc
  have hpos := c.utf8Size_pos
  rw [hcur, hsrc]
  omega

theorem defaultState_of_loop {l l' : Lexer} (h : l.defaultPass = .inl l') :
    l.defaultState = l'.defaultState := by
  rw [defaultState]
  split
  · next l'' h' => rw [h] at h'; cases h'; rfl
  · next r h' => rw [h] at h'; cases h'

theorem defaultState_of_exit {l : Lexer} {r : Lexer × Option StateFn}
    (h : l.defaultPass = .inr r) : l.defaultState = r := by
  rw [defaultState]
  split
  · next l'' h' => rw [h] at h'; cases h'
  · next r' h' => rw [h] at h'; cases h'; rfl

def numberValue (text : String) : Float :=
  Scan.numberValue (text.toList.takeWhile (· != '.')) ((text.toList.dropWhile (· != '.')).drop 1)

def numberState (l : Lexer) : Lexer × Option StateFn :=
  let l := l.skipWhile Char.isDigit
  -- a point is part of the number only when a digit follows it
  let l := if l.peek = some '.' ∧ l.peekNext.any Char.isDigit = true then
      l.next.2.skipWhile Char.isDigit
    else l
  l.emitLiteral .number (.number (numberValue l.lexeme))

/-- Reads a string from its opening quote to its closing one; a string the source ends in is a
fault. -/
def stringState (l : Lexer) : Lexer × Option StateFn :=
  let l := l.next.2.stringBody
  match l.peek with
  | none => l.errorf .unterminatedString
  | some _ =>
    let l := l.next.2
    l.emitLiteral .string (.text (String.Pos.Raw.extract l.source ⟨l.start + 1⟩ ⟨l.current - 1⟩))

def identifierState (l : Lexer) : Lexer × Option StateFn :=
  let l := l.skipWhile Scan.isIdentChar
  match Scan.keyword? l.lexeme with
  | some k => l.emit k
  | none => l.emitLiteral .identifier (.text l.lexeme)

/-- Reads an operator, two runes when the second completes one; `//` starts a comment and a rune
that starts no operator is a fault. -/
def operatorState (l : Lexer) : Lexer × Option StateFn :=
  let (r, l) := l.next
  if r = some '/' ∧ l.peek = some '/' then (l, some .lineComment)
  else
    match r.bind fun r => l.peek.bind (Scan.pairKind? r) with
    | some k => l.next.2.emit k
    | none =>
      match r.bind Scan.singleKind? with
      | some k => l.emit k
      | none => l.errorf .unexpectedChar

def lineCommentState (l : Lexer) : Lexer × Option StateFn :=
  (l.skipWhile (· != '\n'), some .default)

end Lexer

namespace StateFn

def call : StateFn → Lexer → Lexer × Option StateFn
  | default, l => l.defaultState
  | number, l => l.numberState
  | string, l => l.stringState
  | identifier, l => l.identifierState
  | operator, l => l.operatorState
  | lineComment, l => l.lineCommentState

/-- Calls state functions from `s` on, each on the lexer the call before left, making at most
`fuel` calls: the calls made, each state function with the lexer it was called on, and the lexer
the last call left when it returned no state (`none` when the fuel ran out first). -/
def run : Nat → StateFn → Lexer → List (StateFn × Lexer) × Option Lexer
  | 0, _, _ => ([], none)
  | fuel + 1, s, l =>
    match s.call l with
    | (l', none) => ([(s, l)], some l')
    | (l', some s') => ((s, l) :: (run fuel s' l').1, (run fuel s' l').2)

theorem run_of_stop {s : StateFn} {l l' : Lexer} (h : s.call l = (l', none)) (fuel : Nat) :
    run (fuel + 1) s l = ([(s, l)], some l') := by
  simp [run, h]

theorem run_of_next {s s' : StateFn} {l l' : Lexer} (h : s.call l = (l', some s')) (fuel : Nat) :
    run (fuel + 1) s l = ((s, l) :: (run fuel s' l').1, (run fuel s' l').2) := by
  simp [run, h]

end StateFn

end MiniLox
