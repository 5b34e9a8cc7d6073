import MiniLox.Token.Machine
import MiniLox.Proofs.ScanMunch
import Mathlib.Data.String.Basic
import Mathlib.Data.List.Chain
import Mathlib.Data.List.TakeWhile

/-!
# The scanner's state machine halts, and scans as `scan` does

A lexer whose source reads `done ++ rest`, with the current offset at the byte length of `done`,
reads `rest` (`Lexer.At`): its next rune is the head of `rest`, and reading a rune moves to the
next character boundary. On such lexers every state function does what `scan` does with the
same characters, case by case.

The run is cut into rounds: a call of the default state, then the one or two calls it hands over
to, up to the next call of the default state. The default state's own loop reads a rune each
time it goes round (`Lexer.defaultPass_consumes`), and every round reads a nonempty piece of the
source, with fewer calls than twice its bytes. So the offset at which the default state is called
strictly increases from one call to the next, and from a lexer with `n` bytes left the run ends
within `2 * n + 1` calls (`Lexer.run_halts`), with the tokens and faults `scan` gives
(`Lexer.run_scans`).
-/

set_option autoImplicit false

namespace MiniLox

open String (utf8Len)

namespace Lexer

/-- `l` reads its source at the byte boundary after the characters `done`, with `rest` to
read. -/
def At (l : Lexer) (done rest : List Char) : Prop :=
  l.source.toList = done ++ rest ∧ l.current = utf8Len done

variable {l : Lexer} {done rest : List Char} {c : Char}

theorem At.source_eq (h : l.At done rest) : l.source = String.ofList (done ++ rest) := by
  rw [← h.1, String.ofList_toList]

theorem At.size (h : l.At done rest) : l.source.utf8ByteSize = utf8Len done + utf8Len rest := by
  rw [← String.utf8Len_toList, h.1, String.utf8Len_append]

theorem At.of_eq {l' : Lexer} (h : l.At done rest) (hs : l'.source = l.source)
    (hc : l'.current = l.current) : l'.At done rest :=
  ⟨hs ▸ h.1, hc ▸ h.2⟩

theorem At.peek (h : l.At done rest) : l.peek = rest.head? := by
  unfold Lexer.peek
  rcases rest with _ | ⟨c, r⟩
  · rw [if_neg (by rw [h.size, h.2]; simp)]
    rfl
  · have hpos := c.utf8Size_pos
    rw [if_pos (by rw [h.size, h.2, String.utf8Len_cons]; omega), h.source_eq, h.2,
      String.get_of_valid]
    rfl

theorem At.next (h : l.At done (c :: rest)) :
    l.next = (some c, { l with current := l.current + c.utf8Size }) :=
  next_of_peek h.peek

theorem At.advance (h : l.At done (c :: rest)) :
    ({ l with current := l.current + c.utf8Size } : Lexer).At (done ++ [c]) rest :=
  ⟨by rw [h.1]; simp, by simp [h.2]⟩

theorem At.forward {m : List Char} (h : l.At done (m ++ rest)) :
    ({ l with current := l.current + utf8Len m } : Lexer).At (done ++ m) rest :=
  ⟨by rw [h.1, List.append_assoc], by simp [h.2]⟩

theorem At.peekNext (h : l.At done rest) : l.peekNext = rest.tail.head? := by
  unfold Lexer.peekNext
  rcases rest with _ | ⟨c, r⟩
  · rw [h.peek]
    rfl
  · rw [h.peek]
    exact h.advance.peek

theorem At.lexeme {pre m : List Char} (h : l.At (pre ++ m) rest) (hstart : l.start = utf8Len pre) :
    l.lexeme = String.ofList m := by
  unfold Lexer.lexeme
  rw [h.source_eq, h.2, hstart, String.utf8Len_append, String.extract_of_valid]

theorem At.extract {pre m post : List Char} (h : l.At done rest)
    (hs : done ++ rest = pre ++ m ++ post) :
    String.Pos.Raw.extract l.source ⟨utf8Len pre⟩ ⟨utf8Len pre + utf8Len m⟩ = String.ofList m := by
  rw [h.source_eq, hs, String.extract_of_valid]

theorem At.skipWhile (p : Char → Bool) (h : l.At done rest) :
    l.skipWhile p = { l with current := l.current + utf8Len (rest.takeWhile p) } := by
  induction rest generalizing l done with
  | nil => simp [skipWhile_of_peek_none h.peek]
  | cons c r ih =>
    rw [skipWhile_of_peek h.peek, h.next, List.takeWhile_cons]
    by_cases hc : p c
    · -- the rune is read, and the loop goes on from the next boundary
      rw [if_pos hc, if_pos hc, ih h.advance, String.utf8Len_cons]
      simp only [Nat.add_assoc, Nat.add_comm c.utf8Size]
    · rw [if_neg hc, if_neg hc]
      simp

theorem At.skip (p : Char → Bool) (h : l.At done rest) :
    ({ l with current := l.current + utf8Len (rest.takeWhile p) } : Lexer).At
      (done ++ rest.takeWhile p) (rest.dropWhile p) :=
  At.forward (by rw [List.takeWhile_append_dropWhile]; exact h)

theorem At.skipWhile_cons {p : Char → Bool} (hc : p c = true) (h : l.At done (c :: rest)) :
    l.skipWhile p = { l with current := l.current + utf8Len (c :: rest.takeWhile p) } := by
  rw [h.skipWhile, List.takeWhile_cons_of_pos hc]

theorem At.skip_cons {p : Char → Bool} (hc : p c = true) (h : l.At done (c :: rest)) :
    ({ l with current := l.current + utf8Len (c :: rest.takeWhile p) } : Lexer).At
      (done ++ c :: rest.takeWhile p) (rest.dropWhile p) := by
  have hskip := h.skip p
  rwa [List.takeWhile_cons_of_pos hc, List.dropWhile_cons_of_pos hc] at hskip

theorem forall_mem_cons_takeWhile {p : Char → Bool} (hc : p c = true) :
    ∀ x ∈ c :: rest.takeWhile p, p x = true := by
  rw [← List.takeWhile_cons_of_pos hc]
  exact fun x hx => List.mem_takeWhile_imp hx

theorem At.stringBody (h : l.At done rest) :
    l.stringBody =
      { l with
        current := l.current + utf8Len (rest.takeWhile (· != '"'))
        line := l.line + (rest.takeWhile (· != '"')).count '\n' } := by
  induction rest generalizing l done with
  | nil => simp [stringBody_of_peek_none h.peek]
  | cons c r ih =>
    rw [stringBody_of_peek h.peek, h.next, List.takeWhile_cons]
    by_cases hc : (c != '"') = true
    · rw [if_pos hc, if_pos hc]
      dsimp only
      rw [ih (l := { l with
          current := l.current + c.utf8Size
          line := if c = '\n' then l.line + 1 else l.line }) (h.advance.of_eq rfl rfl),
        String.utf8Len_cons, List.count_cons]
      congr 1
      · dsimp only
        omega
      · -- a line feed in the body moves the line on
        dsimp only
        by_cases hn : c = '\n'
        · rw [if_pos hn, if_pos (by simp [hn])]
          omega
        · rw [if_neg hn, if_neg (by simpa using hn)]
          omega
    · rw [if_neg hc, if_neg hc]
      simp

/-! ## What a lexer scans to -/

def output (l : Lexer) (rest : List Char) : List Token × List LexError :=
  (l.tokens ++ (Scan.tokensFrom l.line rest).1, l.faults ++ (Scan.tokensFrom l.line rest).2)

theorem output_of_emit {l' : Lexer} {rest' : List Char} {t : Token}
    (htok : l'.tokens = l.tokens ++ [t]) (hfaults : l'.faults = l.faults)
    (h : Scan.tokensFrom l.line rest = Scan.emit t (Scan.tokensFrom l'.line rest')) :
    l'.output rest' = l.output rest := by
  simp [output, htok, hfaults, h, Scan.emit]

theorem output_of_fail {l' : Lexer} {rest' : List Char} {e : LexError}
    (htok : l'.tokens = l.tokens) (hfaults : l'.faults = l.faults ++ [e])
    (h : Scan.tokensFrom l.line rest = Scan.fail e (Scan.tokensFrom l'.line rest')) :
    l'.output rest' = l.output rest := by
  simp [output, htok, hfaults, h, Scan.fail]

theorem output_of_skip {l' : Lexer} {rest' : List Char}
    (htok : l'.tokens = l.tokens) (hfaults : l'.faults = l.faults)
    (h : Scan.tokensFrom l.line rest = Scan.tokensFrom l'.line rest') :
    l'.output rest' = l.output rest := by
  simp [output, htok, hfaults, h]

/-! ## The default state -/

theorem At.restart (h : l.At done rest) : ({ l with start := l.current } : Lexer).At done rest :=
  h.of_eq rfl rfl

theorem At.defaultPass_blank (h : l.At done (c :: rest)) (hc : c = ' ' ∨ c = '\t' ∨ c = '\r') :
    l.defaultPass = .inl { l with start := l.current, current := l.current + c.utf8Size } := by
  simp only [defaultPass, h.restart.peek, List.head?_cons, if_pos hc, h.restart.next]

theorem At.defaultPass_newline (h : l.At done ('\n' :: rest)) :
    l.defaultPass =
      .inl { l with start := l.current, current := l.current + '\n'.utf8Size, line := l.line + 1 } := by
  have hb : ¬('\n' = ' ' ∨ '\n' = '\t' ∨ '\n' = '\r') := by decide
  simp only [defaultPass, h.restart.peek, List.head?_cons, if_neg hb, ite_true, h.restart.next]

theorem At.default_call_nil (h : l.At done []) :
    StateFn.default.call l =
      ({ l with start := l.current, tokens := l.tokens ++ [⟨.eof, "", .absent, l.line⟩] }, none) := by
  have hend : ({ l with start := l.current } : Lexer).At (done ++ []) [] := by
    rw [List.append_nil]
    exact h.restart
  have hlex := hend.lexeme h.2
  rw [String.ofList_nil] at hlex
  apply defaultState_of_exit
  simp only [defaultPass, h.restart.peek, List.head?_nil, emit, emitLiteral, hlex]

variable (hb : ¬(c = ' ' ∨ c = '\t' ∨ c = '\r')) (hn : c ≠ '\n')
include hb hn

theorem At.default_call_dispatch (h : l.At done (c :: rest)) :
    StateFn.default.call l = ({ l with start := l.current },
      some (if c.isDigit then .number else if c = '"' then .string
        else if Scan.isIdentStart c then .identifier else .operator)) := by
  apply defaultState_of_exit
  simp only [defaultPass, h.restart.peek, List.head?_cons, if_neg hb, if_neg hn]
  split
  · rfl
  · split
    · rfl
    · split <;> rfl

omit hb hn

/-! ## Numbers -/

theorem ne_point_of_isDigit {x : Char} (hx : x.isDigit = true) : (x != '.') = true := by
  have hb := Munch.digit_bounds hx
  have hne : x ≠ '.' := fun he => by rw [he] at hb; simp at hb
  simpa using hne

theorem numberValue_whole {w : List Char} (hw : ∀ x ∈ w, x.isDigit = true) :
    numberValue (String.ofList w) = Scan.numberValue w [] := by
  have hne : ∀ x ∈ w, (x != '.') = true := fun x hx => ne_point_of_isDigit (hw x hx)
  simp only [numberValue, String.toList_ofList, List.takeWhile_eq_self_iff.2 hne,
    List.dropWhile_eq_nil_iff.2 hne, List.drop_nil]

theorem numberValue_point {w f : List Char} (hw : ∀ x ∈ w, x.isDigit = true) :
    numberValue (String.ofList (w ++ '.' :: f)) = Scan.numberValue w f := by
  have hne : ∀ x ∈ w, (x != '.') = true := fun x hx => ne_point_of_isDigit (hw x hx)
  simp [numberValue, List.takeWhile_append_of_pos hne, List.dropWhile_append_of_pos hne]

theorem numeral_split {d : Char} {more : List Char}
    (hr : rest.dropWhile Char.isDigit = '.' :: d :: more) :
    c :: rest = (c :: rest.takeWhile Char.isDigit ++ '.' :: d :: more.takeWhile Char.isDigit) ++
      more.dropWhile Char.isDigit := by
  nth_rewrite 1 [← List.takeWhile_append_dropWhile (p := Char.isDigit) (l := rest)]
  rw [hr, ← List.takeWhile_append_dropWhile (p := Char.isDigit) (l := more)]
  simp

theorem string_split {rest' : List Char} (hr : rest.dropWhile (· != '"') = '"' :: rest') :
    '"' :: rest = ('"' :: rest.takeWhile (· != '"') ++ ['"']) ++ rest' := by
  nth_rewrite 1 [← List.takeWhile_append_dropWhile (p := (· != '"')) (l := rest)]
  rw [hr]
  simp

section States

variable (hstart : l.start = utf8Len done)
include hstart

theorem At.numberState_whole (h : l.At done (c :: rest)) (hc : c.isDigit = true)
    (hr : ∀ d more, rest.dropWhile Char.isDigit = '.' :: d :: more → d.isDigit = false) :
    l.numberState =
      ({ l with
        current := l.current + utf8Len (c :: rest.takeWhile Char.isDigit)
        tokens := l.tokens ++ [⟨.number, String.ofList (c :: rest.takeWhile Char.isDigit),
          .number (Scan.numberValue (c :: rest.takeWhile Char.isDigit) []), l.line⟩] },
        some .default) := by
  have hskip := h.skip_cons hc
  -- no point with a digit after it follows the digits
  have hpoint : ¬((rest.dropWhile Char.isDigit).head? = some '.' ∧
      (rest.dropWhile Char.isDigit).tail.head?.any Char.isDigit = true) := by
    rintro ⟨hp, hd⟩
    rcases hrest : rest.dropWhile Char.isDigit with _ | ⟨x, _ | ⟨d, more⟩⟩
    · rw [hrest] at hp
      cases hp
    · rw [hrest] at hd
      cases hd
    · rw [hrest] at hp hd
      cases hp
      have hdigit : d.isDigit = true := hd
      rw [hr d more hrest] at hdigit
      cases hdigit
  simp only [numberState, h.skipWhile_cons hc, hskip.peek, hskip.peekNext, if_neg hpoint,
    emitLiteral, hskip.lexeme hstart, numberValue_whole (forall_mem_cons_takeWhile hc)]

theorem At.numberState_frac {d : Char} {more : List Char} (h : l.At done (c :: rest))
    (hc : c.isDigit = true) (hr : rest.dropWhile Char.isDigit = '.' :: d :: more)
    (hd : d.isDigit = true) :
    l.numberState =
      ({ l with
        current := l.current + utf8Len (c :: rest.takeWhile Char.isDigit ++
          '.' :: d :: more.takeWhile Char.isDigit)
        tokens := l.tokens ++ [⟨.number, String.ofList (c :: rest.takeWhile Char.isDigit ++
          '.' :: d :: more.takeWhile Char.isDigit), .number (Scan.numberValue
            (c :: rest.takeWhile Char.isDigit) (d :: more.takeWhile Char.isDigit)), l.line⟩] },
        some .default) := by
  have hskip := h.skip_cons hc
  rw [hr] at hskip
  -- the whole numeral, read at once
  have hfinal := (numeral_split hr ▸ h).forward
  have hcur : l.current + utf8Len (c :: rest.takeWhile Char.isDigit) + '.'.utf8Size +
      utf8Len (d :: more.takeWhile Char.isDigit) = l.current + utf8Len (c :: rest.takeWhile
        Char.isDigit ++ '.' :: d :: more.takeWhile Char.isDigit) := by
    simp only [String.utf8Len_append, String.utf8Len_cons]
    omega
  simp only [numberState, h.skipWhile_cons hc, hskip.peek, hskip.peekNext, List.head?_cons,
    List.tail_cons, Option.any_some, hd, and_self, if_true, hskip.next,
    hskip.advance.skipWhile_cons hd, hcur, emitLiteral, hfinal.lexeme hstart,
    numberValue_point (forall_mem_cons_takeWhile hc)]

/-! ## Strings -/

section Strings

variable (h : l.At done ('"' :: rest))
include h

omit hstart in
theorem At.stringBody_at :
    ({ l with
      current := l.current + '"'.utf8Size + utf8Len (rest.takeWhile (· != '"'))
      line := l.line + (rest.takeWhile (· != '"')).count '\n' } : Lexer).At
      (done ++ ['"'] ++ rest.takeWhile (· != '"')) (rest.dropWhile (· != '"')) :=
  (h.advance.skip (· != '"')).of_eq rfl rfl

theorem At.stringState_closed {rest' : List Char} (hr : rest.dropWhile (· != '"') = '"' :: rest') :
    l.stringState =
      ({ l with
        current := l.current + utf8Len ('"' :: rest.takeWhile (· != '"') ++ ['"'])
        line := l.line + (rest.takeWhile (· != '"')).count '\n'
        tokens := l.tokens ++ [⟨.string, String.ofList ('"' :: rest.takeWhile (· != '"') ++ ['"']),
          .text (String.ofList (rest.takeWhile (· != '"'))),
          ((l.line + (rest.takeWhile (· != '"')).count '\n' : Nat) : Int)⟩] },
        some .default) := by
  have hbody := h.stringBody_at
  rw [hr] at hbody
  have hall := string_split hr
  have hfinal : ({ l with
      current := l.current + utf8Len ('"' :: rest.takeWhile (· != '"') ++ ['"'])
      line := l.line + (rest.takeWhile (· != '"')).count '\n' } : Lexer).At
      (done ++ ('"' :: rest.takeWhile (· != '"') ++ ['"'])) rest' :=
    ((hall ▸ h).forward).of_eq rfl rfl
  have hq : '"'.utf8Size = 1 := rfl
  have hcur : l.current + '"'.utf8Size + utf8Len (rest.takeWhile (· != '"')) + '"'.utf8Size =
      l.current + utf8Len ('"' :: rest.takeWhile (· != '"') ++ ['"']) := by
    simp only [String.utf8Len_append, String.utf8Len_cons, String.utf8Len_nil]
    omega
  -- the text lies one byte after the opening quote and one byte before the closing one
  have htext : String.Pos.Raw.extract l.source ⟨l.start + 1⟩
      ⟨l.current + utf8Len ('"' :: rest.takeWhile (· != '"') ++ ['"']) - 1⟩ =
        String.ofList (rest.takeWhile (· != '"')) := by
    have hs : done ++ '"' :: rest = (done ++ ['"']) ++ rest.takeWhile (· != '"') ++ '"' :: rest' := by
      rw [hall]
      simp
    have hext := h.extract hs
    simp only [String.utf8Len_append, String.utf8Len_cons, String.utf8Len_nil, hq] at hext ⊢
    rw [hstart, h.2]
    convert hext using 3
    omega
  simp only [stringState, h.next, h.advance.stringBody, hbody.peek, List.head?_cons, hbody.next,
    hcur, emitLiteral, hfinal.lexeme hstart, htext]

omit hstart in
theorem At.stringState_open (hr : rest.dropWhile (· != '"') = []) :
    l.stringState =
      ({ l with
        current := l.current + '"'.utf8Size + utf8Len (rest.takeWhile (· != '"'))
        line := l.line + (rest.takeWhile (· != '"')).count '\n'
        faults := l.faults ++ [⟨((l.line + (rest.takeWhile (· != '"')).count '\n' : Nat) : Int),
          .unterminatedString⟩] },
        some .default) := by
  have hbody := h.stringBody_at
  rw [hr] at hbody
  simp only [stringState, h.next, h.advance.stringBody, hbody.peek, List.head?_nil, errorf]

end Strings

/-! ## Words, operators and comments -/

theorem At.identifierState_keyword {k : TokenKind} (h : l.At done (c :: rest))
    (hc : Scan.isIdentStart c = true)
    (hk : Scan.keyword? (String.ofList (c :: rest.takeWhile Scan.isIdentChar)) = some k) :
    l.identifierState =
      ({ l with
        current := l.current + utf8Len (c :: rest.takeWhile Scan.isIdentChar)
        tokens := l.tokens ++
          [⟨k, String.ofList (c :: rest.takeWhile Scan.isIdentChar), .absent, l.line⟩] },
        some .default) := by
  have hc' : Scan.isIdentChar c = true := by simp [Scan.isIdentChar, hc]
  simp only [identifierState, h.skipWhile_cons hc', (h.skip_cons hc').lexeme hstart, hk, emit,
    emitLiteral]

theorem At.identifierState_name (h : l.At done (c :: rest)) (hc : Scan.isIdentStart c = true)
    (hk : Scan.keyword? (String.ofList (c :: rest.takeWhile Scan.isIdentChar)) = none) :
    l.identifierState =
      ({ l with
        current := l.current + utf8Len (c :: rest.takeWhile Scan.isIdentChar)
        tokens := l.tokens ++
          [⟨.identifier, String.ofList (c :: rest.takeWhile Scan.isIdentChar),
            .text (String.ofList (c :: rest.takeWhile Scan.isIdentChar)), l.line⟩] },
        some .default) := by
  have hc' : Scan.isIdentChar c = true := by simp [Scan.isIdentChar, hc]
  simp only [identifierState, h.skipWhile_cons hc', (h.skip_cons hc').lexeme hstart, hk,
    emitLiteral]

omit hstart in
theorem At.operatorState_comment (h : l.At done ('/' :: '/' :: rest)) :
    l.operatorState = ({ l with current := l.current + '/'.utf8Size }, some .lineComment) := by
  simp only [operatorState, h.next, h.advance.peek, List.head?_cons, and_self, if_true]

theorem At.operatorState_pair {d : Char} {k : TokenKind} (h : l.At done (c :: d :: rest))
    (hc : ¬(c = '/' ∧ d = '/')) (hk : Scan.pairKind? c d = some k) :
    l.operatorState =
      ({ l with
        current := l.current + utf8Len [c, d]
        tokens := l.tokens ++ [⟨k, String.ofList [c, d], .absent, l.line⟩] }, some .default) := by
  have hpair : c :: d :: rest = [c, d] ++ rest := rfl
  have hcur : l.current + c.utf8Size + d.utf8Size = l.current + utf8Len [c, d] := by
    simp only [String.utf8Len_cons, String.utf8Len_nil]
    omega
  have hc' : ¬(some c = some '/' ∧ some d = some '/') := by simpa using hc
  simp only [operatorState, h.next, h.advance.peek, List.head?_cons, if_neg hc', Option.bind_some,
    hk, h.advance.next, hcur, emit, emitLiteral, ((hpair ▸ h).forward).lexeme hstart]

def NoPair (c : Char) (rest : List Char) : Prop :=
  ¬(c = '/' ∧ rest.head? = some '/') ∧ rest.head?.bind (Scan.pairKind? c) = none

theorem At.operatorState_single {k : TokenKind} (h : l.At done (c :: rest)) (hno : NoPair c rest)
    (hk : Scan.singleKind? c = some k) :
    l.operatorState =
      ({ l with
        current := l.current + c.utf8Size
        tokens := l.tokens ++ [⟨k, String.singleton c, .absent, l.line⟩] }, some .default) := by
  have hone : c :: rest = [c] ++ rest := rfl
  have hlex := ((hone ▸ h).forward).lexeme hstart
  simp only [String.utf8Len_cons, String.utf8Len_nil, Nat.zero_add] at hlex
  have hc : ¬(some c = some '/' ∧ rest.head? = some '/') := by simpa using hno.1
  simp only [operatorState, h.next, h.advance.peek, if_neg hc, Option.bind_some, hno.2, hk, emit,
    emitLiteral, hlex, String.singleton_eq_ofList]

omit hstart in
theorem At.operatorState_unexpected (h : l.At done (c :: rest)) (hno : NoPair c rest)
    (hk : Scan.singleKind? c = none) :
    l.operatorState =
      ({ l with
        current := l.current + c.utf8Size
        faults := l.faults ++ [⟨l.line, .unexpectedChar⟩] }, some .default) := by
  have hc : ¬(some c = some '/' ∧ rest.head? = some '/') := by simpa using hno.1
  simp only [operatorState, h.next, h.advance.peek, if_neg hc, Option.bind_some, hno.2, hk, errorf]

omit hstart in
theorem At.lineCommentState (h : l.At done rest) :
    l.lineCommentState =
      ({ l with current := l.current + utf8Len (rest.takeWhile (· != '\n')) }, some .default) := by
  rw [Lexer.lineCommentState, h.skipWhile]

end States

/-! ## Rounds -/

def defaultOffsets (calls : List (StateFn × Lexer)) : List Nat :=
  (calls.filter fun x => x.1 == .default).map fun x => x.2.current

@[simp] theorem defaultOffsets_cons_default (calls : List (StateFn × Lexer)) :
    defaultOffsets ((.default, l) :: calls) = l.current :: defaultOffsets calls := by
  simp [defaultOffsets]

theorem defaultOffsets_append {mid calls : List (StateFn × Lexer)}
    (hmid : ∀ x ∈ mid, x.1 ≠ .default) : defaultOffsets (mid ++ calls) = defaultOffsets calls := by
  have hnone : mid.filter (fun x => x.1 == .default) = [] :=
    List.filter_eq_nil_iff.2 fun x hx => by simpa using hmid x hx
  simp [defaultOffsets, List.filter_append, hnone]

theorem run_of_call_eq {s : StateFn} {l₁ l₂ : Lexer} (h : s.call l₁ = s.call l₂) (fuel : Nat) :
    StateFn.run (fuel + 1) s l₁ =
      ((s, l₁) :: (StateFn.run (fuel + 1) s l₂).1.tail, (StateFn.run (fuel + 1) s l₂).2) := by
  rcases hc : s.call l₂ with ⟨l', _ | s'⟩
  · simp [StateFn.run_of_stop hc, StateFn.run_of_stop (h.trans hc)]
  · simp [StateFn.run_of_next hc, StateFn.run_of_next (h.trans hc)]

/-- From the default state at `l` the run calls the states of `mid`, none of them the default
state, and then the default state at `l'`. -/
def Round (l : Lexer) (mid : List (StateFn × Lexer)) (l' : Lexer) : Prop :=
  (∀ x ∈ mid, x.1 ≠ .default) ∧
    ∀ fuel, StateFn.run (fuel + 1 + mid.length) .default l =
      ((.default, l) :: mid ++ (StateFn.run fuel .default l').1, (StateFn.run fuel .default l').2)

theorem Round.one {s : StateFn} {l₁ l₂ : Lexer} (h₀ : StateFn.default.call l = (l₁, some s))
    (hs : s ≠ .default) (h₁ : s.call l₁ = (l₂, some .default)) : Round l [(s, l₁)] l₂ := by
  refine ⟨by simpa using hs, fun fuel => ?_⟩
  simp only [List.length_singleton, StateFn.run_of_next h₀, StateFn.run_of_next h₁,
    List.cons_append, List.nil_append]

theorem Round.two {s₁ s₂ : StateFn} {l₁ l₂ l₃ : Lexer}
    (h₀ : StateFn.default.call l = (l₁, some s₁)) (hs₁ : s₁ ≠ .default)
    (h₁ : s₁.call l₁ = (l₂, some s₂)) (hs₂ : s₂ ≠ .default)
    (h₂ : s₂.call l₂ = (l₃, some .default)) : Round l [(s₁, l₁), (s₂, l₂)] l₃ := by
  refine ⟨by simp [hs₁, hs₂], fun fuel => ?_⟩
  have hfuel : fuel + 1 + [(s₁, l₁), (s₂, l₂)].length = fuel + 1 + 1 + 1 := rfl
  simp only [hfuel, StateFn.run_of_next h₀, StateFn.run_of_next h₁, StateFn.run_of_next h₂,
    List.cons_append, List.nil_append]

/-! ## Halting -/

/-- A run of `fuel` calls from the default state at `l`, with `rest` left to read, reaches the nil
state: after its first call it makes at most two calls for each byte of `rest`, it adds the tokens
and faults the scanner makes of `rest`, and it calls the default state at strictly increasing
offsets. -/
def Finishes (l : Lexer) (rest : List Char) (fuel : Nat) : Prop :=
  ∃ calls l', StateFn.run fuel .default l = ((.default, l) :: calls, some l') ∧
    calls.length ≤ 2 * utf8Len rest ∧ (l'.tokens, l'.faults) = l.output rest ∧
    (l.current :: defaultOffsets calls).Pairwise (· < ·)

theorem At.finishes_nil (h : l.At done []) (fuel : Nat) : l.Finishes [] (fuel + 1) := by
  refine ⟨[], _, StateFn.run_of_stop h.default_call_nil fuel, by simp, ?_, by simp [defaultOffsets]⟩
  simp [output, Scan.tokensFrom_nil]

theorem Finishes.of_loop {l' : Lexer} {rest' : List Char} {fuel : Nat}
    (hpass : l.defaultPass = .inl l') (hlt : l.current < l'.current)
    (hlen : utf8Len rest' ≤ utf8Len rest) (hout : l'.output rest' = l.output rest)
    (h : l'.Finishes rest' fuel) : l.Finishes rest fuel := by
  obtain ⟨calls, l'', hrun, hcalls, hres, hinc⟩ := h
  cases fuel with
  | zero => simp [StateFn.run] at hrun
  | succ fuel =>
    have hcall : StateFn.default.call l = StateFn.default.call l' := defaultState_of_loop hpass
    refine ⟨calls, l'', ?_, by omega, hres.trans hout, ?_⟩
    · simp only [run_of_call_eq hcall, hrun, List.tail_cons]
    · rw [List.pairwise_cons] at hinc ⊢
      exact ⟨fun a ha => hlt.trans (hinc.1 a ha), hinc.2⟩

theorem Finishes.of_round {mid : List (StateFn × Lexer)} {l' : Lexer} {rest' : List Char}
    {fuel : Nat} (hround : Round l mid l') (hlt : l.current < l'.current)
    (hlen : mid.length + 1 + 2 * utf8Len rest' ≤ 2 * utf8Len rest)
    (hout : l'.output rest' = l.output rest) (h : l'.Finishes rest' fuel) :
    l.Finishes rest (fuel + 1 + mid.length) := by
  obtain ⟨calls, l'', hrun, hcalls, hres, hinc⟩ := h
  refine ⟨mid ++ (.default, l') :: calls, l'', ?_, ?_, hres.trans hout, ?_⟩
  · simp [hround.2 fuel, hrun]
  · simp only [List.length_append, List.length_cons]
    omega
  · rw [defaultOffsets_append hround.1, defaultOffsets_cons_default]
    refine List.pairwise_cons.2 ⟨fun a ha => ?_, hinc⟩
    rcases List.mem_cons.1 ha with rfl | ha
    · exact hlt
    · exact hlt.trans ((List.pairwise_cons.1 hinc).1 a ha)

/-! ## One round for each kind of lexeme -/

/-- From the default state at `l`, with `rest` left, a round reads a piece `m` off `rest` and adds
what the scanner makes of it, with fewer calls than twice the bytes of `m`. -/
def Advances (l : Lexer) (rest : List Char) : Prop :=
  ∃ mid l' m rest', rest = m ++ rest' ∧ Round l mid l' ∧ l'.source = l.source ∧
    l'.current = l.current + utf8Len m ∧ l'.output rest' = l.output rest ∧
    mid.length + 1 ≤ 2 * utf8Len m

theorem Advances.of_one {s : StateFn} {l₁ l' : Lexer} {m rest' : List Char}
    (hsplit : rest = m ++ rest') (h₀ : StateFn.default.call l = (l₁, some s)) (hs : s ≠ .default)
    (h₁ : s.call l₁ = (l', some .default)) (hsrc : l'.source = l.source)
    (hcur : l'.current = l.current + utf8Len m) (hout : l'.output rest' = l.output rest)
    (hm : m ≠ []) : l.Advances rest := by
  have hlen : 0 < utf8Len m := by
    obtain ⟨x, m', rfl⟩ := List.exists_cons_of_ne_nil hm
    simp [String.utf8Len_cons, x.utf8Size_pos]
  exact ⟨[(s, l₁)], l', m, rest', hsplit, Round.one h₀ hs h₁, hsrc, hcur, hout, by simp; omega⟩

theorem At.advances_number (h : l.At done (c :: rest))
    (hcall : StateFn.default.call l = ({ l with start := l.current }, some .number))
    (hc : c.isDigit = true) : l.Advances (c :: rest) := by
  by_cases hfrac : ∃ d more, rest.dropWhile Char.isDigit = '.' :: d :: more ∧ d.isDigit = true
  · obtain ⟨d, more, hr, hd⟩ := hfrac
    exact Advances.of_one (numeral_split hr) hcall (by decide) (h.restart.numberState_frac h.2 hc hr hd) rfl
      rfl (output_of_emit rfl rfl (Scan.tokensFrom_numeral_frac _ _ _ hc hr hd))
      (List.cons_ne_nil _ _)
  · have hr : ∀ d more, rest.dropWhile Char.isDigit = '.' :: d :: more → d.isDigit = false :=
      fun d more h => by
        cases hd : d.isDigit
        · rfl
        · exact absurd ⟨d, more, h, hd⟩ hfrac
    have hsplit : c :: rest =
        (c :: rest.takeWhile Char.isDigit) ++ rest.dropWhile Char.isDigit := by
      simp
    exact Advances.of_one hsplit hcall (by decide) (h.restart.numberState_whole h.2 hc hr) rfl rfl
      (output_of_emit rfl rfl (Scan.tokensFrom_numeral_whole _ _ hc hr)) (List.cons_ne_nil _ _)

theorem At.advances_string (h : l.At done ('"' :: rest))
    (hcall : StateFn.default.call l = ({ l with start := l.current }, some .string)) :
    l.Advances ('"' :: rest) := by
  cases hr : rest.dropWhile (· != '"') with
  | nil =>
    -- no closing quote: the string runs to the end of the source
    have hall : rest.takeWhile (· != '"') = rest := by
      simpa [hr] using List.takeWhile_append_dropWhile (p := (· != '"')) (l := rest)
    have hcur : l.current + '"'.utf8Size + utf8Len (rest.takeWhile (· != '"')) =
        l.current + utf8Len ('"' :: rest) := by
      rw [hall, String.utf8Len_cons]
      omega
    exact Advances.of_one (List.append_nil _).symm hcall (by decide)
      (h.restart.stringState_open hr) rfl hcur
      (output_of_fail rfl rfl (Scan.tokensFrom_unterminated _ _ hr)) (List.cons_ne_nil _ _)
  | cons x rest' =>
    have hx : x = '"' := by simpa using Munch.head_dropWhile _ hr
    subst hx
    exact Advances.of_one (string_split hr) hcall (by decide) (h.restart.stringState_closed h.2 hr) rfl rfl
      (output_of_emit rfl rfl (Scan.tokensFrom_string _ _ _ hr)) (List.cons_ne_nil _ _)

theorem At.advances_word (h : l.At done (c :: rest))
    (hcall : StateFn.default.call l = ({ l with start := l.current }, some .identifier))
    (hc : Scan.isIdentStart c = true) : l.Advances (c :: rest) := by
  have hsplit : c :: rest =
      (c :: rest.takeWhile Scan.isIdentChar) ++ rest.dropWhile Scan.isIdentChar := by
    simp
  have hword := Scan.tokensFrom_word l.line rest hc
  cases hk : Scan.keyword? (String.ofList (c :: rest.takeWhile Scan.isIdentChar)) with
  | some k =>
    simp only [hk] at hword
    exact Advances.of_one hsplit hcall (by decide) (h.restart.identifierState_keyword h.2 hc hk)
      rfl rfl (output_of_emit rfl rfl hword) (List.cons_ne_nil _ _)
  | none =>
    simp only [hk] at hword
    exact Advances.of_one hsplit hcall (by decide) (h.restart.identifierState_name h.2 hc hk)
      rfl rfl (output_of_emit rfl rfl hword) (List.cons_ne_nil _ _)

theorem At.advances_comment (h : l.At done ('/' :: '/' :: rest))
    (hcall : StateFn.default.call l = ({ l with start := l.current }, some .operator)) :
    l.Advances ('/' :: '/' :: rest) := by
  have htake : ('/' :: rest).takeWhile (· != '\n') = '/' :: rest.takeWhile (· != '\n') := by
    rw [List.takeWhile_cons, if_pos (by decide)]
  have hsplit : '/' :: '/' :: rest =
      ('/' :: '/' :: rest.takeWhile (· != '\n')) ++ rest.dropWhile (· != '\n') := by
    simp
  have hslash : '/'.utf8Size = 1 := rfl
  refine ⟨_, _, _, _, hsplit, Round.two hcall (by decide) h.restart.operatorState_comment
    (by decide) h.restart.advance.lineCommentState, rfl, ?_,
    output_of_skip rfl rfl (Scan.tokensFrom_comment _ rest), ?_⟩
  · simp only [htake, String.utf8Len_cons, hslash]
    omega
  · simp only [List.length_cons, List.length_nil, String.utf8Len_cons, hslash]
    omega

section Operators

variable (h : l.At done (c :: rest))
  (hcall : StateFn.default.call l = ({ l with start := l.current }, some .operator))
  (hno : NoPair c rest)
include h hcall hno

theorem At.advances_single {k : TokenKind} (hk : Scan.singleKind? c = some k)
    (hscan : Scan.tokensFrom l.line (c :: rest) =
      Scan.emit ⟨k, String.singleton c, .absent, l.line⟩ (Scan.tokensFrom l.line rest)) :
    l.Advances (c :: rest) :=
  Advances.of_one List.singleton_append.symm hcall (by decide) (h.restart.operatorState_single h.2 hno hk) rfl
    (by simp [String.utf8Len_cons]) (output_of_emit rfl rfl hscan) (List.cons_ne_nil _ _)

theorem At.advances_unexpected (hk : Scan.singleKind? c = none)
    (hscan : Scan.tokensFrom l.line (c :: rest) =
      Scan.fail ⟨l.line, .unexpectedChar⟩ (Scan.tokensFrom l.line rest)) :
    l.Advances (c :: rest) :=
  Advances.of_one List.singleton_append.symm hcall (by decide) (h.restart.operatorState_unexpected hno hk) rfl
    (by simp [String.utf8Len_cons]) (output_of_fail rfl rfl hscan) (List.cons_ne_nil _ _)

end Operators

theorem At.advances_operator (h : l.At done (c :: rest))
    (hcall : StateFn.default.call l = ({ l with start := l.current }, some .operator))
    (hb : ¬(c = ' ' ∨ c = '\t' ∨ c = '\r' ∨ c = '\n'))
    (hw : ¬(c = '_' ∨ Text.isLetter c = true)) (hd : c.isDigit = false) (hq : c ≠ '"')
    (hcm : ¬(c = '/' ∧ rest.head? = some '/')) : l.Advances (c :: rest) := by
  have hop := Scan.tokensFrom_operator l.line hb hw hd hq hcm
  rcases rest with _ | ⟨d, more⟩
  · -- the source ends with `c`
    cases hk : Scan.singleKind? c with
    | some k =>
      simp only [hk] at hop
      exact h.advances_single hcall ⟨hcm, rfl⟩ hk hop
    | none =>
      simp only [hk] at hop
      exact h.advances_unexpected hcall ⟨hcm, rfl⟩ hk hop
  cases hp : Scan.pairKind? c d with
  | some k =>
    have hc : ¬(c = '/' ∧ d = '/') := by simpa using hcm
    simp only [hp] at hop
    have hpair : c :: d :: more = [c, d] ++ more := rfl
    exact Advances.of_one hpair hcall (by decide) (h.restart.operatorState_pair h.2 hc hp) rfl rfl
      (output_of_emit rfl rfl hop) (List.cons_ne_nil _ _)
  | none =>
    have hno : NoPair c (d :: more) := ⟨hcm, hp⟩
    cases hk : Scan.singleKind? c with
    | some k =>
      simp only [hp, hk] at hop
      exact h.advances_single hcall hno hk hop
    | none =>
      simp only [hp, hk] at hop
      exact h.advances_unexpected hcall hno hk hop

/-- What the default state does with `c` next: its loop reads past a blank or a line feed, which
the scanner drops, or it hands over for a round. -/
theorem At.step (h : l.At done (c :: rest)) :
    (∃ l', l.defaultPass = .inl l' ∧ l'.At (done ++ [c]) rest ∧
      l'.output rest = l.output (c :: rest)) ∨ l.Advances (c :: rest) := by
  by_cases hn : c = '\n'
  · subst hn
    exact .inl ⟨_, h.defaultPass_newline, h.advance.of_eq rfl rfl,
      output_of_skip rfl rfl (Scan.tokensFrom_newline _ rest)⟩
  by_cases hb : c = ' ' ∨ c = '\t' ∨ c = '\r'
  · exact .inl ⟨_, h.defaultPass_blank hb, h.advance.of_eq rfl rfl,
      output_of_skip rfl rfl (Scan.tokensFrom_blank _ rest hb)⟩
  right
  have hcall := h.default_call_dispatch hb hn
  by_cases hd : c.isDigit = true
  · rw [if_pos hd] at hcall
    exact h.advances_number hcall hd
  rw [if_neg hd] at hcall
  by_cases hq : c = '"'
  · subst hq
    rw [if_pos rfl] at hcall
    exact h.advances_string hcall
  rw [if_neg hq] at hcall
  by_cases hi : Scan.isIdentStart c = true
  · rw [if_pos hi] at hcall
    exact h.advances_word hcall hi
  rw [if_neg hi] at hcall
  by_cases hcm : c = '/' ∧ rest.head? = some '/'
  · obtain ⟨rfl, hh⟩ := hcm
    obtain ⟨rest', rfl⟩ : ∃ rest', rest = '/' :: rest' := by
      cases rest with
      | nil => cases hh
      | cons y rest' => exact ⟨rest', by rw [Option.some.inj hh]⟩
    exact h.advances_comment hcall
  have hb' : ¬(c = ' ' ∨ c = '\t' ∨ c = '\r' ∨ c = '\n') := by
    rintro (h' | h' | h' | h')
    · exact hb (.inl h')
    · exact hb (.inr (.inl h'))
    · exact hb (.inr (.inr h'))
    · exact hn h'
  have hw : ¬(c = '_' ∨ Text.isLetter c = true) := by simpa [Scan.isIdentStart] using hi
  exact h.advances_operator hcall hb' hw (by simpa using hd) hq hcm

/-- From a lexer with `rest` left to read, a run with at least `2 * utf8Len rest + 1` calls
finishes. -/
theorem At.finishes (h : l.At done rest) (fuel : Nat) (hfuel : 2 * utf8Len rest + 1 ≤ fuel) :
    l.Finishes rest fuel := by
  -- on the bytes left: a pass of the loop reads a rune, and a round a nonempty piece
  induction hn : utf8Len rest using Nat.strongRecOn generalizing l done rest fuel with
  | _ n ih =>
  subst hn
  rcases rest with _ | ⟨c, rest⟩
  · obtain ⟨fuel, rfl⟩ : ∃ f, fuel = f + 1 := ⟨fuel - 1, by omega⟩
    exact h.finishes_nil fuel
  have hc := c.utf8Size_pos
  rcases h.step with ⟨l', hpass, h', hout⟩ |
    ⟨mid, l', m, rest', hsplit, hround, hsrc, hcur, hout, hmid⟩
  · have hlen : utf8Len rest < utf8Len (c :: rest) := by
      rw [String.utf8Len_cons]
      omega
    have hlt : l.current < l'.current := by
      rw [h.2, h'.2, String.utf8Len_append, String.utf8Len_cons, String.utf8Len_nil]
      omega
    exact Finishes.of_loop hpass hlt hlen.le hout (ih _ hlen h' fuel (by omega) rfl)
  · have h' : l'.At (done ++ m) rest' := ((hsplit ▸ h).forward).of_eq hsrc hcur
    have hbytes : utf8Len (c :: rest) = utf8Len m + utf8Len rest' := by
      rw [hsplit, String.utf8Len_append]
    obtain ⟨fuel, rfl⟩ : ∃ f, fuel = f + 1 + mid.length := ⟨fuel - 1 - mid.length, by omega⟩
    exact Finishes.of_round hround (by omega) (by omega) hout
      (ih _ (by omega) h' fuel (by omega) rfl)

theorem at_init (source : String) : (init source).At [] source.toList :=
  ⟨by simp [init], rfl⟩

theorem init_finishes (source : String) (spare : Nat) :
    (init source).Finishes source.toList (2 * source.utf8ByteSize + 1 + spare) := by
  have hsize := String.utf8Len_toList source
  exact (at_init source).finishes _ (by omega)

/-- The state machine halts on every source. Started in the default state at the beginning of the
source, with calls to spare past twice the source's length in bytes plus one, the run reaches the
nil state, having called a state function at most that many times, and it calls the default
state at strictly increasing offsets; each pass of the default state's own loop reads a rune of
the source. -/
theorem run_halts (source : String) (spare : Nat) :
    ∃ calls l, StateFn.run (2 * source.utf8ByteSize + 1 + spare) .default (init source) =
        (calls, some l) ∧
      calls.length ≤ 2 * source.utf8ByteSize + 1 ∧
      (defaultOffsets calls).IsChain (· < ·) ∧
      ∀ l₁ l₂ : Lexer, l₁.defaultPass = .inl l₂ →
        ∃ c, l₁.peek = some c ∧ l₂.current = l₁.current + c.utf8Size ∧ l₂.source = l₁.source := by
  have hsize := String.utf8Len_toList source
  obtain ⟨calls, l, hrun, hcalls, -, hinc⟩ := init_finishes source spare
  refine ⟨_, l, hrun, ?_, ?_, fun _ _ => defaultPass_consumes⟩
  · simp only [List.length_cons]
    omega
  · rw [defaultOffsets_cons_default]
    exact hinc.isChain

/-- The state machine lexes as `scan` does: the lexer it halts with holds the tokens and faults
`scan` gives for the source. -/
theorem run_scans (source : String) (spare : Nat) :
    ∃ calls l, StateFn.run (2 * source.utf8ByteSize + 1 + spare) .default (init source) =
        (calls, some l) ∧ (l.tokens, l.faults) = scan source := by
  obtain ⟨calls, l, hrun, -, hout, -⟩ := init_finishes source spare
  refine ⟨_, l, hrun, ?_⟩
  rw [hout]
  simp [output, init, scan]

end Lexer

end MiniLox
