import MiniLox.Syntax.Parse

/-!
# The parser's cursor

A parser holds a slice of tokens and a cursor into it. A new parser takes the token list as it
is when its last token is an end-of-input token, and adds one on the line of the last token
otherwise (line 1 when there are none). Reading a token moves the cursor past it, except at an
end-of-input token, where the cursor stays. Each parsing function returns the cursor where it
stopped, never before the one it started from. A read outside the slice would stop the program:
it is an outcome of its own, `outOfRange`, or `none` for the whole run.
-/

set_option autoImplicit false

namespace MiniLox

/-- The end-of-input token a new parser adds to a list without one: on the line of its last
token, or line 1 when it is empty. -/
def Token.endAfter (ts : List Token) : Token :=
  ⟨.eof, "", .absent, (ts.getLast?.map (·.line)).getD 1⟩

/-- A parser: its slice of tokens and its cursor. -/
structure Parser where
  tokens : Array Token
  current : Nat

namespace Parser

/-- A new parser, at the start of the token list ended by an end-of-input token. -/
def new (ts : List Token) : Parser :=
  if ts.getLast?.any (·.kind == .eof) then ⟨ts.toArray, 0⟩
  else ⟨(ts ++ [Token.endAfter ts]).toArray, 0⟩

/-- What a parsing function gives from the cursor `i`: a value or a syntax error, with the cursor
where it stopped, or a read out of the slice. -/
inductive Reply (i : Nat) (α : Type) where
  | ok (a : α) (j : Nat) (h : i ≤ j)
  | error (e : SyntaxError) (j : Nat) (h : i ≤ j)
  | outOfRange

def Reply.widen {i j : Nat} {α : Type} (h : i ≤ j) : Reply j α → Reply i α
  | .ok a k hk => .ok a k (Nat.le_trans h hk)
  | .error e k hk => .error e k (Nat.le_trans h hk)
  | .outOfRange => .outOfRange

inductive Parsed (i : Nat) where
  | stmt (s : Stmt) (j : Nat) (h : i < j)
  | error (e : SyntaxError) (j : Nat) (h : i ≤ j)
  | outOfRange

def Parsed.widen {i j : Nat} (h : i ≤ j) : Parsed j → Parsed i
  | .stmt s k hk => .stmt s k (Nat.lt_of_le_of_lt h hk)
  | .error e k hk => .error e k (Nat.le_trans h hk)
  | .outOfRange => .outOfRange

/-- What a parse comes to, seen from the cursor: the value read or the error met, with the cursor
where it stopped, or `none` for a read out of the slice. -/
abbrev View (α : Type) := Option (Except SyntaxError α × Nat)

def View.bind {α β : Type} (v : View α) (k : α → Nat → View β) : View β :=
  match v with
  | some (.ok a, j) => k a j
  | some (.error e, j) => some (.error e, j)
  | none => none

@[simp] theorem View.bind_ok {α β : Type} (a : α) (j : Nat) (k : α → Nat → View β) :
    View.bind (some (.ok a, j)) k = k a j := rfl

@[simp] theorem View.bind_error {α β : Type} (e : SyntaxError) (j : Nat) (k : α → Nat → View β) :
    View.bind (some (.error e, j)) k = some (.error e, j) := rfl

@[simp] theorem View.bind_none {α β : Type} (k : α → Nat → View β) :
    View.bind none k = none := rfl

def Reply.view {i : Nat} {α : Type} : Reply i α → View α
  | .ok a j _ => some (.ok a, j)
  | .error e j _ => some (.error e, j)
  | .outOfRange => none

@[simp] theorem Reply.view_ok {i : Nat} {α : Type} (a : α) (j : Nat) (h : i ≤ j) :
    (Reply.ok a j h).view = some (.ok a, j) := rfl

@[simp] theorem Reply.view_error {i : Nat} {α : Type} (e : SyntaxError) (j : Nat) (h : i ≤ j) :
    (Reply.error e j h : Reply i α).view = some (.error e, j) := rfl

@[simp] theorem Reply.view_outOfRange {i : Nat} {α : Type} :
    (Reply.outOfRange : Reply i α).view = none := rfl

@[simp] theorem Reply.view_widen {i j : Nat} {α : Type} (h : i ≤ j) (r : Reply j α) :
    (r.widen h).view = r.view := by
  cases r <;> rfl

def Parsed.view {i : Nat} : Parsed i → View Stmt
  | .stmt s j _ => some (.ok s, j)
  | .error e j _ => some (.error e, j)
  | .outOfRange => none

@[simp] theorem Parsed.view_stmt {i : Nat} (s : Stmt) (j : Nat) (h : i < j) :
    (Parsed.stmt s j h).view = some (.ok s, j) := rfl

@[simp] theorem Parsed.view_error {i : Nat} (e : SyntaxError) (j : Nat) (h : i ≤ j) :
    (Parsed.error e j h).view = some (.error e, j) := rfl

@[simp] theorem Parsed.view_outOfRange {i : Nat} : (Parsed.outOfRange : Parsed i).view = none := rfl

@[simp] theorem Parsed.view_widen {i j : Nat} (h : i ≤ j) (p : Parsed j) :
    (p.widen h).view = p.view := by
  cases p <;> rfl

theorem Reply.le_of_view {i j : Nat} {α : Type} {r : Reply i α} {x : Except SyntaxError α}
    (h : r.view = some (x, j)) : i ≤ j := by
  cases r with
  | ok a k hk =>
    obtain ⟨-, rfl⟩ := Prod.mk.inj (Option.some.inj h)
    exact hk
  | error e k hk =>
    obtain ⟨-, rfl⟩ := Prod.mk.inj (Option.some.inj h)
    exact hk
  | outOfRange => cases h

theorem Parsed.le_of_view {i j : Nat} {p : Parsed i} {x : Except SyntaxError Stmt}
    (h : p.view = some (x, j)) : i ≤ j := by
  cases p with
  | stmt s k hk =>
    obtain ⟨-, rfl⟩ := Prod.mk.inj (Option.some.inj h)
    exact Nat.le_of_lt hk
  | error e k hk =>
    obtain ⟨-, rfl⟩ := Prod.mk.inj (Option.some.inj h)
    exact hk
  | outOfRange => cases h

theorem Parsed.lt_of_view_ok {i j : Nat} {p : Parsed i} {s : Stmt}
    (h : p.view = some (.ok s, j)) : i < j := by
  cases p with
  | stmt s' k hk =>
    obtain ⟨-, rfl⟩ := Prod.mk.inj (Option.some.inj h)
    exact hk
  | error e k hk => simp at h
  | outOfRange => cases h

section Cursor

variable (toks : Array Token)

def peek (i : Nat) : Option Token := toks[i]?

def previous (i : Nat) : Option Token := if i = 0 then toks[0]? else toks[i - 1]?

def atEnd (i : Nat) : Option Bool := (peek toks i).map (·.kind == .eof)

/-- Reads the token under the cursor, and moves past it unless it ends the input. -/
def advance (i : Nat) : Option (Token × Nat) :=
  (peek toks i).map fun t => (t, if t.kind = .eof then i else i + 1)

def check (i : Nat) (k : TokenKind) : Option Bool := (peek toks i).map (·.kind == k)

def accept (i : Nat) : List TokenKind → Option (Bool × Nat)
  | [] => some (false, i)
  | k :: ks =>
    match check toks i k with
    | none => none
    | some true => (advance toks i).map fun r => (true, r.2)
    | some false => accept i ks

variable {toks} {i j : Nat} {t : Token}

theorem lt_size_of_peek (h : peek toks i = some t) : i < toks.size :=
  (Array.getElem?_eq_some_iff.1 h).1

theorem advance_of_peek (h : peek toks i = some t) :
    advance toks i = some (t, if t.kind = .eof then i else i + 1) := by
  simp [advance, h]

theorem advance_le (h : advance toks i = some (t, j)) : i ≤ j := by
  cases hp : peek toks i with
  | none => simp [advance, hp] at h
  | some u =>
    rw [advance_of_peek hp] at h
    obtain ⟨-, rfl⟩ := Prod.mk.inj (Option.some.inj h)
    split <;> omega

theorem advance_succ (h : advance toks i = some (t, j)) (ht : t.kind ≠ .eof) :
    i < toks.size ∧ j = i + 1 := by
  cases hp : peek toks i with
  | none => simp [advance, hp] at h
  | some u =>
    rw [advance_of_peek hp] at h
    obtain ⟨rfl, rfl⟩ := Prod.mk.inj (Option.some.inj h)
    exact ⟨lt_size_of_peek hp, if_neg ht⟩

theorem advance_of_check {k : TokenKind} (hc : check toks i k = some true) (hk : k ≠ .eof)
    (h : advance toks i = some (t, j)) : i < toks.size ∧ j = i + 1 := by
  cases hp : peek toks i with
  | none => simp [check, hp] at hc
  | some u =>
    have hu : u.kind = k := by simpa [check, hp] using hc
    rw [advance_of_peek hp] at h
    obtain ⟨rfl, rfl⟩ := Prod.mk.inj (Option.some.inj h)
    exact advance_succ (advance_of_peek hp) (hu ▸ hk)

theorem accept_le {ks : List TokenKind} {b : Bool} (h : accept toks i ks = some (b, j)) :
    i ≤ j := by
  induction ks with
  | nil =>
    simp only [accept, Option.some.injEq, Prod.mk.injEq] at h
    omega
  | cons k ks ih =>
    simp only [accept] at h
    split at h
    · cases h
    · obtain ⟨⟨u, j'⟩, hn, hr⟩ := Option.map_eq_some_iff.1 h
      obtain ⟨-, rfl⟩ := Prod.mk.inj hr
      exact advance_le hn
    · exact ih h

theorem accept_true {ks : List TokenKind} (h : accept toks i ks = some (true, j))
    (hks : .eof ∉ ks) : i < toks.size ∧ j = i + 1 := by
  induction ks with
  | nil => simp [accept] at h
  | cons k ks ih =>
    simp only [accept] at h
    split at h
    · cases h
    · next hc =>
      obtain ⟨⟨u, j'⟩, hn, hr⟩ := Option.map_eq_some_iff.1 h
      obtain ⟨-, rfl⟩ := Prod.mk.inj hr
      exact advance_of_check hc (fun he => hks (he ▸ List.mem_cons_self ..)) hn
    · exact ih h (fun he => hks (List.mem_cons_of_mem k he))

theorem check_of_peek {k : TokenKind} (h : peek toks i = some t) :
    check toks i k = some (t.kind == k) := by
  simp [check, h]

theorem atEnd_of_peek (h : peek toks i = some t) : atEnd toks i = some (t.kind == .eof) := by
  simp [atEnd, h]

theorem previous_succ (h : peek toks i = some t) : previous toks (i + 1) = some t := by
  simpa [previous, peek] using h

theorem accept_of_peek {ks : List TokenKind} (h : peek toks i = some t) :
    accept toks i ks =
      some (if t.kind ∈ ks then (true, if t.kind = .eof then i else i + 1) else (false, i)) := by
  induction ks with
  | nil => simp [accept]
  | cons k ks ih =>
    simp only [accept, check_of_peek h]
    by_cases hk : t.kind = k
    · subst hk
      simp [advance_of_peek h]
    · have hne : (t.kind == k) = false := by simpa using hk
      simp [hne, ih, hk]

variable (toks)

def expect (i : Nat) (k : TokenKind) (fault : SyntaxFault) : Reply i Token :=
  match check toks i k with
  | none => .outOfRange
  | some true =>
    match h : advance toks i with
    | none => .outOfRange
    | some (t, j) => .ok t j (advance_le h)
  | some false =>
    match peek toks i with
    | none => .outOfRange
    | some t => .error ⟨t, fault⟩ i (Nat.le_refl _)

variable {toks}

theorem expect_lt {k : TokenKind} {fault : SyntaxFault} {h : i ≤ j}
    (hx : expect toks i k fault = .ok t j h) (hk : k ≠ .eof) : i < j := by
  unfold expect at hx
  split at hx
  · cases hx
  · next hc =>
    split at hx
    · cases hx
    · next u j' hn =>
      cases hx
      exact (advance_of_check hc hk hn).2 ▸ Nat.lt_succ_self i
  · split at hx <;> cases hx

theorem expect_of_peek {k : TokenKind} {fault : SyntaxFault} (h : peek toks i = some t) :
    (expect toks i k fault).view =
      if t.kind = k then some (.ok t, if t.kind = .eof then i else i + 1)
      else some (.error ⟨t, fault⟩, i) := by
  unfold expect
  rw [check_of_peek h]
  by_cases hk : t.kind = k
  · subst hk
    simp only [beq_self_eq_true, if_true]
    split
    · next hn => simp [advance_of_peek h] at hn
    · next u j hn =>
      rw [advance_of_peek h] at hn
      obtain ⟨rfl, rfl⟩ := Prod.mk.inj (Option.some.inj hn)
      rfl
  · have hne : (t.kind == k) = false := by simpa using hk
    simp only [hne, hk, if_false, h]
    rfl

theorem Tier.eof_not_mem_operators (tier : Tier) : .eof ∉ tier.operators := by
  cases tier <;> decide

variable (toks)

mutual

/-- `assignment := equality ( "=" assignment )?`, the target checked once the value is read. -/
def assignment (i : Nat) : Reply i Expr :=
  match binary .equality i with
  | .outOfRange => .outOfRange
  | .error e j h => .error e j h
  | .ok expr j h =>
    match hc : check toks j .equal with
    | none => .outOfRange
    | some false => .ok expr j h
    | some true =>
      match hn : advance toks j with
      | none => .outOfRange
      | some (equals, k) =>
        match assignment k with
        | .outOfRange => .outOfRange
        | .error e l hl => .error e l (by have := advance_le hn; omega)
        | .ok value l hl =>
          match expr with
          | .var name => .ok (.assign name value) l (by have := advance_le hn; omega)
          | _ => .error ⟨equals, .invalidAssignment⟩ l (by have := advance_le hn; omega)
termination_by (toks.size - i, 12)
decreasing_by
  · exact Prod.Lex.right _ (by decide)
  · have := advance_of_check hc (by decide) hn
    exact Prod.Lex.left _ _ (by omega)

def binary (tier : Tier) (i : Nat) : Reply i Expr :=
  match operand tier i with
  | .outOfRange => .outOfRange
  | .error e j h => .error e j h
  | .ok lhs j h => (binaryLoop tier lhs j).widen h
termination_by (toks.size - i, 2 * tier.rank + 5)
decreasing_by
  · exact Prod.Lex.right _ (by omega)
  · exact Parse.lex_of_le (by omega) (by omega)

def operand (tier : Tier) (i : Nat) : Reply i Expr :=
  match _h : tier.tighter with
  | some u => binary u i
  | none => unary i
termination_by (toks.size - i, 2 * tier.rank + 4)
decreasing_by
  · have := Tier.rank_tighter _h; exact Prod.Lex.right _ (by omega)
  · exact Prod.Lex.right _ (by omega)

def binaryLoop (tier : Tier) (lhs : Expr) (i : Nat) : Reply i Expr :=
  match ha : accept toks i tier.operators with
  | none => .outOfRange
  | some (false, j) => .ok lhs j (accept_le ha)
  | some (true, j) =>
    match previous toks j with
    | none => .outOfRange
    | some op =>
      match operand tier j with
      | .outOfRange => .outOfRange
      | .error e k hk => .error e k (by have := accept_le ha; omega)
      | .ok rhs k hk =>
        (binaryLoop tier (.binary lhs op rhs) k).widen (by have := accept_le ha; omega)
termination_by (toks.size - i, 2 * tier.rank + 3)
decreasing_by
  · have := accept_true ha (Tier.eof_not_mem_operators tier)
    exact Prod.Lex.left _ _ (by omega)
  · have := accept_true ha (Tier.eof_not_mem_operators tier)
    exact Prod.Lex.left _ _ (by omega)

def unary (i : Nat) : Reply i Expr :=
  match ha : accept toks i [.bang, .minus] with
  | none => .outOfRange
  | some (true, j) =>
    match previous toks j with
    | none => .outOfRange
    | some op =>
      match unary j with
      | .outOfRange => .outOfRange
      | .error e k hk => .error e k (by have := accept_le ha; omega)
      | .ok right k hk => .ok (.unary op right) k (by have := accept_le ha; omega)
  | some (false, j) => (primary j).widen (accept_le ha)
termination_by (toks.size - i, 2)
decreasing_by
  · have := accept_true ha (by decide)
    exact Prod.Lex.left _ _ (by omega)
  · exact Parse.lex_of_le (by have := accept_le ha; omega) (by omega)

def primary (i : Nat) : Reply i Expr :=
  match hp : peek toks i with
  | none => .outOfRange
  | some tok =>
    if tok.kind.isLiteral then
      match hn : advance toks i with
      | none => .outOfRange
      | some (t, j) => .ok (.literal t) j (advance_le hn)
    else if tok.kind = .identifier then
      match hn : advance toks i with
      | none => .outOfRange
      | some (t, j) => .ok (.var t) j (advance_le hn)
    else if hl : tok.kind = .leftParen then
      -- the parenthesised expression, past its opening parenthesis
      match hn : advance toks i with
      | none => .outOfRange
      | some (_, j) =>
        match assignment j with
        | .outOfRange => .outOfRange
        | .error e k hk => .error e k (by have := advance_le hn; omega)
        | .ok inner k hk =>
          match expect toks k .rightParen .expectRightParen with
          | .outOfRange => .outOfRange
          | .error e l hl' => .error e l (by have := advance_le hn; omega)
          | .ok _ l hl' => .ok (.grouping inner) l (by have := advance_le hn; omega)
    else .error ⟨tok, .expectExpression⟩ i (Nat.le_refl _)
termination_by (toks.size - i, 1)
decreasing_by
  · rw [advance_of_peek hp, if_neg (by rw [hl]; decide)] at hn
    obtain ⟨-, rfl⟩ := Prod.mk.inj (Option.some.inj hn)
    have := lt_size_of_peek hp
    exact Prod.Lex.left _ _ (by omega)

end

/-! ## What the parsers return

Each parser's view in terms of the views of the parsers it calls, so that later proofs rewrite
with these equations and never unfold a parser. -/

variable {toks}

theorem assignment_view (i : Nat) :
    (assignment toks i).view =
      (binary toks .equality i).view.bind fun expr j =>
        (check toks j .equal).bind fun b =>
          if b then
            (advance toks j).bind fun r =>
              (assignment toks r.2).view.bind fun value l =>
                match expr with
                | .var name => some (.ok (.assign name value), l)
                | _ => some (.error ⟨r.1, .invalidAssignment⟩, l)
          else some (.ok expr, j) := by
  rw [assignment]
  cases binary toks .equality i with
  | outOfRange => rfl
  | error e j h => rfl
  | ok expr j h =>
    simp only [Reply.view_ok, View.bind_ok]
    split
    · next hc => simp [hc]
    · next hc => simp [hc]
    · next hc =>
      simp only [hc, Option.bind_some, if_true]
      split
      · next hn => simp [hn]
      · next equals k hn =>
        simp only [hn, Option.bind_some]
        cases assignment toks k with
        | outOfRange => rfl
        | error e l hl => rfl
        | ok value l hl => cases expr <;> rfl

theorem binary_view (tier : Tier) (i : Nat) :
    (binary toks tier i).view =
      (operand toks tier i).view.bind fun lhs j => (binaryLoop toks tier lhs j).view := by
  rw [binary]
  cases operand toks tier i with
  | outOfRange => rfl
  | error e j h => rfl
  | ok lhs j h => simp only [Reply.view_ok, View.bind_ok, Reply.view_widen]

theorem operand_of_tighter {tier u : Tier} (h : tier.tighter = some u) (i : Nat) :
    operand toks tier i = binary toks u i := by
  rw [operand]
  split <;> simp_all

theorem operand_factor (i : Nat) : operand toks .factor i = unary toks i := by
  rw [operand]
  split <;> simp_all [Tier.tighter]

theorem binaryLoop_view (tier : Tier) (lhs : Expr) (i : Nat) :
    (binaryLoop toks tier lhs i).view =
      (accept toks i tier.operators).bind fun r =>
        if r.1 then
          (previous toks r.2).bind fun op =>
            (operand toks tier r.2).view.bind fun rhs k =>
              (binaryLoop toks tier (.binary lhs op rhs) k).view
        else some (.ok lhs, r.2) := by
  rw [binaryLoop]
  split
  · next ha => simp [ha]
  · next j ha => simp [ha]
  · next j ha =>
    simp only [ha, Option.bind_some, if_true]
    cases previous toks j with
    | none => rfl
    | some op =>
      simp only [Option.bind_some]
      cases operand toks tier j with
      | outOfRange => rfl
      | error e k hk => rfl
      | ok rhs k hk => simp only [Reply.view_ok, View.bind_ok, Reply.view_widen]

theorem unary_view (i : Nat) :
    (unary toks i).view =
      (accept toks i [.bang, .minus]).bind fun r =>
        if r.1 then
          (previous toks r.2).bind fun op =>
            (unary toks r.2).view.bind fun right k => some (.ok (.unary op right), k)
        else (primary toks r.2).view := by
  rw [unary]
  split
  · next ha => simp [ha]
  · next j ha =>
    simp only [ha, Option.bind_some, if_true]
    cases previous toks j with
    | none => rfl
    | some op =>
      simp only [Option.bind_some]
      cases unary toks j with
      | outOfRange => rfl
      | error e k hk => rfl
      | ok right k hk => rfl
  · next j ha => simp [ha]

theorem primary_view (i : Nat) :
    (primary toks i).view =
      (peek toks i).bind fun tok =>
        if tok.kind.isLiteral then (advance toks i).bind fun r => some (.ok (.literal r.1), r.2)
        else if tok.kind = .identifier then
          (advance toks i).bind fun r => some (.ok (.var r.1), r.2)
        else if tok.kind = .leftParen then
          (advance toks i).bind fun r =>
            (assignment toks r.2).view.bind fun inner k =>
              (expect toks k .rightParen .expectRightParen).view.bind fun _ l =>
                some (.ok (.grouping inner), l)
        else some (.error ⟨tok, .expectExpression⟩, i) := by
  rw [primary]
  split
  · next hp => simp [hp]
  · next tok hp =>
    simp only [hp, Option.bind_some]
    by_cases hlit : tok.kind.isLiteral
    · rw [if_pos hlit, if_pos hlit]
      split
      · next hn => simp [hn]
      · next t j hn => simp [hn]
    rw [if_neg hlit, if_neg hlit]
    by_cases hid : tok.kind = .identifier
    · rw [if_pos hid, if_pos hid]
      split
      · next hn => simp [hn]
      · next t j hn => simp [hn]
    rw [if_neg hid, if_neg hid]
    by_cases hl : tok.kind = .leftParen
    · rw [dif_pos hl, if_pos hl]
      split
      · next hn => simp [hn]
      · next t j hn =>
        simp only [hn, Option.bind_some]
        cases assignment toks j with
        | outOfRange => rfl
        | error e k hk => rfl
        | ok inner k hk =>
          simp only [Reply.view_ok, View.bind_ok]
          cases expect toks k .rightParen .expectRightParen <;> rfl
    · rw [dif_neg hl, if_neg hl]
      rfl

variable (toks)

def terminate (fault : SyntaxFault) (s : Stmt) (i : Nat) : Parsed i :=
  match hx : expect toks i .semicolon fault with
  | .outOfRange => .outOfRange
  | .error e j h => .error e j h
  | .ok _ j _ => .stmt s j (expect_lt hx (by decide))

def exprStatement (fault : SyntaxFault) (make : Expr → Stmt) (i : Nat) : Parsed i :=
  match assignment toks i with
  | .outOfRange => .outOfRange
  | .error e j h => .error e j h
  | .ok e j h => (terminate toks fault (make e) j).widen h

def varDecl (i : Nat) : Parsed i :=
  match expect toks i .identifier .expectVariableName with
  | .outOfRange => .outOfRange
  | .error e j h => .error e j h
  | .ok name j h =>
    match ha : accept toks j [.equal] with
    | none => .outOfRange
    | some (true, k) =>
      match assignment toks k with
      | .outOfRange => .outOfRange
      | .error e l hl => .error e l (by have := accept_le ha; omega)
      | .ok init l hl =>
        (terminate toks .expectSemicolonAfterDeclaration (.varDecl name (some init)) l).widen
          (by have := accept_le ha; omega)
    | some (false, k) =>
      (terminate toks .expectSemicolonAfterDeclaration (.varDecl name none) k).widen
        (by have := accept_le ha; omega)

def statement (i : Nat) : Parsed i :=
  match ha : accept toks i [.printKw] with
  | none => .outOfRange
  | some (true, j) =>
    (exprStatement toks .expectSemicolonAfterValue .print j).widen (accept_le ha)
  | some (false, j) =>
    (exprStatement toks .expectSemicolonAfterExpression .expression j).widen (accept_le ha)

def declaration (i : Nat) : Parsed i :=
  match ha : accept toks i [.varKw] with
  | none => .outOfRange
  | some (true, j) => (varDecl toks j).widen (accept_le ha)
  | some (false, j) => (statement toks j).widen (accept_le ha)

variable {toks}

theorem terminate_view (fault : SyntaxFault) (s : Stmt) (i : Nat) :
    (terminate toks fault s i).view =
      (expect toks i .semicolon fault).view.bind fun _ j => some (.ok s, j) := by
  unfold terminate
  split
  · next hx => simp [hx]
  · next e j h hx => simp [hx]
  · next u j h hx => simp [hx]

theorem exprStatement_view (fault : SyntaxFault) (make : Expr → Stmt) (i : Nat) :
    (exprStatement toks fault make i).view =
      (assignment toks i).view.bind fun e j => (terminate toks fault (make e) j).view := by
  unfold exprStatement
  cases assignment toks i with
  | outOfRange => rfl
  | error e j h => rfl
  | ok e j h => simp only [Reply.view_ok, View.bind_ok, Parsed.view_widen]

theorem varDecl_view (i : Nat) :
    (varDecl toks i).view =
      (expect toks i .identifier .expectVariableName).view.bind fun name j =>
        (accept toks j [.equal]).bind fun r =>
          if r.1 then
            (assignment toks r.2).view.bind fun init l =>
              (terminate toks .expectSemicolonAfterDeclaration (.varDecl name (some init)) l).view
          else (terminate toks .expectSemicolonAfterDeclaration (.varDecl name none) r.2).view := by
  unfold varDecl
  cases expect toks i .identifier .expectVariableName with
  | outOfRange => rfl
  | error e j h => rfl
  | ok name j h =>
    simp only [Reply.view_ok, View.bind_ok]
    split
    · next ha => simp [ha]
    · next k ha =>
      simp only [ha, Option.bind_some, if_true]
      cases assignment toks k with
      | outOfRange => rfl
      | error e l hl => rfl
      | ok init l hl => simp only [Reply.view_ok, View.bind_ok, Parsed.view_widen]
    · next k ha => simp [ha]

theorem statement_view (i : Nat) :
    (statement toks i).view =
      (accept toks i [.printKw]).bind fun r =>
        if r.1 then (exprStatement toks .expectSemicolonAfterValue .print r.2).view
        else (exprStatement toks .expectSemicolonAfterExpression .expression r.2).view := by
  unfold statement
  split
  · next ha => simp [ha]
  · next j ha => simp [ha]
  · next j ha => simp [ha]

theorem declaration_view (i : Nat) :
    (declaration toks i).view =
      (accept toks i [.varKw]).bind fun r =>
        if r.1 then (varDecl toks r.2).view else (statement toks r.2).view := by
  unfold declaration
  split
  · next ha => simp [ha]
  · next j ha => simp [ha]
  · next j ha => simp [ha]

theorem lt_size_of_atEnd {b : Bool} (ha : atEnd toks i = some b) : i < toks.size := by
  cases hp : peek toks i with
  | none => simp [atEnd, hp] at ha
  | some u => exact lt_size_of_peek hp

theorem advance_of_atEnd (ha : atEnd toks i = some false) (hn : advance toks i = some (t, j)) :
    i < toks.size ∧ j = i + 1 := by
  cases hp : peek toks i with
  | none => simp [atEnd, hp] at ha
  | some u =>
    have hu : u.kind ≠ .eof := by simpa [atEnd, hp] using ha
    rw [advance_of_peek hp] at hn
    obtain ⟨rfl, rfl⟩ := Prod.mk.inj (Option.some.inj hn)
    exact ⟨lt_size_of_peek hp, if_neg hu⟩

variable (toks)

/-- The loop of `synchronize`: stops at the end of the input, right after a `;` or right before a
keyword that starts a statement. -/
def skipToBoundary (i : Nat) : Option Nat :=
  match _ha : atEnd toks i with
  | none => none
  | some true => some i
  | some false =>
    match previous toks i with
    | none => none
    | some prev =>
      if prev.kind = .semicolon then some i
      else
        match peek toks i with
        | none => none
        | some t =>
          if t.kind.startsStatement then some i
          else
            match _hn : advance toks i with
            | none => none
            | some (_, j) => skipToBoundary j
termination_by toks.size - i
decreasing_by
  have := advance_of_atEnd _ha _hn
  omega

theorem skipToBoundary_eq (i : Nat) :
    skipToBoundary toks i =
      (atEnd toks i).bind fun b =>
        if b then some i
        else (previous toks i).bind fun prev =>
          if prev.kind = .semicolon then some i
          else (peek toks i).bind fun t =>
            if t.kind.startsStatement then some i
            else (advance toks i).bind fun r => skipToBoundary toks r.2 := by
  rw [skipToBoundary]
  split
  · next ha => simp [ha]
  · next ha => simp [ha]
  · next ha =>
    simp only [ha, Option.bind_some, Bool.false_eq_true, if_false]
    cases previous toks i with
    | none => rfl
    | some prev =>
      simp only [Option.bind_some]
      split
      · rfl
      · cases peek toks i with
        | none => rfl
        | some t =>
          simp only [Option.bind_some]
          split
          · rfl
          · split
            · next hn => simp [hn]
            · next u j hn => simp [hn]

def synchronize (i : Nat) : Option Nat :=
  match advance toks i with
  | none => none
  | some (_, j) => skipToBoundary toks j

variable {toks}

theorem le_skipToBoundary {k : Nat} (h : skipToBoundary toks i = some k) : i ≤ k := by
  fun_induction skipToBoundary toks i with
  | case2 | case4 | case6 => exact Nat.le_of_eq (Option.some.inj h)
  | case8 i _ _ _ _ _ _ _ _ j hn ih => exact Nat.le_trans (advance_le hn) (ih h)
  | _ => cases h

theorem lt_synchronize {k : Nat} (ha : atEnd toks i = some false) (hij : i ≤ j)
    (h : synchronize toks j = some k) : i < k := by
  unfold synchronize at h
  split at h
  · cases h
  · next u j' hn =>
    have hk := le_skipToBoundary h
    rcases Nat.eq_or_lt_of_le hij with rfl | hlt
    · have := (advance_of_atEnd ha hn).2
      omega
    · have := advance_le hn
      omega

variable (toks)

def declarations (i : Nat) : Option ((List Stmt × List SyntaxError) × Nat) :=
  match _ha : atEnd toks i with
  | none => none
  | some true => some (([], []), i)
  | some false =>
    match declaration toks i with
    | .outOfRange => none
    | .stmt s j _ => (declarations j).map fun r => ((s :: r.1.1, r.1.2), r.2)
    | .error e j _hj =>
      match _hs : synchronize toks j with
      | none => none
      | some k => (declarations k).map fun r => ((r.1.1, e :: r.1.2), r.2)
termination_by toks.size - i
decreasing_by
  · have := lt_size_of_atEnd _ha
    omega
  · have := lt_size_of_atEnd _ha
    have := lt_synchronize _ha _hj _hs
    omega

variable {toks}

theorem declarations_eq (i : Nat) :
    declarations toks i =
      (atEnd toks i).bind fun b =>
        if b then some (([], []), i)
        else
          match (declaration toks i).view with
          | none => none
          | some (.ok s, j) => (declarations toks j).map fun r => ((s :: r.1.1, r.1.2), r.2)
          | some (.error e, j) =>
            (synchronize toks j).bind fun k =>
              (declarations toks k).map fun r => ((r.1.1, e :: r.1.2), r.2) := by
  rw [declarations]
  split
  · next ha => simp [ha]
  · next ha => simp [ha]
  · next ha =>
    simp only [ha, Option.bind_some, Bool.false_eq_true, if_false]
    cases declaration toks i with
    | outOfRange => rfl
    | stmt s j h => rfl
    | error e j h =>
      simp only [Parsed.view_error]
      split
      · next hs => simp [hs]
      · next k hs => simp [hs]

end Cursor

def run (p : Parser) : Option ((List Stmt × List SyntaxError) × Nat) :=
  declarations p.tokens p.current

end Parser

/-- Parses a token list: its statements, in order, and the syntax errors met on the way. -/
def parse (ts : List Token) : List Stmt × List SyntaxError :=
  ((Parser.new ts).run.map (·.1)).getD ([], [])

end MiniLox
