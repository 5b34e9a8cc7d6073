import MiniLox.Proofs.ParseCursor

/-!
# The grammar the parser recognises

    declaration := "var" IDENTIFIER ( "=" expression )? ";" | "print" expression ";" | expression ";"
    expression  := IDENTIFIER "=" expression | equality
    equality    := comparison ( ( "!=" | "==" ) comparison )*
    ...         (comparison, term, factor alike)
    unary       := ( "!" | "-" ) unary | primary
    primary     := NUMBER | STRING | "true" | "false" | "nil" | IDENTIFIER | "(" expression ")"

A derivation of this grammar is a well-formed tree: every node stands at a level (assignment 0,
the binary levels 1 to 4 from `==` to `*`, unary 5, primary 6), the left operand of a binary node
at its level or above, the right one strictly above, the operand of a unary node at level 5 or
above, and an assignment only where a whole expression may stand. `Expr.unparse` writes a tree
back as pieces: the tokens it keeps, and the marks it does not keep (brackets, `=`, `;`, `var`,
`print`), of which a token list may hold any token of the right kind.

Main statement: the parse of a token list reports no error exactly when the tokens before its
first end-of-input token spell well-formed statements, and then it returns those statements, so
the spelling is unique. It rests on two facts about each expression parser: what it reads is a
well-formed tree spelled by the tokens it consumed (`Parse.reads_of_ok`), and a well-formed tree
followed by a token that cannot continue it is read back whole (`Parse.readsBack`).
-/

set_option autoImplicit false

namespace MiniLox

/-- An item of a statement written back: a token the tree keeps, or a mark of which only the
kind is known. -/
inductive Piece where
  | token (t : Token)
  | mark (k : TokenKind)

def TokenKind.isMark (k : TokenKind) : Bool :=
  k == .leftParen || k == .rightParen || k == .equal || k == .semicolon || k == .varKw ||
    k == .printKw

def Token.piece (t : Token) : Piece := if t.kind.isMark then .mark t.kind else .token t

theorem Token.piece_of_not_mark {t : Token} (h : t.kind.isMark = false) : t.piece = .token t := by
  simp [piece, h]

theorem Token.piece_of_kind {t : Token} {k : TokenKind} (hk : t.kind = k) (hm : k.isMark = true) :
    t.piece = .mark k := by
  simp [piece, hk, hm]

theorem Token.eq_of_piece_eq_token {t u : Token} (h : t.piece = .token u) : t = u := by
  unfold piece at h
  split at h
  · cases h
  · cases h; rfl

theorem Token.kind_of_piece_eq_mark {t : Token} {k : TokenKind} (h : t.piece = .mark k) :
    t.kind = k := by
  unfold piece at h
  split at h
  · cases h; rfl
  · cases h

namespace Tier

def level : Tier → Nat
  | equality => 1
  | comparison => 2
  | term => 3
  | factor => 4

def ofOperator? : TokenKind → Option Tier
  | .bangEqual | .equalEqual => some equality
  | .greater | .greaterEqual | .less | .lessEqual => some comparison
  | .minus | .plus => some term
  | .slash | .star => some factor
  | _ => none

theorem ofOperator?_of_mem {k : TokenKind} {t : Tier} (h : k ∈ t.operators) :
    ofOperator? k = some t := by
  cases t <;> simp only [operators, List.mem_cons, List.not_mem_nil, or_false] at h <;>
    rcases h with rfl | rfl | rfl | rfl <;> rfl

theorem eq_of_mem_operators {k : TokenKind} {t u : Tier} (ht : k ∈ t.operators)
    (hu : k ∈ u.operators) : t = u := by
  have h := (ofOperator?_of_mem ht).symm.trans (ofOperator?_of_mem hu)
  exact Option.some.inj h

theorem isMark_of_mem_operators {k : TokenKind} {t : Tier} (h : k ∈ t.operators) :
    k.isMark = false := by
  cases t <;> simp only [operators, List.mem_cons, List.not_mem_nil, or_false] at h <;>
    rcases h with rfl | rfl | rfl | rfl <;> rfl

theorem ne_equal_of_mem_operators {k : TokenKind} {t : Tier} (h : k ∈ t.operators) :
    k ≠ .equal := by
  cases t <;> simp only [operators, List.mem_cons, List.not_mem_nil, or_false] at h <;>
    rcases h with rfl | rfl | rfl | rfl <;> decide

theorem level_of_tighter {t u : Tier} (h : t.tighter = some u) : u.level = t.level + 1 := by
  cases t <;> simp [tighter] at h <;> subst h <;> rfl

theorem level_le_four (t : Tier) : t.level ≤ 4 := by
  cases t <;> simp [level]

theorem one_le_level (t : Tier) : 1 ≤ t.level := by
  cases t <;> simp [level]

theorem level_inj {t u : Tier} (h : t.level = u.level) : t = u := by
  cases t <;> cases u <;> simp_all [level]

end Tier

theorem TokenKind.isMark_of_isLiteral {k : TokenKind} (h : k.isLiteral = true) :
    k.isMark = false := by
  cases k <;> simp_all [isLiteral, isMark]

theorem TokenKind.isLiteral_ne_bang {k : TokenKind} (h : k.isLiteral = true) :
    ¬(k = .bang ∨ k = .minus) := by
  cases k <;> simp_all [isLiteral]

namespace Expr

def level : Expr → Nat
  | .assign .. => 0
  | .binary _ op _ => (Tier.ofOperator? op.kind).elim 0 Tier.level
  | .unary .. => 5
  | .literal _ | .var _ | .grouping _ => 6

/-- The tree is a derivation of the grammar: each operand stands at a level its place allows, and
each token has a kind its place allows. -/
def WellFormed : Expr → Prop
  | .literal t => t.kind.isLiteral = true
  | .var name => name.kind = .identifier
  | .grouping e => e.WellFormed
  | .unary op e => (op.kind = .bang ∨ op.kind = .minus) ∧ 5 ≤ e.level ∧ e.WellFormed
  | .binary l op r => ∃ tier : Tier, op.kind ∈ tier.operators ∧ tier.level ≤ l.level ∧
      tier.level < r.level ∧ l.WellFormed ∧ r.WellFormed
  | .assign name v => name.kind = .identifier ∧ v.WellFormed

/-- The tree written back in infix order, with brackets around every grouping. -/
def unparse : Expr → List Piece
  | .literal t => [.token t]
  | .var name => [.token name]
  | .grouping e => .mark .leftParen :: e.unparse ++ [.mark .rightParen]
  | .unary op e => .token op :: e.unparse
  | .binary l op r => l.unparse ++ .token op :: r.unparse
  | .assign name v => .token name :: .mark .equal :: v.unparse

theorem unparse_head (e : Expr) :
    ∃ p ps, e.unparse = p :: ps ∧ p ≠ .mark .varKw ∧ p ≠ .mark .printKw := by
  induction e with
  | literal t => exact ⟨_, _, rfl, nofun, nofun⟩
  | var name => exact ⟨_, _, rfl, nofun, nofun⟩
  | grouping e _ => exact ⟨_, _, rfl, by simp, by simp⟩
  | unary op e _ => exact ⟨_, _, rfl, nofun, nofun⟩
  | binary l op r ih _ =>
    obtain ⟨p, ps, hl, hv, hp⟩ := ih
    exact ⟨p, ps ++ .token op :: r.unparse, by simp [unparse, hl], hv, hp⟩
  | assign name v _ => exact ⟨_, _, rfl, nofun, nofun⟩

theorem level_binary {l r : Expr} {op : Token} {tier : Tier} (h : op.kind ∈ tier.operators) :
    (binary l op r).level = tier.level := by
  simp [level, Tier.ofOperator?_of_mem h]

end Expr

namespace Stmt

/-- The statement is a derivation of the grammar. -/
def WellFormed : Stmt → Prop
  | .print e => e.WellFormed
  | .expression e => e.WellFormed
  | .varDecl name none => name.kind = .identifier
  | .varDecl name (some e) => name.kind = .identifier ∧ e.WellFormed

/-- The statement written back, ending with its `;`. -/
def unparse : Stmt → List Piece
  | .print e => .mark .printKw :: e.unparse ++ [.mark .semicolon]
  | .expression e => e.unparse ++ [.mark .semicolon]
  | .varDecl name none => [.mark .varKw, .token name, .mark .semicolon]
  | .varDecl name (some e) => .mark .varKw :: .token name :: .mark .equal :: e.unparse ++
      [.mark .semicolon]

end Stmt

/-- `ts` starts with a spelling of the pieces `ps`, and `r` follows it. -/
def Spells (ps : List Piece) (ts r : List Token) : Prop :=
  ∃ pre, ts = pre ++ r ∧ pre.map Token.piece = ps

namespace Spells

theorem nil (ts : List Token) : Spells [] ts ts := ⟨[], rfl, rfl⟩

theorem cons {p : Piece} {ps : List Piece} {t : Token} {ts r : List Token} (ht : t.piece = p)
    (h : Spells ps ts r) : Spells (p :: ps) (t :: ts) r := by
  obtain ⟨pre, rfl, hp⟩ := h
  exact ⟨t :: pre, rfl, by simp [ht, hp]⟩

theorem append {ps qs : List Piece} {ts r r' : List Token} (h : Spells ps ts r)
    (h' : Spells qs r r') : Spells (ps ++ qs) ts r' := by
  obtain ⟨pre, rfl, hp⟩ := h
  obtain ⟨pre', rfl, hp'⟩ := h'
  exact ⟨pre ++ pre', by simp, by simp [hp, hp']⟩

theorem length_le {ps : List Piece} {ts r : List Token} (h : Spells ps ts r) :
    r.length + ps.length = ts.length := by
  obtain ⟨pre, rfl, rfl⟩ := h
  simp [Nat.add_comm]

end Spells

/-- `e` is read from `ts` up to `r` at level `k` or looser: `ts` spells it, it is well formed,
and it stands at level `k` or above. -/
def Reads (k : Nat) (e : Expr) (ts r : List Token) : Prop :=
  Spells e.unparse ts r ∧ e.WellFormed ∧ k ≤ e.level

theorem Reads.weaken {k k' : Nat} {e : Expr} {ts r : List Token} (hk : k' ≤ k)
    (h : Reads k e ts r) : Reads k' e ts r :=
  ⟨h.1, h.2.1, Nat.le_trans hk h.2.2⟩

namespace Parse

variable (eof : Token)

/-! ## What a successful parse reads -/

theorem reads_of_binaryRest_op {tier : Tier} {lhs rhs e : Expr} {t : Token}
    {r0 r2 r : List Token} (ht : t.kind ∈ tier.operators) (hl : lhs.WellFormed)
    (hlev : tier.level ≤ lhs.level) (hrhs : Reads (tier.level + 1) rhs r0 r2)
    (hrest : ∀ lhs', lhs'.WellFormed → tier.level ≤ lhs'.level →
      (binaryRest eof tier lhs' r2).result = (.ok e, r) →
      ∃ ps, e.unparse = lhs'.unparse ++ ps ∧ Spells ps r2 r ∧ e.WellFormed ∧ tier.level ≤ e.level)
    (h : (binaryRest eof tier (.binary lhs t rhs) r2).result = (.ok e, r)) :
    ∃ ps, e.unparse = lhs.unparse ++ ps ∧ Spells ps (t :: r0) r ∧ e.WellFormed ∧
      tier.level ≤ e.level := by
  have hwf : (Expr.binary lhs t rhs).WellFormed :=
    ⟨tier, ht, hlev, hrhs.2.2, hl, hrhs.2.1⟩
  obtain ⟨ps, hps, hsp, he, hle⟩ :=
    hrest _ hwf (Nat.le_of_eq (Expr.level_binary ht).symm) h
  refine ⟨.token t :: rhs.unparse ++ ps, by simp [hps, Expr.unparse], ?_, he, hle⟩
  exact Spells.cons (Token.piece_of_not_mark (Tier.isMark_of_mem_operators ht))
    (hrhs.1.append hsp)

theorem reads_of_ok (ts : List Token) :
    (∀ e r, (assignment eof ts).result = (.ok e, r) → Reads 0 e ts r) ∧
    (∀ tier, (∀ e r, (binary eof tier ts).result = (.ok e, r) → Reads tier.level e ts r) ∧
      (∀ e r, (operand eof tier ts).result = (.ok e, r) → Reads (tier.level + 1) e ts r) ∧
      ∀ lhs e r, (binaryRest eof tier lhs ts).result = (.ok e, r) → lhs.WellFormed →
        tier.level ≤ lhs.level →
        ∃ ps, e.unparse = lhs.unparse ++ ps ∧ Spells ps ts r ∧ e.WellFormed ∧
          tier.level ≤ e.level) ∧
    (∀ e r, (unary eof ts).result = (.ok e, r) → Reads 5 e ts r) := by
  refine Parse.induction
    (fun ts => ∀ e r, (assignment eof ts).result = (.ok e, r) → Reads 0 e ts r)
    (fun tier ts => ∀ e r, (binary eof tier ts).result = (.ok e, r) → Reads tier.level e ts r)
    (fun tier ts => ∀ e r, (operand eof tier ts).result = (.ok e, r) →
      Reads (tier.level + 1) e ts r)
    (fun tier lhs ts => ∀ e r, (binaryRest eof tier lhs ts).result = (.ok e, r) →
      lhs.WellFormed → tier.level ≤ lhs.level →
      ∃ ps, e.unparse = lhs.unparse ++ ps ∧ Spells ps ts r ∧ e.WellFormed ∧ tier.level ≤ e.level)
    (fun ts => ∀ e r, (unary eof ts).result = (.ok e, r) → Reads 5 e ts r)
    ?assignment ?binary ?operand ?binaryRest ?unary ts
  case assignment =>
    intro ts hb ha e r h
    rw [assignment_result] at h
    obtain ⟨lhs, r1, h1, h⟩ := Outcome.bind_eq_ok h
    have hl := hb lhs r1 h1
    rcases r1 with _ | ⟨t, r'⟩
    · cases h
      exact hl.weaken (Nat.zero_le _)
    · by_cases ht : t.kind = .equal
      · simp only [ht, if_true] at h
        obtain ⟨v, r2, h2, h⟩ := Outcome.bind_eq_ok h
        cases lhs with
        | var name =>
          simp only [Prod.mk.injEq, Except.ok.injEq] at h
          obtain ⟨rfl, rfl⟩ := h
          have hshort : r'.length < ts.length := by
            have := hl.1.length_le; simp at this; omega
          have hv := ha r' hshort v _ h2
          refine ⟨?_, ⟨hl.2.1, hv.2.1⟩, Nat.zero_le _⟩
          exact hl.1.append (Spells.cons (Token.piece_of_kind ht rfl) hv.1)
        | _ => simp at h
      · simp only [ht, if_false, Prod.mk.injEq, Except.ok.injEq] at h
        obtain ⟨rfl, rfl⟩ := h
        exact hl.weaken (Nat.zero_le _)
  case binary =>
    intro tier ts ho hr e r h
    rw [binary_result] at h
    obtain ⟨lhs, r1, h1, h⟩ := Outcome.bind_eq_ok h
    have hl := ho lhs r1 h1
    have hshort : r1.length ≤ ts.length := by have := hl.1.length_le; omega
    obtain ⟨ps, hps, hsp, he, hle⟩ := hr lhs r1 hshort e r h hl.2.1 (by have := hl.2.2; omega)
    exact ⟨hps ▸ hl.1.append hsp, he, hle⟩
  case operand =>
    intro tier ts hb hu e r h
    cases hti : tier.tighter with
    | some u =>
      rw [operand_of_tighter eof hti] at h
      have := hb u hti e r h
      rwa [Tier.level_of_tighter hti] at this
    | none =>
      obtain rfl := Tier.eq_factor_of_tighter hti
      rw [operand_factor] at h
      exact hu rfl e r h
  case binaryRest =>
    intro tier lhs ts ih e r h hl hlev
    rcases ts with _ | ⟨t, r0⟩
    · simp only [binaryRest_nil, Prod.mk.injEq, Except.ok.injEq] at h
      obtain ⟨rfl, rfl⟩ := h
      exact ⟨[], by simp, Spells.nil _, hl, hlev⟩
    · rw [binaryRest_cons] at h
      by_cases ht : t.kind ∈ tier.operators
      · simp only [ht, if_true] at h
        obtain ⟨rhs, r2, h2, h⟩ := Outcome.bind_eq_ok h
        have hr0 : r0.length < (t :: r0).length := by simp
        have hrhs := (ih r0 hr0).1 rhs r2 h2
        have hr2 : r2.length < (t :: r0).length := by
          have := hrhs.1.length_le; simp; omega
        exact reads_of_binaryRest_op eof ht hl hlev hrhs
          (fun lhs' hl' hlev' h' => (ih r2 hr2).2 lhs' e r h' hl' hlev') h
      · simp only [ht, if_false, Prod.mk.injEq, Except.ok.injEq] at h
        obtain ⟨rfl, rfl⟩ := h
        exact ⟨[], by simp, Spells.nil _, hl, hlev⟩
  case unary =>
    intro ts ih e r h
    rcases ts with _ | ⟨t, r0⟩
    · simp at h
    · have hr0 : r0.length < (t :: r0).length := by simp
      rw [unary_cons] at h
      by_cases hpre : t.kind = .bang ∨ t.kind = .minus
      · simp only [hpre, if_true] at h
        obtain ⟨right, r2, h2, h⟩ := Outcome.bind_eq_ok h
        cases h
        have hr := (ih r0 hr0).2 right _ h2
        have hmark : t.kind.isMark = false := by rcases hpre with h | h <;> rw [h] <;> rfl
        exact ⟨Spells.cons (Token.piece_of_not_mark hmark) hr.1, ⟨hpre, hr.2.2, hr.2.1⟩,
          Nat.le_refl _⟩
      · simp only [hpre, if_false] at h
        by_cases hlit : t.kind.isLiteral
        · simp only [hlit, if_true] at h
          cases h
          exact ⟨Spells.cons (Token.piece_of_not_mark (TokenKind.isMark_of_isLiteral hlit))
            (Spells.nil _), hlit, by simp [Expr.level]⟩
        · simp only [hlit] at h
          by_cases hid : t.kind = .identifier
          · simp only [hid, if_true] at h
            cases h
            exact ⟨Spells.cons (Token.piece_of_not_mark (by rw [hid]; rfl)) (Spells.nil _), hid,
              by simp [Expr.level]⟩
          · simp only [hid, if_false] at h
            by_cases hpar : t.kind = .leftParen
            · simp only [hpar, if_true] at h
              obtain ⟨inner, r2, h2, h⟩ := Outcome.bind_eq_ok h
              rcases r2 with _ | ⟨c, r3⟩
              · cases h
              · by_cases hc : c.kind = .rightParen
                · simp only [hc, if_true] at h
                  cases h
                  have hi := (ih r0 hr0).1 inner _ h2
                  refine ⟨?_, hi.2.1, by simp [Expr.level]⟩
                  exact Spells.cons (Token.piece_of_kind hpar rfl)
                    (hi.1.append (Spells.cons (Token.piece_of_kind hc rfl) (Spells.nil _)))
                · simp only [hc, if_false] at h
                  cases h
            · simp only [hpar, if_false] at h
              cases h

/-! ## What is read back -/

def Stops (k : Nat) : List Token → Prop
  | [] => True
  | t :: _ => (∀ tier : Tier, k ≤ tier.level → t.kind ∉ tier.operators) ∧ (k = 0 → t.kind ≠ .equal)

theorem Stops.mono {k k' : Nat} {ts : List Token} (hk : k ≤ k') (h : Stops k ts) : Stops k' ts := by
  rcases ts with _ | ⟨t, r⟩
  · trivial
  · exact ⟨fun tier hle => h.1 tier (Nat.le_trans hk hle), fun h0 => h.2 (by omega)⟩

theorem stops_of_closing {t : Token} (k : Nat) (r : List Token)
    (ht : t.kind = .rightParen ∨ t.kind = .semicolon) : Stops k (t :: r) := by
  refine ⟨fun tier _ hmem => ?_, fun _ => by rcases ht with h | h <;> rw [h] <;> decide⟩
  have := Tier.ofOperator?_of_mem hmem
  rcases ht with h | h <;> rw [h] at this <;> cases this

theorem stops_of_operator {t : Token} {tier : Tier} (r : List Token)
    (ht : t.kind ∈ tier.operators) : Stops (tier.level + 1) (t :: r) := by
  refine ⟨fun tier' hle hmem => ?_, fun h => by omega⟩
  have := Tier.eq_of_mem_operators ht hmem
  subst this
  omega

theorem binaryRest_of_stops {tier : Tier} {e : Expr} {rest : List Token}
    (h : Stops tier.level rest) : (binaryRest eof tier e rest).result = (.ok e, rest) := by
  rcases rest with _ | ⟨t, r⟩
  · exact binaryRest_nil eof tier e
  · rw [binaryRest_cons, if_neg (h.1 tier (Nat.le_refl _))]

theorem assignment_of_binary {e : Expr} {ts rest : List Token}
    (h : (binary eof .equality ts).result = (.ok e, rest)) (hs : Stops 0 rest) :
    (assignment eof ts).result = (.ok e, rest) := by
  rw [assignment_result, h]
  rcases rest with _ | ⟨t, r⟩
  · rfl
  · simp [hs.2 rfl]

def ReadsBack (e : Expr) (ts rest : List Token) : Prop :=
  (5 ≤ e.level → (unary eof ts).result = (.ok e, rest)) ∧
  (∀ tier : Tier, tier.level ≤ e.level → Stops (tier.level + 1) rest →
    (binary eof tier ts).result = (binaryRest eof tier e rest).result) ∧
  (Stops 0 rest → (assignment eof ts).result = (.ok e, rest))

theorem operand_of_tighter_reads {tier : Tier} {e : Expr} {ts rest : List Token}
    (hu : 5 ≤ e.level → (unary eof ts).result = (.ok e, rest))
    (hf : ∀ u, tier.tighter = some u → u.level ≤ e.level → Stops (u.level + 1) rest →
      (binary eof u ts).result = (binaryRest eof u e rest).result)
    (hlt : tier.level < e.level) (hs : Stops (tier.level + 1) rest) :
    (operand eof tier ts).result = (.ok e, rest) := by
  cases hti : tier.tighter with
  | some u =>
    have hu1 := Tier.level_of_tighter hti
    rw [operand_of_tighter eof hti, hf u hti (by omega) (hs.mono (by omega))]
    exact binaryRest_of_stops eof (by rw [hu1]; exact hs)
  | none =>
    obtain rfl := Tier.eq_factor_of_tighter hti
    rw [operand_factor]
    exact hu (by simp [Tier.level] at hlt; omega)

theorem binary_ladder {e : Expr} {ts rest : List Token}
    (hu : 5 ≤ e.level → (unary eof ts).result = (.ok e, rest))
    (hbase : ∀ tier : Tier, tier.level = e.level → Stops (tier.level + 1) rest →
      (binary eof tier ts).result = (binaryRest eof tier e rest).result) :
    ∀ tier : Tier, tier.level ≤ e.level → Stops (tier.level + 1) rest →
      (binary eof tier ts).result = (binaryRest eof tier e rest).result := by
  apply Tier.induction_tighter
  intro tier ih hle hs
  rcases Nat.lt_or_eq_of_le hle with hlt | heq
  · rw [binary_result, operand_of_tighter_reads eof hu ih hlt hs]
    rfl
  · exact hbase tier heq hs

theorem readsBack_of_ladder {e : Expr} {ts rest : List Token} (h1 : 1 ≤ e.level)
    (hu : 5 ≤ e.level → (unary eof ts).result = (.ok e, rest))
    (hbase : ∀ tier : Tier, tier.level = e.level → Stops (tier.level + 1) rest →
      (binary eof tier ts).result = (binaryRest eof tier e rest).result) :
    ReadsBack eof e ts rest := by
  have hf := binary_ladder eof hu hbase
  refine ⟨hu, hf, fun hs => assignment_of_binary eof ?_ hs⟩
  rw [hf .equality h1 (hs.mono (Nat.zero_le _))]
  exact binaryRest_of_stops eof (hs.mono (Nat.zero_le _))

theorem readsBack_of_unary {e : Expr} {ts rest : List Token} (h6 : e.level = 6)
    (hu : (unary eof ts).result = (.ok e, rest)) : ReadsBack eof e ts rest := by
  refine readsBack_of_ladder eof (by omega) (fun _ => hu) fun tier heq _ => ?_
  have := Tier.level_le_four tier
  omega

theorem readsBack_var {name : Token} (hname : name.kind = .identifier) (rest : List Token) :
    ReadsBack eof (.var name) (name :: rest) rest := by
  apply readsBack_of_unary eof rfl
  rw [unary_cons, if_neg (by rw [hname]; decide), if_neg (by rw [hname]; decide), if_pos hname]

/-- A well-formed tree spelled by `pre` and followed by `rest` is read back whole by every
parser of a level it can stand at, as long as `rest` cannot continue it. -/
theorem readsBack (e : Expr) (he : e.WellFormed) (pre rest : List Token)
    (hp : pre.map Token.piece = e.unparse) : ReadsBack eof e (pre ++ rest) rest := by
  induction e generalizing pre rest with
  | literal t =>
    obtain ⟨t0, pre', rfl, h0, hnil⟩ := List.map_eq_cons_iff.1 hp
    obtain rfl := Token.eq_of_piece_eq_token h0
    obtain rfl : pre' = [] := List.map_eq_nil_iff.1 hnil
    have hlit : t0.kind.isLiteral = true := he
    apply readsBack_of_unary eof rfl
    rw [List.singleton_append, unary_cons, if_neg (TokenKind.isLiteral_ne_bang hlit), if_pos hlit]
  | var name =>
    obtain ⟨t0, pre', rfl, h0, hnil⟩ := List.map_eq_cons_iff.1 hp
    obtain rfl := Token.eq_of_piece_eq_token h0
    obtain rfl : pre' = [] := List.map_eq_nil_iff.1 hnil
    exact readsBack_var eof he rest
  | grouping inner ih =>
    obtain ⟨t0, pre', rfl, h0, hp'⟩ := List.map_eq_cons_iff.1 hp
    obtain ⟨preI, preC, rfl, hI, hC⟩ := List.map_eq_append_iff.1 hp'
    obtain ⟨t1, pre'', rfl, h1, hnil⟩ := List.map_eq_cons_iff.1 hC
    obtain rfl : pre'' = [] := List.map_eq_nil_iff.1 hnil
    have hk0 := Token.kind_of_piece_eq_mark h0
    have hk1 := Token.kind_of_piece_eq_mark h1
    -- the inner expression stops at the closing bracket
    have hinner := (ih he preI (t1 :: rest) hI).2.2 (stops_of_closing 0 rest (.inl hk1))
    apply readsBack_of_unary eof rfl
    rw [List.cons_append, List.append_assoc, List.singleton_append, unary_cons,
      if_neg (by rw [hk0]; decide), if_neg (by rw [hk0]; decide), if_neg (by rw [hk0]; decide),
      if_pos hk0, hinner]
    simp [hk1]
  | unary op right ih =>
    obtain ⟨hop, h5, hr⟩ := he
    obtain ⟨t0, pre', rfl, h0, hp'⟩ := List.map_eq_cons_iff.1 hp
    obtain rfl := Token.eq_of_piece_eq_token h0
    have hright := (ih hr pre' rest hp').1 h5
    refine readsBack_of_ladder eof (by simp [Expr.level]) (fun _ => ?_) fun tier heq _ => ?_
    · rw [List.cons_append, unary_cons, if_pos hop, hright]
      rfl
    · have := Tier.level_le_four tier
      simp [Expr.level] at heq
      omega
  | binary l op r ihl ihr =>
    obtain ⟨tier, hop, hl, hr, hwl, hwr⟩ := he
    obtain ⟨preL, pre', rfl, hL, hp'⟩ := List.map_eq_append_iff.1 hp
    obtain ⟨t0, preR, rfl, h0, hR⟩ := List.map_eq_cons_iff.1 hp'
    obtain rfl := Token.eq_of_piece_eq_token h0
    have hlev := Expr.level_binary (l := l) (r := r) hop
    refine readsBack_of_ladder eof (by rw [hlev]; exact Tier.one_le_level tier)
      (fun h5 => absurd h5 (by have := Tier.level_le_four tier; omega)) ?_
    intro tier' heq hs
    obtain rfl : tier' = tier := Tier.level_inj (heq.trans hlev)
    -- the left operand stops at the operator, the right one wherever the whole does
    have hleft := (ihl hwl preL (_ :: (preR ++ rest)) hL).2.1 tier' hl
      (stops_of_operator _ hop)
    have hright := ihr hwr preR rest hR
    have hrhs := operand_of_tighter_reads eof hright.1
      (fun u _ hle hsu => hright.2.1 u hle hsu) hr hs
    rw [List.append_assoc, List.cons_append, hleft, binaryRest_cons, if_pos hop, hrhs]
    rfl
  | assign name value ih =>
    obtain ⟨hname, hv⟩ := he
    obtain ⟨t0, pre', rfl, h0, hp'⟩ := List.map_eq_cons_iff.1 hp
    obtain ⟨t1, preV, rfl, h1, hV⟩ := List.map_eq_cons_iff.1 hp'
    obtain rfl := Token.eq_of_piece_eq_token h0
    have hk1 := Token.kind_of_piece_eq_mark h1
    refine ⟨fun h5 => absurd h5 (by simp [Expr.level]), fun tier hle => ?_, fun hs => ?_⟩
    · have := Tier.one_le_level tier
      simp [Expr.level] at hle
      omega
    · -- the name alone is read at the equality level, stopped by the `=`
      have hstop : Stops 1 (t1 :: (preV ++ rest)) :=
        ⟨fun tier _ hmem => Tier.ne_equal_of_mem_operators hmem hk1, fun h => by omega⟩
      have hname' := (readsBack_var eof hname (t1 :: (preV ++ rest))).2.1 .equality
        (by simp [Tier.level, Expr.level]) (hstop.mono (by simp [Tier.level]))
      rw [binaryRest_of_stops eof (show Stops Tier.equality.level _ from hstop)] at hname'
      rw [List.cons_append, List.cons_append, assignment_result, hname']
      simp [hk1, (ih hv preV rest hV).2.2 hs]

/-! ## Statements -/

theorem exprStatement_spells {fault : SyntaxFault} {make : Expr → Stmt} {ts r : List Token}
    {s : Stmt} (h : (exprStatement eof fault make ts).result = (.ok s, r)) :
    ∃ e, s = make e ∧ Spells (e.unparse ++ [.mark .semicolon]) ts r ∧ e.WellFormed := by
  rw [exprStatement_result] at h
  obtain ⟨e, r1, h1, h⟩ := Outcome.bind_eq_ok h
  have he := (reads_of_ok eof ts).1 e r1 h1
  rw [terminate_result] at h
  rcases r1 with _ | ⟨t, r1⟩
  · cases h
  · by_cases ht : t.kind = .semicolon
    · simp only [ht, if_true, Prod.mk.injEq, Except.ok.injEq] at h
      obtain ⟨rfl, rfl⟩ := h
      exact ⟨e, rfl, he.1.append (Spells.cons (Token.piece_of_kind ht rfl) (Spells.nil _)), he.2.1⟩
    · simp [ht] at h

theorem terminate_spells {fault : SyntaxFault} {s s' : Stmt} {ts r : List Token}
    (h : (terminate eof fault s ts).result = (.ok s', r)) :
    s' = s ∧ Spells [.mark .semicolon] ts r := by
  rw [terminate_result] at h
  rcases ts with _ | ⟨t, r1⟩
  · cases h
  · by_cases ht : t.kind = .semicolon
    · simp only [ht, if_true, Prod.mk.injEq, Except.ok.injEq] at h
      obtain ⟨rfl, rfl⟩ := h
      exact ⟨rfl, Spells.cons (Token.piece_of_kind ht rfl) (Spells.nil _)⟩
    · simp [ht] at h

theorem varDeclaration_spells {ts r : List Token} {s : Stmt}
    (h : (varDeclaration eof ts).result = (.ok s, r)) :
    ∃ ps, s.unparse = .mark .varKw :: ps ∧ Spells ps ts r ∧ s.WellFormed := by
  rcases ts with _ | ⟨name, rest⟩
  · cases h
  · rw [varDeclaration_result] at h
    by_cases hn : name.kind = .identifier
    · have hname : name.piece = .token name := Token.piece_of_not_mark (by rw [hn]; rfl)
      simp only [hn, if_true] at h
      rcases rest with _ | ⟨t, r1⟩
      · have := (terminate_spells eof h).2.length_le
        simp at this
      · by_cases ht : t.kind = .equal
        · simp only [ht, if_true] at h
          obtain ⟨e, rfl, hsp, he⟩ := exprStatement_spells eof h
          refine ⟨_, rfl, Spells.cons hname (Spells.cons (Token.piece_of_kind ht rfl) ?_), hn, he⟩
          simpa using hsp
        · simp only [ht, if_false] at h
          obtain ⟨rfl, hsp⟩ := terminate_spells eof h
          exact ⟨_, rfl, Spells.cons hname hsp, hn⟩
    · simp [hn] at h

theorem declaration_spells {ts r : List Token} {s : Stmt}
    (h : (declaration eof ts).result = (.ok s, r)) : Spells s.unparse ts r ∧ s.WellFormed := by
  rcases ts with _ | ⟨t, r0⟩
  · have h' : (exprStatement eof .expectSemicolonAfterExpression .expression []).result =
        (.ok s, r) := h
    obtain ⟨e, rfl, hsp, he⟩ := exprStatement_spells eof h'
    exact ⟨hsp, he⟩
  · rw [declaration_result] at h
    by_cases hv : t.kind = .varKw
    · simp only [hv, if_true] at h
      obtain ⟨ps, hps, hsp, hs⟩ := varDeclaration_spells eof h
      exact ⟨hps ▸ Spells.cons (Token.piece_of_kind hv rfl) hsp, hs⟩
    · simp only [hv, if_false] at h
      by_cases hp : t.kind = .printKw
      · simp only [hp, if_true] at h
        obtain ⟨e, rfl, hsp, he⟩ := exprStatement_spells eof h
        exact ⟨Spells.cons (Token.piece_of_kind hp rfl) hsp, he⟩
      · simp only [hp, if_false] at h
        obtain ⟨e, rfl, hsp, he⟩ := exprStatement_spells eof h
        exact ⟨hsp, he⟩

theorem Stmt.unparse_ne_nil (s : Stmt) : s.unparse ≠ [] := by
  rcases s with _ | _ | ⟨_, _ | _⟩ <;> simp [Stmt.unparse]

theorem exprStatement_of_unparse {fault : SyntaxFault} {make : Expr → Stmt} {e : Expr}
    (he : e.WellFormed) {pre rest : List Token}
    (hp : pre.map Token.piece = e.unparse ++ [.mark .semicolon]) :
    (exprStatement eof fault make (pre ++ rest)).result = (.ok (make e), rest) := by
  obtain ⟨preE, preS, rfl, hE, hS⟩ := List.map_eq_append_iff.1 hp
  obtain ⟨t1, pre', rfl, h1, hnil⟩ := List.map_eq_cons_iff.1 hS
  obtain rfl : pre' = [] := List.map_eq_nil_iff.1 hnil
  have hk1 := Token.kind_of_piece_eq_mark h1
  have hread := (readsBack eof e he preE (t1 :: rest) hE).2.2
    (stops_of_closing 0 rest (.inr hk1))
  rw [List.append_assoc, List.singleton_append, exprStatement_result, hread]
  simp [terminate_result, hk1]

theorem declaration_of_unparse (s : Stmt) (hs : s.WellFormed) (pre rest : List Token)
    (hp : pre.map Token.piece = s.unparse) :
    (declaration eof (pre ++ rest)).result = (.ok s, rest) := by
  rcases s with e | e | ⟨name, _ | e⟩
  · obtain ⟨t0, pre', rfl, h0, hp'⟩ := List.map_eq_cons_iff.1 hp
    have hk0 := Token.kind_of_piece_eq_mark h0
    rw [List.cons_append, declaration_result, if_neg (by rw [hk0]; decide), if_pos hk0]
    exact exprStatement_of_unparse eof hs hp'
  · obtain ⟨p, ps, hhead, hv, hpr⟩ := Expr.unparse_head e
    rw [Stmt.unparse, hhead] at hp
    obtain ⟨t0, pre', rfl, h0, -⟩ := List.map_eq_cons_iff.1 hp
    -- the first token is no `var` or `print`, which would be read as a mark
    have hnv : t0.kind ≠ .varKw := fun hk => hv (h0.symm.trans (Token.piece_of_kind hk rfl))
    have hnp : t0.kind ≠ .printKw := fun hk => hpr (h0.symm.trans (Token.piece_of_kind hk rfl))
    rw [List.cons_append, declaration_result, if_neg hnv, if_neg hnp, ← List.cons_append]
    refine exprStatement_of_unparse eof hs ?_
    rw [hhead]
    exact hp
  · have hname : name.kind = .identifier := hs
    simp only [Stmt.unparse] at hp
    obtain ⟨t0, pre', rfl, h0, hp'⟩ := List.map_eq_cons_iff.1 hp
    obtain ⟨t1, pre'', rfl, h1, hp''⟩ := List.map_eq_cons_iff.1 hp'
    obtain ⟨t2, pre3, rfl, h2, hnil⟩ := List.map_eq_cons_iff.1 hp''
    obtain rfl : pre3 = [] := List.map_eq_nil_iff.1 hnil
    obtain rfl := Token.eq_of_piece_eq_token h1
    have hk0 := Token.kind_of_piece_eq_mark h0
    have hk2 := Token.kind_of_piece_eq_mark h2
    simp [declaration_result, hk0, varDeclaration_result, hname, hk2, terminate_result]
  · obtain ⟨hname, he⟩ := hs
    simp only [Stmt.unparse] at hp
    obtain ⟨t0, pre', rfl, h0, hp'⟩ := List.map_eq_cons_iff.1 hp
    obtain ⟨t1, pre'', rfl, h1, hp''⟩ := List.map_eq_cons_iff.1 hp'
    obtain ⟨t2, preE, rfl, h2, hE⟩ := List.map_eq_cons_iff.1 hp''
    obtain rfl := Token.eq_of_piece_eq_token h1
    have hk0 := Token.kind_of_piece_eq_mark h0
    have hk2 := Token.kind_of_piece_eq_mark h2
    simp only [List.cons_append, declaration_result, hk0, if_true, varDeclaration_result, hname,
      hk2]
    exact exprStatement_of_unparse eof he hE

theorem declarations_of_unparse (ss : List Stmt) (hss : ∀ s ∈ ss, s.WellFormed)
    (ts : List Token) (hp : ts.map Token.piece = ss.flatMap Stmt.unparse) :
    declarations eof ts = (ss, []) := by
  induction ss generalizing ts with
  | nil =>
    obtain rfl : ts = [] := by simpa using hp
    rw [declarations]
  | cons s ss ih =>
    rw [List.flatMap_cons] at hp
    obtain ⟨pre, ts', rfl, hs, hts⟩ := List.map_eq_append_iff.1 hp
    have hread := declaration_of_unparse eof s (hss s (List.mem_cons_self ..)) pre ts' hs
    rcases pre with _ | ⟨t, pre⟩
    · exact absurd hs.symm (by simpa using Stmt.unparse_ne_nil s)
    · rw [List.cons_append, declarations_cons, ← List.cons_append, hread]
      simp [ih (fun s' h' => hss s' (List.mem_cons_of_mem _ h')) ts' hts]

theorem declarations_spells (ts : List Token) (h : (declarations eof ts).2 = []) :
    (∀ s ∈ (declarations eof ts).1, s.WellFormed) ∧
      ts.map Token.piece = (declarations eof ts).1.flatMap Stmt.unparse := by
  induction hn : ts.length using Nat.strongRecOn generalizing ts with
  | _ n ih =>
    rcases ts with _ | ⟨t, r⟩
    · rw [declarations]
      simp
    · rw [declarations_cons] at h ⊢
      rcases hd : (declaration eof (t :: r)).result with ⟨_ | s, rest⟩
      · rcases rest with _ | ⟨u, rest⟩ <;> simp [hd] at h
      · simp only [hd] at h ⊢
        obtain ⟨⟨pre, hpre, hmap⟩, hs⟩ := declaration_spells eof hd
        have hlen : rest.length < (t :: r).length :=
          (declaration eof (t :: r)).length_lt_of_result_ok hd
        obtain ⟨hall, hrest⟩ := ih rest.length (hn ▸ hlen) rest h rfl
        refine ⟨fun s' hs' => ?_, by simp [hpre, hmap, hrest]⟩
        rcases List.mem_cons.1 hs' with rfl | hs'
        · exact hs
        · exact hall s' hs'

end Parse

/-- The parse of a token list reports no error exactly when the tokens before its first
end-of-input token spell well-formed statements, and then it returns exactly those statements:
the grammar's derivation of the input, which is therefore unique. -/
theorem parse_accepts_exactly_grammar (ts : List Token) :
    ((parse ts).2 = [] ↔ ∃ ss : List Stmt, (∀ s ∈ ss, s.WellFormed) ∧
      (Token.splitAtEnd ts).1.map Token.piece = ss.flatMap Stmt.unparse) ∧
    ∀ ss : List Stmt, (∀ s ∈ ss, s.WellFormed) →
      (Token.splitAtEnd ts).1.map Token.piece = ss.flatMap Stmt.unparse → parse ts = (ss, []) := by
  have hback : ∀ ss : List Stmt, (∀ s ∈ ss, s.WellFormed) →
      (Token.splitAtEnd ts).1.map Token.piece = ss.flatMap Stmt.unparse →
      parse ts = (ss, []) := fun ss hss hp => by
    rw [parse_eq_declarations]
    exact Parse.declarations_of_unparse _ ss hss _ hp
  refine ⟨⟨fun h => ?_, fun ⟨ss, hss, hp⟩ => by rw [hback ss hss hp]⟩, hback⟩
  rw [parse_eq_declarations] at h
  exact ⟨_, Parse.declarations_spells _ _ h⟩

end MiniLox
