import MiniLox.Syntax.Parse

/-!
# What the parsers return

Each parser returns its result with a proof that what is left is no longer than its input.
`Step.result` and `Parsed.result` forget that proof and keep an `Outcome`: the value read or the
error met, and the tokens left. The equations below give each parser's outcome from the
outcomes of the parsers it calls, so that later proofs rewrite with them and never unfold a
parser.

`Parse.induction` is the order of the parsers' own recursion, proved once: a property of the
five expression parsers holds of every input when each parser's case follows from the calls it
makes, on shorter input or on the same input one level tighter.
-/

set_option autoImplicit false

namespace MiniLox.Parse

/-- What a parse comes to: the value read or the error met, and the tokens left. -/
abbrev Outcome (α : Type) := Except SyntaxError α × List Token

def Outcome.bind {α β : Type} (o : Outcome α) (k : α → List Token → Outcome β) : Outcome β :=
  match o with
  | (.ok a, r) => k a r
  | (.error e, r) => (.error e, r)

@[simp] theorem Outcome.bind_ok {α β : Type} (a : α) (r : List Token)
    (k : α → List Token → Outcome β) : Outcome.bind (.ok a, r) k = k a r := rfl

@[simp] theorem Outcome.bind_error {α β : Type} (e : SyntaxError) (r : List Token)
    (k : α → List Token → Outcome β) : Outcome.bind (.error e, r) k = (.error e, r) := rfl

theorem Outcome.bind_eq_ok {α β : Type} {o : Outcome α} {k : α → List Token → Outcome β}
    {b : β} {r : List Token} (h : o.bind k = (.ok b, r)) :
    ∃ a r1, o = (.ok a, r1) ∧ k a r1 = (.ok b, r) := by
  rcases o with ⟨_ | a, r1⟩
  · simp at h
  · exact ⟨a, r1, rfl, h⟩

theorem Outcome.bind_eq_error {α β : Type} {o : Outcome α} {k : α → List Token → Outcome β}
    {e : SyntaxError} {r : List Token} (h : o.bind k = (.error e, r)) :
    o = (.error e, r) ∨ ∃ a r1, o = (.ok a, r1) ∧ k a r1 = (.error e, r) := by
  rcases o with ⟨e' | a, r1⟩
  · exact .inl (by simpa using h)
  · exact .inr ⟨a, r1, rfl, h⟩

def Step.result {ts : List Token} {α : Type} : Step ts α → Outcome α
  | .ok a r _ => (.ok a, r)
  | .error e r _ => (.error e, r)

@[simp] theorem Step.result_ok {ts : List Token} {α : Type} (a : α) (r : List Token)
    (h : r.length ≤ ts.length) : (Step.ok a r h).result = (.ok a, r) := rfl

@[simp] theorem Step.result_error {ts : List Token} {α : Type} (e : SyntaxError) (r : List Token)
    (h : r.length ≤ ts.length) : (Step.error e r h : Step ts α).result = (.error e, r) := rfl

@[simp] theorem Step.result_widen {ts us : List Token} {α : Type} (h : us.length ≤ ts.length)
    (s : Step us α) : (s.widen h).result = s.result := by
  cases s <;> rfl

def Parsed.result {ts : List Token} : Parsed ts → Outcome Stmt
  | .stmt s r _ => (.ok s, r)
  | .error e r _ => (.error e, r)

@[simp] theorem Parsed.result_stmt {ts : List Token} (s : Stmt) (r : List Token)
    (h : r.length < ts.length) : (Parsed.stmt s r h).result = (.ok s, r) := rfl

@[simp] theorem Parsed.result_error {ts : List Token} (e : SyntaxError) (r : List Token)
    (h : r.length ≤ ts.length) : (Parsed.error e r h).result = (.error e, r) := rfl

@[simp] theorem Parsed.result_widen {ts us : List Token} (h : us.length ≤ ts.length)
    (p : Parsed us) : (p.widen h).result = p.result := by
  cases p <;> rfl

theorem Parsed.length_lt_of_result_ok {ts r : List Token} {s : Stmt} (p : Parsed ts)
    (h : p.result = (.ok s, r)) : r.length < ts.length := by
  cases p with
  | stmt s' r' hr =>
    obtain ⟨-, rfl⟩ := Prod.mk.inj h
    exact hr
  | error e r' _ => cases h

theorem Tier.induction_tighter (P : Tier → Prop)
    (h : ∀ t, (∀ u, t.tighter = some u → P u) → P t) (t : Tier) : P t := by
  induction hn : t.rank using Nat.strongRecOn generalizing t with
  | _ n ih =>
    apply h t
    intro u hu
    have hr := Tier.rank_tighter hu
    exact ih u.rank (by omega) u rfl

theorem Tier.eq_factor_of_tighter {t : Tier} (h : t.tighter = none) : t = .factor := by
  cases t <;> simp_all [Tier.tighter]

variable (eof : Token)

/-! ## Expressions -/

theorem assignment_result (ts : List Token) :
    (assignment eof ts).result =
      (binary eof .equality ts).result.bind fun lhs r =>
        match r with
        | t :: r' =>
          if t.kind = .equal then
            (assignment eof r').result.bind fun value r2 =>
              match lhs with
              | .var name => (.ok (.assign name value), r2)
              | _ => (.error ⟨t, .invalidAssignment⟩, r2)
          else (.ok lhs, t :: r')
        | [] => (.ok lhs, []) := by
  rw [assignment]
  rcases binary eof .equality ts with ⟨lhs, r, h⟩ | ⟨e, r, h⟩
  · rcases r with _ | ⟨t, r'⟩
    · rfl
    · by_cases ht : t.kind = .equal
      · simp only [ht, if_true, Step.result_ok, Outcome.bind_ok]
        rcases assignment eof r' with ⟨v, r2, h2⟩ | ⟨e, r2, h2⟩
        · cases lhs <;> rfl
        · rfl
      · simp only [ht, if_false, Step.result_ok, Outcome.bind_ok]
  · rfl

theorem binary_result (tier : Tier) (ts : List Token) :
    (binary eof tier ts).result =
      (operand eof tier ts).result.bind fun lhs r => (binaryRest eof tier lhs r).result := by
  rw [binary]
  cases operand eof tier ts <;> simp only [Step.result_widen] <;> rfl

theorem operand_of_tighter {tier u : Tier} (h : tier.tighter = some u) (ts : List Token) :
    operand eof tier ts = binary eof u ts := by
  rw [operand]
  split <;> simp_all

theorem operand_factor (ts : List Token) : operand eof .factor ts = unary eof ts := by
  rw [operand]
  split <;> simp_all [Tier.tighter]

@[simp] theorem binaryRest_nil (tier : Tier) (lhs : Expr) :
    (binaryRest eof tier lhs []).result = (.ok lhs, []) := by
  rw [binaryRest]
  rfl

theorem binaryRest_cons (tier : Tier) (lhs : Expr) (t : Token) (r : List Token) :
    (binaryRest eof tier lhs (t :: r)).result =
      if t.kind ∈ tier.operators then
        (operand eof tier r).result.bind fun rhs r2 =>
          (binaryRest eof tier (.binary lhs t rhs) r2).result
      else (.ok lhs, t :: r) := by
  rw [binaryRest]
  by_cases ht : t.kind ∈ tier.operators
  · simp only [ht, if_true]
    cases operand eof tier r <;> simp only [Step.result_widen] <;> rfl
  · simp only [ht, if_false]
    rfl

@[simp] theorem unary_nil : (unary eof []).result = (.error ⟨eof, .expectExpression⟩, []) := by
  rw [unary]
  rfl

theorem unary_cons (t : Token) (r : List Token) :
    (unary eof (t :: r)).result =
      if t.kind = .bang ∨ t.kind = .minus then
        (unary eof r).result.bind fun right r2 => (.ok (.unary t right), r2)
      else if t.kind.isLiteral then (.ok (.literal t), r)
      else if t.kind = .identifier then (.ok (.var t), r)
      else if t.kind = .leftParen then
        (assignment eof r).result.bind fun inner r2 =>
          match r2 with
          | c :: r3 =>
            if c.kind = .rightParen then (.ok (.grouping inner), r3)
            else (.error ⟨c, .expectRightParen⟩, c :: r3)
          | [] => (.error ⟨eof, .expectRightParen⟩, [])
      else (.error ⟨t, .expectExpression⟩, t :: r) := by
  rw [unary]
  split
  · rcases unary eof r with ⟨v, r2, h2⟩ | ⟨e, r2, h2⟩ <;> rfl
  · split
    · rfl
    · split
      · rfl
      · split
        · rcases assignment eof r with ⟨v, r2, h2⟩ | ⟨e, r2, h2⟩
          · rcases r2 with _ | ⟨c, r3⟩
            · rfl
            · by_cases hc : c.kind = .rightParen <;> simp [hc]
          · rfl
        · rfl

/-! ## Statements -/

theorem terminate_result (fault : SyntaxFault) (s : Stmt) (ts : List Token) :
    (terminate eof fault s ts).result =
      match ts with
      | t :: r => if t.kind = .semicolon then (.ok s, r) else (.error ⟨t, fault⟩, t :: r)
      | [] => (.error ⟨eof, fault⟩, []) := by
  rcases ts with _ | ⟨t, r⟩
  · rfl
  · by_cases ht : t.kind = .semicolon <;> simp [terminate, ht]

theorem exprStatement_result (fault : SyntaxFault) (make : Expr → Stmt) (ts : List Token) :
    (exprStatement eof fault make ts).result =
      (assignment eof ts).result.bind fun e r => (terminate eof fault (make e) r).result := by
  rw [exprStatement]
  cases assignment eof ts <;> simp only [Parsed.result_widen] <;> rfl

theorem varDeclaration_result (name : Token) (rest : List Token) :
    (varDeclaration eof (name :: rest)).result =
      if name.kind = .identifier then
        match rest with
        | t :: r =>
          if t.kind = .equal then
            (exprStatement eof .expectSemicolonAfterDeclaration
              (fun e => .varDecl name (some e)) r).result
          else (terminate eof .expectSemicolonAfterDeclaration (.varDecl name none) (t :: r)).result
        | [] => (terminate eof .expectSemicolonAfterDeclaration (.varDecl name none) []).result
      else (.error ⟨name, .expectVariableName⟩, name :: rest) := by
  rcases rest with _ | ⟨t, r⟩
  · by_cases hn : name.kind = .identifier <;> simp [varDeclaration, hn]
  · by_cases hn : name.kind = .identifier
    · by_cases ht : t.kind = .equal <;> simp [varDeclaration, hn, ht]
    · simp [varDeclaration, hn]

theorem declaration_result (t : Token) (r : List Token) :
    (declaration eof (t :: r)).result =
      if t.kind = .varKw then (varDeclaration eof r).result
      else if t.kind = .printKw then (exprStatement eof .expectSemicolonAfterValue .print r).result
      else (exprStatement eof .expectSemicolonAfterExpression .expression (t :: r)).result := by
  by_cases hv : t.kind = .varKw
  · simp [declaration, hv]
  · by_cases hp : t.kind = .printKw <;> simp [declaration, hv, hp]

theorem declarations_cons (t : Token) (r : List Token) :
    declarations eof (t :: r) =
      match (declaration eof (t :: r)).result with
      | (.ok s, rest) => ((s :: (declarations eof rest).1), (declarations eof rest).2)
      | (.error e, []) => ([], [e])
      | (.error e, u :: rest) =>
        ((declarations eof (synchronize (u :: rest))).1,
          e :: (declarations eof (synchronize (u :: rest))).2) := by
  rw [declarations]
  rcases declaration eof (t :: r) with ⟨s, rest, h⟩ | ⟨e, _ | ⟨u, rest⟩, h⟩ <;> rfl

/-! ## The order of the recursion -/

/-- Properties `A`, `B`, `O`, `R` and `U` of `assignment`, `binary`, `operand`, `binaryRest`
and `unary` hold of every input when each follows from the properties of the calls its parser
makes: on shorter input, or on the same input one level tighter. -/
theorem induction
    (A : List Token → Prop) (B O : Tier → List Token → Prop)
    (R : Tier → Expr → List Token → Prop) (U : List Token → Prop)
    (hA : ∀ ts, B .equality ts → (∀ us, us.length < ts.length → A us) → A ts)
    (hB : ∀ tier ts, O tier ts → (∀ lhs us, us.length ≤ ts.length → R tier lhs us) → B tier ts)
    (hO : ∀ tier ts, (∀ u, tier.tighter = some u → B u ts) → (tier.tighter = none → U ts) →
      O tier ts)
    (hR : ∀ tier lhs ts, (∀ us, us.length < ts.length → O tier us ∧ ∀ lhs', R tier lhs' us) →
      R tier lhs ts)
    (hU : ∀ ts, (∀ us, us.length < ts.length → A us ∧ U us) → U ts)
    (ts : List Token) :
    A ts ∧ (∀ tier, B tier ts ∧ O tier ts ∧ ∀ lhs, R tier lhs ts) ∧ U ts := by
  induction hn : ts.length using Nat.strongRecOn generalizing ts with
  | _ n ih =>
    -- everything on shorter input, and then the loop of each level on every input of length `n`
    have short : ∀ us : List Token, us.length < n →
        A us ∧ (∀ tier, B tier us ∧ O tier us ∧ ∀ lhs, R tier lhs us) ∧ U us :=
      fun us hus => ih us.length hus us rfl
    have loops : ∀ us : List Token, us.length ≤ n → ∀ tier lhs, R tier lhs us := by
      intro us hus tier lhs
      apply hR tier lhs us
      intro vs hvs
      have hv := (short vs (by omega)).2.1 tier
      exact ⟨hv.2.1, hv.2.2⟩
    have hu : U ts := hU ts fun us hus => ⟨(short us (by omega)).1, (short us (by omega)).2.2⟩
    have levels : ∀ tier, B tier ts ∧ O tier ts := by
      apply Tier.induction_tighter
      intro tier tighter
      have ho : O tier ts := hO tier ts (fun u hu => (tighter u hu).1) (fun _ => hu)
      exact ⟨hB tier ts ho fun lhs us hus => loops us (by omega) tier lhs, ho⟩
    have ha : A ts := hA ts (levels .equality).1 fun us hus => (short us (by omega)).1
    exact ⟨ha, fun tier => ⟨(levels tier).1, (levels tier).2, loops ts (by omega) tier⟩, hu⟩

end Parse

end MiniLox
