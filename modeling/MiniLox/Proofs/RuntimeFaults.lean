import MiniLox.Proofs.Grammar
import MiniLox.Eval

/-!
# The faults a parsed program can raise

The interpreter has fallbacks for a unary node whose operator is neither `!` nor `-` and for a
binary node whose operator is none of the ten binary operators. The parser builds no such node:
every statement it returns is well formed (`Parse.declarations_wellFormed`), and a well-formed
tree holds only the grammar's operators. So running what the parser returns, in any
environment, fails only on a name that is not bound or on operands of the wrong kind.
-/

set_option autoImplicit false

namespace MiniLox

/-- A fault of the program rather than of the interpreter: an unbound name, or operands of the
wrong kind. -/
def RuntimeFault.isProgramFault (f : RuntimeFault) : Bool :=
  f.isUndefinedVariable || f.isOperandType

theorem applyUnary_fault {op : Token} {v : Value} {err : RuntimeError}
    (hop : op.kind = .bang ∨ op.kind = .minus) (h : applyUnary op v = .error err) :
    err.fault.isProgramFault = true := by
  unfold applyUnary at h
  split at h
  · cases h
  · cases h; rfl
  · cases h
  · next hne hne' => rcases hop with hk | hk <;> simp_all

theorem applyNumeric_error {op : Token} {x y : Float} {err : RuntimeError}
    (h : applyNumeric op x y = .error err) :
    op.kind ∉ [.minus, .star, .slash, .greater, .greaterEqual, .less, .lessEqual] := by
  unfold applyNumeric at h
  split at h
  case h_8 h1 h2 h3 h4 h5 h6 h7 =>
    simp only [List.mem_cons, List.not_mem_nil, or_false]
    rintro (hk | hk | hk | hk | hk | hk | hk) <;> contradiction
  all_goals cases h

theorem applyBinary_fault {op : Token} {l r : Value} {err : RuntimeError}
    (h : applyBinary op l r = .error err) :
    err.fault.isProgramFault = true ∨ Tier.ofOperator? op.kind = none := by
  unfold applyBinary at h
  split at h
  case h_5 => cases h; exact .inl rfl
  case h_6 heq hbe hp =>
    have hk := applyNumeric_error h
    right
    revert heq hbe hp hk
    cases op.kind <;> simp [Tier.ofOperator?]
  case h_7 => cases h; exact .inl rfl
  all_goals cases h

theorem Expr.eval_fault (e : Expr) (he : e.WellFormed) (env : Environment) {err : RuntimeError}
    {env' : Environment} (h : e.eval env = (.error err, env')) : err.fault.isProgramFault = true := by
  induction e generalizing env env' with
  | literal t => simp [Expr.eval] at h
  | var name =>
    simp only [Expr.eval] at h
    split at h
    · cases h
    · obtain ⟨⟨⟩, -⟩ := Prod.mk.inj h
      rfl
  | grouping e ih => exact ih he env h
  | unary op right ih =>
    simp only [Expr.eval] at h
    split at h
    · next hr =>
      obtain ⟨⟨⟩, rfl⟩ := Prod.mk.inj h
      exact ih he.2.2 env hr
    · exact applyUnary_fault he.1 (Prod.mk.inj h).1
  | binary l op r ihl ihr =>
    obtain ⟨tier, hop, -, -, hl, hr⟩ := he
    simp only [Expr.eval] at h
    split at h
    · next hle =>
      obtain ⟨⟨⟩, rfl⟩ := Prod.mk.inj h
      exact ihl hl env hle
    · split at h
      · next hre =>
        obtain ⟨⟨⟩, rfl⟩ := Prod.mk.inj h
        exact ihr hr _ hre
      · -- the operator is one of the grammar's, so the interpreter knows it
        refine (applyBinary_fault (Prod.mk.inj h).1).resolve_right ?_
        rw [Tier.ofOperator?_of_mem hop]
        exact Option.some_ne_none tier
  | assign name value ih =>
    simp only [Expr.eval] at h
    split at h
    · next hv =>
      obtain ⟨⟨⟩, rfl⟩ := Prod.mk.inj h
      exact ih he.2 env hv
    · split at h
      · cases h
      · obtain ⟨⟨⟩, -⟩ := Prod.mk.inj h
        rfl

theorem Stmt.exec_fault (s : Stmt) (hs : s.WellFormed) (env : Environment) {err : RuntimeError}
    (h : (s.exec env).1 = some (.failed err)) : err.fault.isProgramFault = true := by
  rcases s with e | e | ⟨name, _ | e⟩
  case varDecl.none => simp [Stmt.exec] at h
  -- the other statements fail exactly when their expression does
  all_goals
    rcases he : e.eval env with ⟨_ | v, env'⟩
    all_goals simp [Stmt.exec, he] at h
  case print.error => exact h ▸ Expr.eval_fault e hs env he
  case expression.error => exact h ▸ Expr.eval_fault e hs env he
  case varDecl.some.error => exact h ▸ Expr.eval_fault e hs.2 env he

theorem interpret_faults (ss : List Stmt) (hss : ∀ s ∈ ss, s.WellFormed) (env : Environment) :
    ∀ err ∈ Effect.failures (interpret ss env).1, err.fault.isProgramFault = true := by
  induction ss generalizing env with
  | nil => simp [interpret, Effect.failures]
  | cons s rest ih =>
    intro err herr
    simp only [interpret, Effect.failures, List.filterMap_append, List.mem_append] at herr
    rcases herr with hown | hrest
    · rcases hx : (s.exec env).1 with _ | (_ | e) <;> simp [hx] at hown
      exact hown ▸ Stmt.exec_fault s (hss s (List.mem_cons_self ..)) env hx
    · exact ih (fun s' h' => hss s' (List.mem_cons_of_mem _ h')) _ err hrest

namespace Parse

variable (eof : Token)

/-- Whatever the tokens, every statement the parser returns is well formed: the failed
declarations are left out. -/
theorem declarations_wellFormed (ts : List Token) :
    ∀ s ∈ (declarations eof ts).1, s.WellFormed := by
  fun_induction declarations eof ts with
  | case1 => simp
  | case2 t r s rest _ hd more ih =>
    intro s' hs'
    rcases List.mem_cons.1 hs' with rfl | hs'
    · exact (declaration_spells eof (by rw [hd]; rfl)).2
    · exact ih s' hs'
  | case3 => simp
  | case4 t r e u rest _ hd more ih => exact ih

end Parse

/-- Running the statements parsed from any token list, in any environment, fails only on an
unbound name or on operands of the wrong kind: the interpreter's fallbacks for unknown operators
are never reached. -/
theorem interpret_parse_faults (ts : List Token) (env : Environment) :
    ∀ err ∈ Effect.failures (interpret (parse ts).1 env).1,
      err.fault.isUndefinedVariable = true ∨ err.fault.isOperandType = true := by
  intro err herr
  rw [parse_eq_declarations] at herr
  exact Bool.or_eq_true_iff.1 (interpret_faults _ (Parse.declarations_wellFormed _ _) env err herr)

/-- The statement `x;` run in the empty environment fails on the unbound `x`. -/
theorem interpret_parse_faults_unbound :
    RuntimeError.undefined ⟨.identifier, "x", .text "x", 1⟩ ∈
        Effect.failures (interpret (parse [⟨.identifier, "x", .text "x", 1⟩,
          ⟨.semicolon, ";", .absent, 1⟩, ⟨.eof, "", .absent, 1⟩]).1 {}).1 ∧
      ((RuntimeError.undefined ⟨.identifier, "x", .text "x", 1⟩).fault.isUndefinedVariable = true ∨
        (RuntimeError.undefined ⟨.identifier, "x", .text "x", 1⟩).fault.isOperandType = true) := by
  have hparse : parse [⟨.identifier, "x", .text "x", 1⟩, ⟨.semicolon, ";", .absent, 1⟩,
      ⟨.eof, "", .absent, 1⟩] = ([.expression (.var ⟨.identifier, "x", .text "x", 1⟩)], []) := by
    rw [parse_eq_declarations]
    exact Parse.declarations_of_unparse _ _ (by simp [Stmt.WellFormed, Expr.WellFormed]) _ rfl
  have hmem : RuntimeError.undefined ⟨.identifier, "x", .text "x", 1⟩ ∈
      Effect.failures (interpret (parse [⟨.identifier, "x", .text "x", 1⟩,
        ⟨.semicolon, ";", .absent, 1⟩, ⟨.eof, "", .absent, 1⟩]).1 {}).1 := by
    rw [hparse]
    exact List.mem_singleton_self _
  exact ⟨hmem, interpret_parse_faults _ _ _ hmem⟩

end MiniLox
