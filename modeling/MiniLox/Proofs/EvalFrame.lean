import MiniLox.Proofs.EvalOrder

/-!
# What evaluation may change

Of all the nodes of an expression only an assignment touches the environment, and it rebinds a
name that is bound already (`Expr.Node.step_env`). So a run of nodes keeps every relation
between environments that holds of itself, composes, and holds across those assignments
(`Expr.Node.run_env_rel`), and with it evaluation: whether it succeeds or fails, evaluating an
expression neither binds nor unbinds a name, and rebinds only names the expression assigns to
(`Expr.eval_frame`). An assignment to a name that is not bound fails and changes nothing.

Running statements binds, besides the names bound before, exactly the names of the variable
declarations whose initializer, when there is one, evaluates without error: a declaration whose
initializer fails defines nothing. What a name is bound to is always a `Value`, of one of its
four kinds, `nil` among them (`Value.kinds`); there is no missing value to bind.
-/

set_option autoImplicit false

namespace MiniLox

namespace Environment

/-- `env'` binds exactly the names `env` binds, and agrees with `env` outside the names
`ns`. -/
def Frame (ns : List String) (env env' : Environment) : Prop :=
  (∀ n, (env'.get? n).isSome = (env.get? n).isSome) ∧
    ∀ n, n ∉ ns → env'.get? n = env.get? n

theorem Frame.refl (ns : List String) (env : Environment) : Frame ns env env :=
  ⟨fun _ => rfl, fun _ _ => rfl⟩

theorem Frame.trans {ns : List String} {a b c : Environment} (hab : Frame ns a b)
    (hbc : Frame ns b c) : Frame ns a c :=
  ⟨fun n => (hbc.1 n).trans (hab.1 n), fun n hn => (hbc.2 n hn).trans (hab.2 n hn)⟩

theorem Frame.of_assign? {ns : List String} {env env' : Environment} {name : String} {v : Value}
    (hname : name ∈ ns) (h : env.assign? name v = some env') : Frame ns env env' := by
  obtain ⟨hbound, rfl⟩ := assign?_eq_some.1 h
  constructor
  · intro n
    by_cases hn : n = name
    · subst hn
      simp [hbound]
    · simp [hn]
  · intro n hn
    have hne : n ≠ name := fun he => hn (he ▸ hname)
    exact get?_define_ne env hne v

end Environment

namespace Expr

namespace Node

def target? : Node → Option String
  | assign name => some name.lexeme
  | _ => none

theorem step_env {n : Node} {vs vs' : List Value} {env env' : Environment}
    (h : n.step vs env = .ok (vs', env')) :
    env' = env ∨ ∃ t ∈ n.target?, ∃ v, env.assign? t v = some env' := by
  unfold step at h
  split at h
  case h_1 => cases h; exact .inl rfl
  case h_2 => split at h <;> cases h; exact .inl rfl
  case h_3 => split at h <;> cases h; exact .inl rfl
  case h_4 => split at h <;> cases h; exact .inl rfl
  case h_5 =>
    split at h
    · next ha =>
      cases h
      exact .inr ⟨_, rfl, _, ha⟩
    · cases h
  case h_6 => cases h; exact .inl rfl

variable (R : Environment → Environment → Prop)

theorem run_env_rel (hrefl : ∀ env, R env env) (htrans : ∀ {a b c}, R a b → R b c → R a c)
    (ns : List Node)
    (hassign : ∀ n ∈ ns, ∀ t ∈ n.target?, ∀ env v env',
      env.assign? t v = some env' → R env env')
    (vs : List Value) (env : Environment) : R env (run ns vs env).2 := by
  induction ns generalizing vs env with
  | nil => exact hrefl env
  | cons n ns ih =>
    have hrest := ih fun m hm => hassign m (List.mem_cons_of_mem n hm)
    rcases hn : n.step vs env with err | ⟨vs1, env1⟩
    · rw [run_cons_error hn]
      exact hrefl env
    · rw [run_cons_ok hn]
      -- one step, then the rest of the run
      have hstep : R env env1 := by
        rcases step_env hn with he | ⟨t, ht, v, ha⟩
        · rw [he]
          exact hrefl env
        · exact hassign n (List.mem_cons_self ..) t ht env v env1 ha
      exact htrans hstep (hrest vs1 env1)

end Node

def targets : Expr → List String
  | literal _ | var _ => []
  | grouping e | unary _ e => e.targets
  | binary l _ r => l.targets ++ r.targets
  | assign name v => name.lexeme :: v.targets

theorem mem_targets_of_mem_nodes {e : Expr} {n : Node} (hn : n ∈ e.nodes) {t : String}
    (ht : t ∈ n.target?) : t ∈ e.targets := by
  induction e with
  | literal tok => simp [nodes] at hn; subst hn; cases ht
  | var name => simp [nodes] at hn; subst hn; cases ht
  | grouping e ih => exact ih hn
  | unary op e ih =>
    simp only [nodes, List.mem_append, List.mem_singleton] at hn
    rcases hn with hn | rfl
    · exact ih hn
    · cases ht
  | binary l op r ihl ihr =>
    simp only [nodes, List.mem_append, List.mem_singleton] at hn
    rcases hn with (hn | hn) | rfl
    · exact List.mem_append_left _ (ihl hn)
    · exact List.mem_append_right _ (ihr hn)
    · cases ht
  | assign name v ih =>
    simp only [nodes, List.mem_append, List.mem_singleton] at hn
    rcases hn with hn | rfl
    · exact List.mem_cons_of_mem _ (ih hn)
    · simp only [Node.target?, Option.mem_def, Option.some.injEq] at ht
      simp [targets, ht]

theorem eval_snd (e : Expr) (env : Environment) :
    (e.eval env).2 = (Node.run e.nodes [] env).2 := by
  rw [run_nodes]
  rcases e.eval env with ⟨err | v, env1⟩ <;> rfl

theorem eval_env_rel (R : Environment → Environment → Prop) (hrefl : ∀ env, R env env)
    (htrans : ∀ {a b c}, R a b → R b c → R a c) (e : Expr)
    (hassign : ∀ t ∈ e.targets, ∀ env v env', env.assign? t v = some env' → R env env')
    (env : Environment) : R env (e.eval env).2 := by
  rw [eval_snd]
  exact Node.run_env_rel R hrefl htrans e.nodes
    (fun n hn t ht => hassign t (mem_targets_of_mem_nodes hn ht)) [] env

/-- Evaluation, failed or not, binds exactly the names bound before, and rebinds only names the
expression assigns to. -/
theorem eval_frame (e : Expr) (env : Environment) :
    Environment.Frame e.targets env (e.eval env).2 :=
  eval_env_rel (Environment.Frame e.targets) (Environment.Frame.refl _)
    Environment.Frame.trans e (fun _ ht _ _ _ ha => Environment.Frame.of_assign? ht ha) env

theorem eval_assign_unbound {name : Token} {value : Expr} {env env1 : Environment} {v : Value}
    (hname : env.get? name.lexeme = none) (hv : value.eval env = (.ok v, env1)) :
    (assign name value).eval env = (.error (.undefined name), env1) := by
  -- the value binds no new name, so the name is still unbound
  have hframe := (eval_frame value env).1 name.lexeme
  rw [hv, hname] at hframe
  have hunbound : env1.get? name.lexeme = none := by simpa using hframe
  simp [eval, hv, Environment.assign?_eq_none.2 hunbound]

end Expr

theorem Stmt.exec_bound (s : Stmt) (env : Environment) (n : String) :
    ((s.exec env).2.get? n).isSome ↔ (env.get? n).isSome ∨
      ∃ name init, s = .varDecl name init ∧ name.lexeme = n ∧ (s.exec env).1 = none := by
  rcases s with e | e | ⟨name, _ | e⟩
  case varDecl.none =>
    simp [Stmt.exec, Environment.isSome_get?_define, or_comm]
  -- the other statements keep the names their expression's evaluation keeps
  all_goals
    have hframe := (e.eval_frame env).1 n
    rcases he : e.eval env with ⟨err | v, env1⟩
    all_goals rw [he] at hframe
  case varDecl.some.ok =>
    simp [Stmt.exec, he, Environment.isSome_get?_define, hframe, or_comm]
  all_goals simp [Stmt.exec, he, hframe]

/-- Running statements binds, besides the names bound before, exactly the names of the variable
declarations among them that do not fail: those without an initializer, and those whose
initializer evaluates without error in the environment the statements before them left. -/
theorem interpret_bound (ss : List Stmt) (env : Environment) (n : String) :
    ((interpret ss env).2.get? n).isSome ↔ (env.get? n).isSome ∨
      ∃ i name init, ss[i]? = some (.varDecl name init) ∧ name.lexeme = n ∧
        ((Stmt.varDecl name init).exec (interpret (ss.take i) env).2).1 = none := by
  induction ss generalizing env with
  | nil => simp [interpret]
  | cons s rest ih =>
    rw [interpret_cons, ih, Stmt.exec_bound]
    constructor
    · rintro ((hbound | ⟨name, init, rfl, hn, hok⟩) | ⟨i, name, init, hi, hn, hok⟩)
      · exact .inl hbound
      · exact .inr ⟨0, name, init, rfl, hn, hok⟩
      · refine .inr ⟨i + 1, name, init, hi, hn, ?_⟩
        rw [List.take_succ_cons, interpret_cons]
        exact hok
    · rintro (hbound | ⟨_ | i, name, init, hi, hn, hok⟩)
      · exact .inl (.inl hbound)
      · -- the first statement is the declaration
        simp only [List.getElem?_cons_zero, Option.some.injEq] at hi
        subst hi
        exact .inl (.inr ⟨name, init, rfl, hn, hok⟩)
      · rw [List.take_succ_cons, interpret_cons] at hok
        exact .inr ⟨i, name, init, hi, hn, hok⟩

/-- Evaluating an expression, whether it succeeds or fails, neither binds nor unbinds a name,
and rebinds only names the expression assigns to; an assignment to a name that is not bound
fails as an undefined variable and changes nothing. Running statements binds, besides the names
bound before, exactly the names of the variable declarations whose initializer, when there is
one, evaluates without error. Every binding of the states they reach holds a value of one of the
four kinds. -/
theorem eval_interpret_bindings (e : Expr) (ss : List Stmt) (env : Environment) :
    (∀ n, (((e.eval env).2.get? n).isSome ↔ (env.get? n).isSome) ∧
      (n ∉ e.targets → (e.eval env).2.get? n = env.get? n)) ∧
    (∀ (name : Token) (value : Expr) (v : Value) (env1 : Environment),
      env.get? name.lexeme = none → value.eval env = (.ok v, env1) →
        (Expr.assign name value).eval env = (.error (.undefined name), env1)) ∧
    (∀ n, ((interpret ss env).2.get? n).isSome ↔ (env.get? n).isSome ∨
      ∃ i name init, ss[i]? = some (.varDecl name init) ∧ name.lexeme = n ∧
        ((Stmt.varDecl name init).exec (interpret (ss.take i) env).2).1 = none) ∧
    (∀ n v, (e.eval env).2.get? n = some v ∨ (interpret ss env).2.get? n = some v →
      (∃ s, v = .text s) ∨ (∃ x, v = .number x) ∨ (∃ b, v = .bool b) ∨ v = .nil) := by
  refine ⟨fun n => ⟨?_, (e.eval_frame env).2 n⟩, fun _ _ _ _ => Expr.eval_assign_unbound,
    interpret_bound ss env, fun _ v _ => v.kinds⟩
  rw [(e.eval_frame env).1 n]

/-- Assigning `1` to `x`, which is not bound, fails as an undefined variable and binds
nothing. -/
theorem eval_interpret_bindings_unbound :
    ({} : Environment).get? "x" = none ∧
      (Expr.literal ⟨.number, "1", .number 1, 1⟩).eval {} = (.ok (.number 1), {}) ∧
      (Expr.assign ⟨.identifier, "x", .text "x", 1⟩ (.literal ⟨.number, "1", .number 1, 1⟩)).eval
        {} = (.error (.undefined ⟨.identifier, "x", .text "x", 1⟩), {}) :=
  ⟨rfl, rfl, (eval_interpret_bindings (.literal ⟨.number, "1", .number 1, 1⟩) [] {}).2.1
    ⟨.identifier, "x", .text "x", 1⟩ _ _ _ rfl rfl⟩

end MiniLox
