import MiniLox.Eval

/-!
# Evaluation order and the first failure

An expression is evaluated node by node: the operands of a node before the node, the left
operand before the right one (`Expr.nodes`). `Expr.Node.run` runs such a sequence over a stack
of operand values and stops at the first node that fails, in the environment the nodes before it
left. Evaluation is exactly that run (`Expr.run_nodes_append`): a runtime error is the error of
the first node to fail, at its operator or name; no node after it is evaluated, and no
assignment after it takes effect.

Statements run one after another (`Runs`), each in the environment the statements before it
left, whether or not they failed. A print whose expression has a value shows that value's text,
which the display writes on the output followed by a newline; a statement whose expression fails
shows that one failure and nothing else. Main statement: running statements does exactly what
`Runs` says (`interpret_eq_iff_runs`).
-/

set_option autoImplicit false

namespace MiniLox

namespace Expr

/-- A node of an expression as evaluation meets it, after its operands. A grouping passes its
operand's value on and is no node of its own. -/
inductive Node where
  | literal (token : Token)
  | var (name : Token)
  | unary (op : Token)
  | binary (op : Token)
  | assign (name : Token)

namespace Node

def token : Node → Token
  | literal t | var t | unary t | binary t | assign t => t

def step : Node → List Value → Environment → Except RuntimeError (List Value × Environment)
  | literal t, vs, env => .ok (t.value :: vs, env)
  | var name, vs, env =>
    match env.get? name.lexeme with
    | some v => .ok (v :: vs, env)
    | none => .error (.undefined name)
  | unary op, v :: vs, env =>
    match applyUnary op v with
    | .ok w => .ok (w :: vs, env)
    | .error err => .error err
  | binary op, r :: l :: vs, env =>
    match applyBinary op l r with
    | .ok w => .ok (w :: vs, env)
    | .error err => .error err
  | assign name, v :: vs, env =>
    match env.assign? name.lexeme v with
    | some env' => .ok (v :: vs, env')
    | none => .error (.undefined name)
  -- operands missing from the stack: the nodes of an expression never meet this
  | _, vs, env => .ok (vs, env)

/-- Runs nodes in order. The first node that fails stops the run, in the environment the nodes
before it left. -/
def run :
    List Node → List Value → Environment → Except RuntimeError (List Value) × Environment
  | [], vs, env => (.ok vs, env)
  | n :: ns, vs, env =>
    match n.step vs env with
    | .ok (vs', env') => run ns vs' env'
    | .error err => (.error err, env)

def resume (k : List Node) (vs : List Value) :
    Except RuntimeError Value × Environment → Except RuntimeError (List Value) × Environment
  | (.ok v, env) => run k (v :: vs) env
  | (.error err, env) => (.error err, env)

theorem run_cons_ok {n : Node} {ns : List Node} {vs vs' : List Value} {env env' : Environment}
    (h : n.step vs env = .ok (vs', env')) : run (n :: ns) vs env = run ns vs' env' := by
  simp [run, h]

theorem run_cons_error {n : Node} {ns : List Node} {vs : List Value} {env : Environment}
    {err : RuntimeError} (h : n.step vs env = .error err) :
    run (n :: ns) vs env = (.error err, env) := by
  simp [run, h]

theorem run_cons_of_value {n : Node} (k : List Node) {vs vs0 : List Value} {env : Environment}
    {r : Except RuntimeError Value}
    (h : n.step vs env = match r with
      | .ok w => .ok (w :: vs0, env)
      | .error err => .error err) :
    run (n :: k) vs env = resume k vs0 (r, env) := by
  cases r with
  | ok w => exact run_cons_ok h
  | error err => exact run_cons_error h

theorem run_unary (op : Token) (k : List Node) (v : Value) (vs : List Value) (env : Environment) :
    run (.unary op :: k) (v :: vs) env = resume k vs (applyUnary op v, env) :=
  run_cons_of_value k rfl

theorem run_binary (op : Token) (k : List Node) (l r : Value) (vs : List Value)
    (env : Environment) :
    run (.binary op :: k) (r :: l :: vs) env = resume k vs (applyBinary op l r, env) :=
  run_cons_of_value k rfl

theorem run_append (ns ms : List Node) (vs : List Value) (env : Environment) :
    run (ns ++ ms) vs env =
      match run ns vs env with
      | (.ok vs', env') => run ms vs' env'
      | (.error err, env') => (.error err, env') := by
  induction ns generalizing vs env with
  | nil => rfl
  | cons n ns ih =>
    rw [List.cons_append]
    rcases h : n.step vs env with err | ⟨vs', env'⟩
    · rw [run_cons_error h, run_cons_error h]
    · rw [run_cons_ok h, run_cons_ok h, ih]

theorem run_eq_error_iff {ns : List Node} {vs : List Value} {env env' : Environment}
    {err : RuntimeError} :
    run ns vs env = (.error err, env') ↔
      ∃ pre n post vs', ns = pre ++ n :: post ∧ run pre vs env = (.ok vs', env') ∧
        n.step vs' env' = .error err := by
  constructor
  · intro h
    induction ns generalizing vs env with
    | nil => cases h
    | cons n ns ih =>
      rcases hn : n.step vs env with err' | ⟨vs1, env1⟩
      · -- the first node fails: nothing ran before it
        rw [run_cons_error hn] at h
        obtain ⟨⟨⟩, rfl⟩ := Prod.mk.inj h
        exact ⟨[], n, ns, vs, rfl, rfl, hn⟩
      · rw [run_cons_ok hn] at h
        obtain ⟨pre, m, post, vs', rfl, hpre, hm⟩ := ih h
        exact ⟨n :: pre, m, post, vs', rfl, by rw [run_cons_ok hn, hpre], hm⟩
  · rintro ⟨pre, n, post, vs', rfl, hpre, hn⟩
    rw [run_append, hpre]
    exact run_cons_error hn

theorem step_error_token {n : Node} {vs : List Value} {env : Environment} {err : RuntimeError}
    (h : n.step vs env = .error err) : err.token = n.token := by
  unfold step at h
  split at h
  case h_2 => split at h <;> cases h; rfl
  case h_3 => split at h <;> cases h; exact applyUnary_error_token ‹_›
  case h_4 => split at h <;> cases h; exact applyBinary_error_token ‹_›
  case h_5 => split at h <;> cases h; rfl
  all_goals cases h

end Node

def nodes : Expr → List Node
  | literal t => [.literal t]
  | var name => [.var name]
  | grouping e => e.nodes
  | unary op e => e.nodes ++ [.unary op]
  | binary l op r => l.nodes ++ r.nodes ++ [.binary op]
  | assign name v => v.nodes ++ [.assign name]

theorem run_nodes_append (e : Expr) (k : List Node) (vs : List Value) (env : Environment) :
    Node.run (e.nodes ++ k) vs env = Node.resume k vs (e.eval env) := by
  induction e generalizing k vs env with
  | literal t => rfl
  | var name =>
    rw [nodes, eval, List.singleton_append]
    rcases h : env.get? name.lexeme with _ | v
    · exact Node.run_cons_error (by simp [Node.step, h])
    · exact Node.run_cons_ok (by simp [Node.step, h])
  | grouping e ih => exact ih k vs env
  | unary op e ih =>
    rw [nodes, List.append_assoc, ih, eval]
    rcases e.eval env with ⟨err | v, env1⟩
    · rfl
    · rw [Node.resume, List.singleton_append]
      exact Node.run_unary op k v vs env1
  | binary l op r ihl ihr =>
    rw [nodes, List.append_assoc, List.append_assoc, ihl, eval]
    rcases l.eval env with ⟨err | lv, env1⟩
    · rfl
    -- the right operand runs on top of the left one's value
    · dsimp only
      rw [Node.resume, ihr]
      rcases r.eval env1 with ⟨err | rv, env2⟩
      · rfl
      · rw [Node.resume, List.singleton_append]
        exact Node.run_binary op k lv rv vs env2
  | assign name value ih =>
    rw [nodes, List.append_assoc, ih, eval]
    rcases value.eval env with ⟨err | v, env1⟩
    · rfl
    · dsimp only
      rw [Node.resume, List.singleton_append]
      rcases h : env1.assign? name.lexeme v with _ | env2
      · exact Node.run_cons_error (n := .assign name) (by simp [Node.step, h])
      · exact Node.run_cons_ok (n := .assign name) (by simp [Node.step, h])

theorem run_nodes (e : Expr) (env : Environment) :
    Node.run e.nodes [] env = Node.resume [] [] (e.eval env) := by
  simpa using e.run_nodes_append [] [] env

/-- `e` evaluates from `env` to the outcome `o`, ending in `env'`, read off its nodes in
evaluation order: to a value when all its nodes run and leave that value; to an error when the
nodes before some node run and leave `env'`, and that node then fails, at its own token. -/
def Evaluates (e : Expr) (env : Environment) : Except RuntimeError Value → Environment → Prop
  | .ok v, env' => Node.run e.nodes [] env = (.ok [v], env')
  | .error err, env' => ∃ pre n post vs, e.nodes = pre ++ n :: post ∧
      Node.run pre [] env = (.ok vs, env') ∧ n.step vs env' = .error err ∧ err.token = n.token

theorem eval_eq_iff_evaluates (e : Expr) (env : Environment) (o : Except RuntimeError Value)
    (env' : Environment) : e.eval env = (o, env') ↔ e.Evaluates env o env' := by
  have hrun := e.run_nodes env
  rcases o with err | v
  · -- a failure of the run is a failure of its first failing node
    have hfirst :
        Node.run e.nodes [] env = (.error err, env') ↔ e.Evaluates env (.error err) env' := by
      rw [Node.run_eq_error_iff]
      constructor
      · rintro ⟨pre, n, post, vs, hns, hpre, hn⟩
        exact ⟨pre, n, post, vs, hns, hpre, hn, Node.step_error_token hn⟩
      · rintro ⟨pre, n, post, vs, hns, hpre, hn, -⟩
        exact ⟨pre, n, post, vs, hns, hpre, hn⟩
    rw [← hfirst, hrun]
    rcases e.eval env with ⟨err' | v', env1⟩ <;> simp [Node.resume, Node.run]
  · show _ ↔ Node.run e.nodes [] env = (.ok [v], env')
    rw [hrun]
    rcases e.eval env with ⟨err' | v', env1⟩ <;> simp [Node.resume, Node.run]

end Expr

def Stmt.expr? : Stmt → Option Expr
  | .print e | .expression e => some e
  | .varDecl _ init => init

/-- What statements do when run one after another from `env`: the effects they show, in order,
and the environment they leave. Each statement runs in the environment the ones before it left,
whether or not they failed. A print shows the text of its expression's value; a statement whose
expression fails shows that failure alone and leaves the environment where the failure left
it. -/
inductive Runs : List Stmt → Environment → List Effect → Environment → Prop
  | nil (env : Environment) : Runs [] env [] env
  | print {e : Expr} {rest : List Stmt} {env env1 env2 : Environment} {v : Value}
      {effs : List Effect} :
      e.Evaluates env (.ok v) env1 → Runs rest env1 effs env2 →
      Runs (.print e :: rest) env (.printed v.display :: effs) env2
  | expression {e : Expr} {rest : List Stmt} {env env1 env2 : Environment} {v : Value}
      {effs : List Effect} :
      e.Evaluates env (.ok v) env1 → Runs rest env1 effs env2 →
      Runs (.expression e :: rest) env effs env2
  | declare {name : Token} {rest : List Stmt} {env env2 : Environment} {effs : List Effect} :
      Runs rest (env.define name.lexeme .nil) effs env2 →
      Runs (.varDecl name none :: rest) env effs env2
  | define {name : Token} {e : Expr} {rest : List Stmt} {env env1 env2 : Environment}
      {v : Value} {effs : List Effect} :
      e.Evaluates env (.ok v) env1 → Runs rest (env1.define name.lexeme v) effs env2 →
      Runs (.varDecl name (some e) :: rest) env effs env2
  | failed {s : Stmt} {e : Expr} {rest : List Stmt} {env env1 env2 : Environment}
      {err : RuntimeError} {effs : List Effect} :
      s.expr? = some e → e.Evaluates env (.error err) env1 → Runs rest env1 effs env2 →
      Runs (s :: rest) env (.failed err :: effs) env2

theorem Stmt.exec_of_eval_error {s : Stmt} {e : Expr} {env env1 : Environment}
    {err : RuntimeError} (hs : s.expr? = some e) (h : e.eval env = (.error err, env1)) :
    s.exec env = (some (.failed err), env1) := by
  rcases s with e' | e' | ⟨name, _ | e'⟩
  all_goals simp only [Stmt.expr?, Option.some.injEq, reduceCtorEq] at hs
  all_goals subst hs
  all_goals simp [Stmt.exec, h]

theorem interpret_runs (ss : List Stmt) (env : Environment) :
    Runs ss env (interpret ss env).1 (interpret ss env).2 := by
  induction ss generalizing env with
  | nil => exact .nil env
  | cons s rest ih =>
    rw [interpret_cons]
    rcases s with e | e | ⟨name, _ | e⟩
    case varDecl.none => exact .declare (ih _)
    -- the other statements go as their expression does
    all_goals
      rcases he : e.eval env with ⟨err | v, env1⟩
      · rw [Stmt.exec_of_eval_error rfl he]
        exact .failed rfl ((e.eval_eq_iff_evaluates env _ _).1 he) (ih env1)
    all_goals simp only [Stmt.exec, he]
    case print.ok => exact .print ((e.eval_eq_iff_evaluates env _ _).1 he) (ih env1)
    case expression.ok => exact .expression ((e.eval_eq_iff_evaluates env _ _).1 he) (ih env1)
    case varDecl.some.ok => exact .define ((e.eval_eq_iff_evaluates env _ _).1 he) (ih _)

theorem Runs.interpret_eq {ss : List Stmt} {env env' : Environment} {effs : List Effect}
    (h : Runs ss env effs env') : interpret ss env = (effs, env') := by
  induction h with
  | nil env => rfl
  | print he _ ih =>
    simp [interpret_cons, Stmt.exec, (Expr.eval_eq_iff_evaluates _ _ _ _).2 he, ih]
  | expression he _ ih =>
    simp [interpret_cons, Stmt.exec, (Expr.eval_eq_iff_evaluates _ _ _ _).2 he, ih]
  | declare _ ih => simp [interpret_cons, Stmt.exec, ih]
  | define he _ ih =>
    simp [interpret_cons, Stmt.exec, (Expr.eval_eq_iff_evaluates _ _ _ _).2 he, ih]
  | failed hs he _ ih =>
    have hexec := Stmt.exec_of_eval_error hs ((Expr.eval_eq_iff_evaluates _ _ _ _).2 he)
    simp [interpret_cons, hexec, ih]

/-- Running statements in order from any environment does exactly what `Runs` says: every
statement runs, in the environment the ones before it left, whether or not they failed; a print
whose expression evaluates to `v` shows `v`'s text and a failing one shows nothing printed; and
each statement whose expression fails shows exactly one failure, that of the first node to fail
in evaluation order (left operand, right operand, then the node), at that node's operator or
name, with no later node evaluated and no later assignment made. -/
theorem interpret_eq_iff_runs (ss : List Stmt) (env : Environment) (effs : List Effect)
    (env' : Environment) : interpret ss env = (effs, env') ↔ Runs ss env effs env' := by
  constructor
  · intro h
    have hr := interpret_runs ss env
    rw [h] at hr
    exact hr
  · exact Runs.interpret_eq

end MiniLox
