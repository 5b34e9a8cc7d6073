import MiniLox.Proofs.EvalFrame

/-!
# Evaluation sees only the names it mentions

An expression reads the environment at its variables and at its assignments' targets, and writes
it only at those targets. Two environments that agree on these names, binding each to the same
value or leaving it unbound in both, cannot be told apart by it: evaluation gives the same value
or the same runtime error in both, and leaves two environments that still agree on those names,
each unchanged at every other name (`Expr.eval_agree`).

The argument is a simulation between the two runs of the expression's nodes: one node run in two
agreeing environments fails alike or leaves the same stack in environments that still agree
(`Expr.Node.step_agree`), and a run of nodes does so by induction on the nodes
(`Expr.Node.run_agree`). A later read of a name sees the earlier write in both runs, since the
agreement is carried through every assignment.
-/

set_option autoImplicit false

namespace MiniLox

namespace Environment

/-- `env1` and `env2` bind each of the names `ns` alike: to the same value, or not at all. -/
def Agree (ns : List String) (env1 env2 : Environment) : Prop :=
  ∀ n ∈ ns, env1.get? n = env2.get? n

variable {ns : List String} {env1 env2 : Environment}

theorem Agree.define (h : Agree ns env1 env2) (name : String) (v : Value) :
    Agree ns (env1.define name v) (env2.define name v) := by
  intro n hn
  by_cases hname : n = name
  · subst hname
    simp
  · rw [get?_define_ne _ hname, get?_define_ne _ hname]
    exact h n hn

theorem Agree.assign? (h : Agree ns env1 env2) {name : String} (hname : name ∈ ns) (v : Value) :
    Option.Rel (Agree ns) (env1.assign? name v) (env2.assign? name v) := by
  unfold Environment.assign?
  rw [h name hname]
  split
  · exact .some (h.define name v)
  · exact .none

end Environment

namespace Expr

namespace Node

open Environment

def name? : Node → Option String
  | var name | assign name => some name.lexeme
  | _ => none

/-- Two outcomes of a node alike up to the names `ns`: the same error, or the same stack in
environments that agree on `ns`. -/
def Alike (ns : List String) :
    Except RuntimeError (List Value × Environment) →
      Except RuntimeError (List Value × Environment) → Prop
  | .error e1, .error e2 => e1 = e2
  | .ok (vs1, env1), .ok (vs2, env2) => vs1 = vs2 ∧ Agree ns env1 env2
  | _, _ => False

variable {ns : List String} {env1 env2 : Environment}

theorem alike_of_value (h : Agree ns env1 env2) (vs : List Value)
    (r : Except RuntimeError Value) :
    Alike ns (match r with | .ok w => .ok (w :: vs, env1) | .error err => .error err)
      (match r with | .ok w => .ok (w :: vs, env2) | .error err => .error err) := by
  cases r with
  | ok w => exact ⟨rfl, h⟩
  | error err => rfl

theorem step_agree {n : Node} (hn : ∀ t ∈ n.name?, t ∈ ns) (h : Agree ns env1 env2)
    (vs : List Value) : Alike ns (n.step vs env1) (n.step vs env2) := by
  cases n with
  | literal t => exact ⟨rfl, h⟩
  | var name =>
    simp only [step, h name.lexeme (hn _ rfl)]
    cases env2.get? name.lexeme with
    | some v => exact ⟨rfl, h⟩
    | none => rfl
  | unary op =>
    cases vs with
    | nil => exact ⟨rfl, h⟩
    | cons v vs => exact alike_of_value h vs (applyUnary op v)
  | binary op =>
    rcases vs with _ | ⟨r, _ | ⟨l, vs⟩⟩
    · exact ⟨rfl, h⟩
    · exact ⟨rfl, h⟩
    · exact alike_of_value h vs (applyBinary op l r)
  | assign name =>
    cases vs with
    | nil => exact ⟨rfl, h⟩
    | cons v vs =>
      simp only [step]
      -- the target is bound alike, so the assignment goes the same way in both
      have hassign := h.assign? (hn _ rfl) v
      generalize env1.assign? name.lexeme v = o1 at hassign ⊢
      generalize env2.assign? name.lexeme v = o2 at hassign ⊢
      cases hassign with
      | none => rfl
      | some hagree => exact ⟨rfl, hagree⟩

theorem run_agree (nodes : List Node) (hn : ∀ n ∈ nodes, ∀ t ∈ n.name?, t ∈ ns)
    (vs : List Value) (h : Agree ns env1 env2) :
    (run nodes vs env1).1 = (run nodes vs env2).1 ∧
      Agree ns (run nodes vs env1).2 (run nodes vs env2).2 := by
  induction nodes generalizing vs env1 env2 with
  | nil => exact ⟨rfl, h⟩
  | cons n rest ih =>
    have hstep := step_agree (hn n (List.mem_cons_self ..)) h vs
    rcases h1 : n.step vs env1 with e1 | ⟨vs1, env1'⟩ <;>
      rcases h2 : n.step vs env2 with e2 | ⟨vs2, env2'⟩ <;> rw [h1, h2] at hstep
    case error.error =>
      -- both runs stop at this node, each where its environment stood
      rw [run_cons_error h1, run_cons_error h2, show e1 = e2 from hstep]
      exact ⟨rfl, h⟩
    case ok.ok =>
      obtain ⟨rfl, hagree⟩ := hstep
      rw [run_cons_ok h1, run_cons_ok h2]
      exact ih (fun m hm => hn m (List.mem_cons_of_mem n hm)) vs1 hagree
    all_goals exact hstep.elim

end Node

def names : Expr → List String
  | literal _ => []
  | var name => [name.lexeme]
  | grouping e | unary _ e => e.names
  | binary l _ r => l.names ++ r.names
  | assign name v => name.lexeme :: v.names

theorem mem_names_of_mem_nodes {e : Expr} {n : Node} (hn : n ∈ e.nodes) {t : String}
    (ht : t ∈ n.name?) : t ∈ e.names := by
  induction e with
  | literal tok =>
    simp only [nodes, List.mem_singleton] at hn
    subst hn
    cases ht
  | var name =>
    simp only [nodes, List.mem_singleton] at hn
    subst hn
    simp only [Node.name?, Option.mem_def, Option.some.injEq] at ht
    simp [names, ht]
  | grouping e ih => exact ih hn
  | unary op e ih =>
    simp only [nodes, List.mem_append, List.mem_singleton] at hn
    rcases hn with hn | rfl
    · exact ih hn
    · cases ht
  | binary l op r ihl ihr =>
    simp only [nodes, List.mem_append, List.mem_singleton] at hn
    rcases hn with (hn | hn) | rfl
    · exact List.mem_append_left _ (ihl hn)
    · exact List.mem_append_right _ (ihr hn)
    · cases ht
  | assign name v ih =>
    simp only [nodes, List.mem_append, List.mem_singleton] at hn
    rcases hn with hn | rfl
    · exact List.mem_cons_of_mem _ (ih hn)
    · simp only [Node.name?, Option.mem_def, Option.some.injEq] at ht
      simp [names, ht]

theorem mem_names_of_mem_targets {e : Expr} {t : String} (ht : t ∈ e.targets) : t ∈ e.names := by
  induction e with
  | literal _ | var _ => cases ht
  | grouping e ih | unary _ e ih => exact ih ht
  | binary l op r ihl ihr =>
    rcases List.mem_append.1 ht with ht | ht
    · exact List.mem_append_left _ (ihl ht)
    · exact List.mem_append_right _ (ihr ht)
  | assign name v ih =>
    rcases List.mem_cons.1 ht with rfl | ht
    · exact List.mem_cons_self ..
    · exact List.mem_cons_of_mem _ (ih ht)

theorem eval_fst_eq_of_run {e : Expr} {env1 env2 : Environment}
    (h : (Node.run e.nodes [] env1).1 = (Node.run e.nodes [] env2).1) :
    (e.eval env1).1 = (e.eval env2).1 := by
  rw [run_nodes, run_nodes] at h
  rcases h1 : e.eval env1 with ⟨o1, env1'⟩
  rcases h2 : e.eval env2 with ⟨o2, env2'⟩
  rw [h1, h2] at h
  cases o1 <;> cases o2 <;> simp_all [Node.resume, Node.run]

/-- Two environments that bind alike every name an expression reads or assigns give it the same
value or the same runtime error, and leave it in two environments that still bind those names
alike, each unchanged at every other name. -/
theorem eval_agree (e : Expr) (env1 env2 : Environment)
    (h : Environment.Agree e.names env1 env2) :
    (e.eval env1).1 = (e.eval env2).1 ∧
      Environment.Agree e.names (e.eval env1).2 (e.eval env2).2 ∧
      ∀ n, n ∉ e.names →
        (e.eval env1).2.get? n = env1.get? n ∧ (e.eval env2).2.get? n = env2.get? n := by
  obtain ⟨hout, hagree⟩ :=
    Node.run_agree e.nodes (fun _ hn _ ht => mem_names_of_mem_nodes hn ht) [] h
  refine ⟨eval_fst_eq_of_run hout, ?_, fun n hn => ?_⟩
  · rw [eval_snd, eval_snd]
    exact hagree
  · -- a name the expression does not mention is none it assigns to
    have hkeep := fun env => (eval_frame e env).2 n fun ht => hn (mem_names_of_mem_targets ht)
    exact ⟨hkeep env1, hkeep env2⟩

/-- `x = !x` in an environment that binds only `x` and in one that binds `y` as well. -/
theorem eval_agree_toggle :
    Environment.Agree (assign ⟨.identifier, "x", .text "x", 1⟩
        (.unary ⟨.bang, "!", .absent, 1⟩ (.var ⟨.identifier, "x", .text "x", 1⟩))).names
      ⟨[("x", .bool true)]⟩ ⟨[("x", .bool true), ("y", .text "a")]⟩ ∧
    ((assign ⟨.identifier, "x", .text "x", 1⟩
        (.unary ⟨.bang, "!", .absent, 1⟩ (.var ⟨.identifier, "x", .text "x", 1⟩))).eval
          ⟨[("x", .bool true)]⟩).1 =
      ((assign ⟨.identifier, "x", .text "x", 1⟩
        (.unary ⟨.bang, "!", .absent, 1⟩ (.var ⟨.identifier, "x", .text "x", 1⟩))).eval
          ⟨[("x", .bool true), ("y", .text "a")]⟩).1 ∧
    Environment.Agree (assign ⟨.identifier, "x", .text "x", 1⟩
        (.unary ⟨.bang, "!", .absent, 1⟩ (.var ⟨.identifier, "x", .text "x", 1⟩))).names
      ((assign ⟨.identifier, "x", .text "x", 1⟩
        (.unary ⟨.bang, "!", .absent, 1⟩ (.var ⟨.identifier, "x", .text "x", 1⟩))).eval
          ⟨[("x", .bool true)]⟩).2
      ((assign ⟨.identifier, "x", .text "x", 1⟩
        (.unary ⟨.bang, "!", .absent, 1⟩ (.var ⟨.identifier, "x", .text "x", 1⟩))).eval
          ⟨[("x", .bool true), ("y", .text "a")]⟩).2 ∧
    ∀ n, n ∉ (assign ⟨.identifier, "x", .text "x", 1⟩
        (.unary ⟨.bang, "!", .absent, 1⟩ (.var ⟨.identifier, "x", .text "x", 1⟩))).names →
      ((assign ⟨.identifier, "x", .text "x", 1⟩
        (.unary ⟨.bang, "!", .absent, 1⟩ (.var ⟨.identifier, "x", .text "x", 1⟩))).eval
          ⟨[("x", .bool true)]⟩).2.get? n = Environment.get? ⟨[("x", .bool true)]⟩ n ∧
      ((assign ⟨.identifier, "x", .text "x", 1⟩
        (.unary ⟨.bang, "!", .absent, 1⟩ (.var ⟨.identifier, "x", .text "x", 1⟩))).eval
          ⟨[("x", .bool true), ("y", .text "a")]⟩).2.get? n =
        Environment.get? ⟨[("x", .bool true), ("y", .text "a")]⟩ n := by
  have hagree : Environment.Agree (assign ⟨.identifier, "x", .text "x", 1⟩
      (.unary ⟨.bang, "!", .absent, 1⟩ (.var ⟨.identifier, "x", .text "x", 1⟩))).names
      ⟨[("x", .bool true)]⟩ ⟨[("x", .bool true), ("y", .text "a")]⟩ := by
    intro n hn
    simp only [names, List.mem_cons, List.not_mem_nil, or_false, or_self] at hn
    subst hn
    rfl
  exact ⟨hagree, eval_agree _ _ _ hagree⟩

end Expr

end MiniLox
