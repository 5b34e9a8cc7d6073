import MiniLox.Value

/-!
# Environments

The global variables: a list of bindings sorted by name, each name bound once. Defining a name
binds it whether or not it was bound; assigning needs it bound already.
-/

set_option autoImplicit false

namespace MiniLox

/-- Variable bindings, sorted by name, each name once. -/
structure Environment where
  bindings : List (String × Value) := []

namespace Environment

/-- Binds `name` in a sorted list, in place of an earlier binding of it. -/
def insertSorted (name : String) (v : Value) : List (String × Value) → List (String × Value)
  | [] => [(name, v)]
  | (n, w) :: rest =>
    if name < n then (name, v) :: (n, w) :: rest
    else if name = n then (name, v) :: rest
    else (n, w) :: insertSorted name v rest

def get? (env : Environment) (name : String) : Option Value :=
  (env.bindings.find? (·.1 == name)).map (·.2)

def define (env : Environment) (name : String) (v : Value) : Environment :=
  ⟨insertSorted name v env.bindings⟩

/-- Rebinds a name that is bound; `none` when it is not. -/
def assign? (env : Environment) (name : String) (v : Value) : Option Environment :=
  if (env.get? name).isSome then some (env.define name v) else none

def names (env : Environment) : List String := env.bindings.map (·.1)

def size (env : Environment) : Nat := env.bindings.length

theorem find?_insertSorted_self (name : String) (v : Value) :
    ∀ l : List (String × Value), (insertSorted name v l).find? (·.1 == name) = some (name, v)
  | [] => by simp [insertSorted]
  | (m, w) :: rest => by
    simp only [insertSorted]
    split
    · simp
    · split
      · simp
      · next hlt hne =>
        -- `m` comes before `name` and is no binding of it
        have hm : (m == name) = false := by simpa using Ne.symm hne
        simp [hm, find?_insertSorted_self name v rest]

theorem find?_insertSorted_ne {name n : String} (h : n ≠ name) (v : Value) :
    ∀ l : List (String × Value), (insertSorted name v l).find? (·.1 == n) = l.find? (·.1 == n)
  | [] => by simp [insertSorted, Ne.symm h]
  | (m, w) :: rest => by
    have hn : (name == n) = false := by simpa using Ne.symm h
    simp only [insertSorted]
    split
    · simp [hn]
    · split
      · next he => subst he; simp [hn]
      · rw [List.find?_cons, List.find?_cons, find?_insertSorted_ne h v rest]

@[simp] theorem get?_define_self (env : Environment) (name : String) (v : Value) :
    (env.define name v).get? name = some v := by
  simp [get?, define, find?_insertSorted_self]

@[simp] theorem get?_define_ne (env : Environment) {name n : String} (h : n ≠ name) (v : Value) :
    (env.define name v).get? n = env.get? n := by
  simp [get?, define, find?_insertSorted_ne h]

theorem isSome_get?_define (env : Environment) (name n : String) (v : Value) :
    ((env.define name v).get? n).isSome ↔ name = n ∨ (env.get? n).isSome := by
  by_cases h : n = name
  · subst h
    simp
  · simp [h, Ne.symm h]

theorem assign?_eq_some {env env' : Environment} {name : String} {v : Value} :
    env.assign? name v = some env' ↔ (env.get? name).isSome ∧ env' = env.define name v := by
  unfold assign?
  split
  · next h =>
    simp only [h, Option.some.injEq, true_and]
    exact eq_comm
  · next h => simp [h]

theorem assign?_eq_none {env : Environment} {name : String} {v : Value} :
    env.assign? name v = none ↔ env.get? name = none := by
  unfold assign?
  split
  · next h => simp [Option.isSome_iff_ne_none.1 h]
  · next h => simp [Option.not_isSome_iff_eq_none.1 h]

end Environment

end MiniLox
