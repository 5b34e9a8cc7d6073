import Mathlib.Data.String.Basic
import MiniLox.Repl
import MiniLox.Proofs.SessionRuns

/-!
# The interactive loop over a run of answers

The loop reads answers until the first that ends it: the end of input, a failed read, or
`:quit`. Each answer before that one is processed in the session the earlier lines left: `:env`
lists the bindings, a line that is neither blank nor a command is remembered, run, and its
diagnostics forgotten, and anything else is ignored (`replStep_of_ends`,
`replStep_of_not_ends`, `repl_eq`).

Along the way the bindings stay in increasing order of their names, since defining inserts a
name in its place, so `:env` lists them sorted. Forgetting the diagnostics after each line means
that no line runs with the diagnostics of an earlier one, and a line with a lexical or syntax
error is not run at all.
-/

set_option autoImplicit false

namespace MiniLox

namespace Environment

/-- The names are bound in strictly increasing order, so each once. -/
def Sorted (env : Environment) : Prop := env.names.Pairwise (· < ·)

theorem mem_insertSorted {name n : String} {v : Value} :
    ∀ {l : List (String × Value)}, n ∈ (insertSorted name v l).map (·.1) → n = name ∨ n ∈ l.map (·.1)
  | [], h => by simpa [insertSorted] using h
  | (m, w) :: rest, h => by
    simp only [insertSorted] at h
    split at h
    · simpa using h
    · split at h
      · next he => subst he; simpa using h
      · simp only [List.map_cons, List.mem_cons] at h
        rcases h with rfl | h
        · exact .inr (by simp)
        · rcases mem_insertSorted h with rfl | h
          · exact .inl rfl
          · exact .inr (by simp [h])

theorem insertSorted_sorted (name : String) (v : Value) :
    ∀ {l : List (String × Value)}, (l.map (·.1)).Pairwise (· < ·) →
      ((insertSorted name v l).map (·.1)).Pairwise (· < ·)
  | [], _ => by simp [insertSorted]
  | (m, w) :: rest, h => by
    rw [List.map_cons, List.pairwise_cons] at h
    obtain ⟨hm, hrest⟩ := h
    simp only [insertSorted]
    split
    · next hlt =>
      simp only [List.map_cons, List.pairwise_cons, List.mem_cons]
      refine ⟨?_, hm, hrest⟩
      rintro n (rfl | hn)
      · exact hlt
      · exact lt_trans hlt (hm n hn)
    · split
      · next he =>
        subst he
        simpa using And.intro hm hrest
      · next hlt he =>
        -- `m` comes before `name`, so before every name of the insertion into `rest`
        have hmn : m < name := by
          rcases lt_trichotomy name m with h | h | h
          · exact absurd h hlt
          · exact absurd h he
          · exact h
        simp only [List.map_cons, List.pairwise_cons]
        refine ⟨fun n hn => ?_, insertSorted_sorted name v hrest⟩
        rcases mem_insertSorted hn with rfl | hn
        · exact hmn
        · exact hm n hn

theorem Sorted.define {env : Environment} (h : env.Sorted) (name : String) (v : Value) :
    (env.define name v).Sorted :=
  insertSorted_sorted name v h

theorem Sorted.assign {env env' : Environment} (h : env.Sorted) {name : String} {v : Value}
    (ha : env.assign? name v = some env') : env'.Sorted := by
  unfold assign? at ha
  split at ha
  · cases ha
    exact h.define name v
  · cases ha

end Environment

open Environment in
theorem Expr.eval_sorted (e : Expr) {env : Environment} (h : env.Sorted) : (e.eval env).2.Sorted := by
  induction e generalizing env with
  | literal t => exact h
  | var name =>
    simp only [Expr.eval]
    split <;> exact h
  | grouping e ih => exact ih h
  | unary op right ih =>
    have hr := ih h
    simp only [Expr.eval]
    split <;> simp_all
  | binary l op r ihl ihr =>
    have hl := ihl h
    simp only [Expr.eval]
    split
    · simp_all
    · next env1 hle =>
      rw [hle] at hl
      have hr := ihr hl
      split <;> simp_all
  | assign name value ih =>
    have hv := ih h
    simp only [Expr.eval]
    split
    · simp_all
    · next env1 hve =>
      rw [hve] at hv
      split
      · next env2 ha => exact hv.assign ha
      · exact hv

theorem Stmt.exec_sorted (s : Stmt) {env : Environment} (h : env.Sorted) : (s.exec env).2.Sorted := by
  rcases s with e | e | ⟨name, _ | e⟩
  case varDecl.none => exact h.define _ _
  all_goals
    have he := e.eval_sorted h
    rcases hev : e.eval env with ⟨_ | v, env'⟩
    all_goals simp only [hev] at he
    all_goals simp only [Stmt.exec, hev]
  case varDecl.some.ok => exact he.define _ _
  all_goals exact he

theorem interpret_sorted (ss : List Stmt) {env : Environment} (h : env.Sorted) :
    (interpret ss env).2.Sorted := by
  induction ss generalizing env with
  | nil => exact h
  | cons s rest ih => exact ih (s.exec_sorted h)

theorem Session.runSource_sorted (s : Session) (source : String) (h : s.env.Sorted) :
    (s.runSource source).2.2.env.Sorted := by
  rcases hscan : scan source with ⟨tokens, lexErrors⟩
  rcases hparse : parse tokens with ⟨stmts, syntaxErrors⟩
  rcases runSource_cases hscan hparse with ⟨-, p, r, hrun⟩ | ⟨-, p, r, hrun⟩ <;> rw [hrun]
  · exact h
  · exact interpret_sorted stmts h

namespace Read

def ends : Read → Bool
  | .line l => Text.trimSpace l == ":quit"
  | .aborted => false
  | .eof => true
  | .failed => true

def exitCode : Read → Nat
  | .failed => 70
  | _ => 0

def closing : Read → List Event
  | .eof => [.printed ""]
  | _ => []

def isEnv : Read → Bool
  | .line l => Text.trimSpace l == ":env"
  | _ => false

def source? : Read → Option String
  | .line l =>
    if Text.trimSpace l = "" ∨ Text.trimSpace l = ":quit" ∨ Text.trimSpace l = ":env" then none
    else some l
  | _ => none

end Read

namespace Session

def runLine (s : Session) (l : String) : Session := (s.runSource l).2.2.reset

def afterReads (s : Session) (rs : List Read) : Session :=
  (rs.filterMap Read.source?).foldl runLine s

def shows (s : Session) (r : Read) : List Event :=
  if r.isEnv then s.env.listing.map .printed
  else (r.source?.map fun l => (s.runSource l).2.1).getD []

def showsAll : Session → List Read → List Event
  | _, [] => []
  | s, r :: rs => s.shows r ++ showsAll (s.afterReads [r]) rs

theorem afterReads_cons (s : Session) (r : Read) (rs : List Read) :
    s.afterReads (r :: rs) = (s.afterReads [r]).afterReads rs := by
  cases h : r.source? <;> simp [afterReads, h]

end Session

theorem replStep_of_ends (s : Session) {r : Read} (h : r.ends = true) :
    replStep s r = ⟨some r.exitCode, r.closing, [], s⟩ := by
  cases r with
  | line l =>
    have hq : Text.trimSpace l = ":quit" := by simpa [Read.ends] using h
    simp [replStep, hq, Read.exitCode, Read.closing]
  | aborted => cases h
  | eof => rfl
  | failed => rfl

theorem replStep_of_not_ends (s : Session) {r : Read} (h : r.ends = false) :
    replStep s r = ⟨none, s.shows r, r.source?.toList, s.afterReads [r]⟩ := by
  cases r with
  | line l =>
    have hq : Text.trimSpace l ≠ ":quit" := by simpa [Read.ends] using h
    simp only [replStep]
    split
    · next he => simp [Session.shows, Read.isEnv, Read.source?, he, Session.afterReads]
    · next he => exact absurd he hq
    · next he => simp [Session.shows, Read.isEnv, Read.source?, he, Session.afterReads]
    · next h1 h2 h3 =>
      have h1' : Text.trimSpace l ≠ "" := h1
      have h3' : Text.trimSpace l ≠ ":env" := h3
      rcases hrun : s.runSource l with ⟨c, evs, s'⟩
      simp [Session.shows, Read.isEnv, Read.source?, h1', hq, h3', Session.afterReads,
        Session.runLine, hrun]
  | aborted => rfl
  | eof => cases h
  | failed => cases h

/-- The loop processes the answers before the first that ends it, in order, and ends there (or
at the end of the answers, which reads as the end of input). -/
theorem repl_eq (rs : List Read) (s : Session) :
    repl rs s =
      ⟨((rs.dropWhile (!·.ends)).headD .eof).exitCode,
        s.showsAll (rs.takeWhile (!·.ends)) ++ ((rs.dropWhile (!·.ends)).headD .eof).closing,
        (rs.takeWhile (!·.ends)).filterMap Read.source?,
        (rs.takeWhile (!·.ends)).length + 1,
        s.afterReads (rs.takeWhile (!·.ends))⟩ := by
  induction rs generalizing s with
  | nil => rfl
  | cons r rs ih =>
    cases hr : r.ends
    · -- the answer is processed and the loop goes on in the session it leaves
      simp only [repl, replStep_of_not_ends s hr, List.takeWhile_cons, List.dropWhile_cons, hr,
        Bool.not_false, if_true, ih]
      rw [Session.afterReads_cons s r (rs.takeWhile (!·.ends))]
      cases hs : r.source? <;> simp [ReplRun.after, Session.showsAll, hs]
    · simp [repl, replStep_of_ends s hr, hr, Session.showsAll, Session.afterReads]

namespace Session

theorem runLine_sorted (s : Session) (l : String) (h : s.env.Sorted) : (s.runLine l).env.Sorted :=
  s.runSource_sorted l h

theorem afterReads_sorted (s : Session) (h : s.env.Sorted) (rs : List Read) :
    (s.afterReads rs).env.Sorted := by
  unfold afterReads
  generalize rs.filterMap Read.source? = ls
  induction ls generalizing s with
  | nil => exact h
  | cons l ls ih => exact ih _ (s.runLine_sorted l h)

theorem afterReads_report (s : Session) {rs : List Read} (h : rs.filterMap Read.source? ≠ []) :
    (s.afterReads rs).report = {} := by
  unfold afterReads
  obtain ⟨init, l, hl⟩ := (List.eq_nil_or_concat _).resolve_left h
  rw [hl, List.concat_eq_append, List.foldl_append]
  rfl

theorem runLine_static (s : Session) (l : String)
    (h : (scan l).2 ≠ [] ∨ (parse (scan l).1).2 ≠ []) :
    (s.runLine l).env = s.env ∧ ∀ x ∈ (s.runSource l).2.1, ∀ line, x ≠ .printed line := by
  rcases hscan : scan l with ⟨tokens, lexErrors⟩
  rcases hparse : parse tokens with ⟨stmts, syntaxErrors⟩
  rw [hscan] at h
  simp only [hparse] at h
  -- every lexical and syntax diagnostic is static, so the gate stops the run
  have hstatic : ∃ x ∈ s.report.items ++ (lexErrors.map (·.diagnostic) ++
      syntaxErrors.map (·.diagnostic)), x.kind = .static := by
    rcases h with h | h
    · obtain ⟨e, he⟩ := List.exists_mem_of_ne_nil _ h
      refine ⟨e.diagnostic, ?_, rfl⟩
      simp only [List.mem_append, List.mem_map]
      exact .inr (.inl ⟨e, he, rfl⟩)
    · obtain ⟨e, he⟩ := List.exists_mem_of_ne_nil _ h
      refine ⟨e.diagnostic, ?_, rfl⟩
      simp only [List.mem_append, List.mem_map]
      exact .inr (.inr ⟨e, he, rfl⟩)
  rcases runSource_cases (s := s) hscan hparse with ⟨-, p, r, hrun⟩ | ⟨hng, -⟩
  · simp only [runLine, hrun]
    refine ⟨rfl, ?_⟩
    intro x hx line
    simp only [List.mem_append, List.mem_map, List.mem_cons, List.not_mem_nil, or_false] at hx
    rcases hx with (((⟨_, _, rfl⟩ | ⟨_, _, rfl⟩) | ⟨_, _, rfl⟩) | ⟨_, _, rfl⟩) | rfl | rfl <;>
      simp
  · exact absurd hstatic hng

theorem afterReads_static (s : Session) (done : List Read) {r : Read} {l : String}
    (hr : r.source? = some l) (h : (scan l).2 ≠ [] ∨ (parse (scan l).1).2 ≠ []) :
    (s.afterReads (done ++ [r])).env = (s.afterReads done).env ∧
      ∀ x ∈ (s.afterReads done).shows r, ∀ line, x ≠ .printed line := by
  have hl := (s.afterReads done).runLine_static l h
  -- an answer with a source is no `:env` command
  have henv : r.isEnv = false := by
    cases r with
    | line l' =>
      simp only [Read.source?] at hr
      split at hr
      · cases hr
      · next hne => simpa [Read.isEnv] using fun h => hne (.inr (.inr h))
    | _ => rfl
  refine ⟨?_, ?_⟩
  · simp only [afterReads, List.filterMap_append, List.filterMap_cons, List.filterMap_nil, hr,
      List.foldl_append, List.foldl_cons, List.foldl_nil]
    exact hl.1
  · simp only [shows, henv, hr, Option.map_some, Option.getD_some, Bool.false_eq_true, if_false]
    exact hl.2

end Session

/-- What the loop does with the answers `rs`, started in `s`. It ends at the first answer that
ends it (the end of input, a failed read or `:quit`), or at the end of the answers, which reads
as the end of input; its status is then 70 after a failed read and 0 otherwise, and it prints an
empty line last at the end of input. It processes the answers before that one in order: an
aborted read or a blank line does nothing, `:env` lists the bindings, and every other line is
remembered, run in the session and its diagnostics forgotten. So the session evolves as the
lines run in turn, each line after the first runs with no diagnostics of earlier ones, every
session it passes through has its names in increasing order, and a line with a lexical or syntax
error changes no binding and prints nothing. -/
def ReplSpec (rs : List Read) (s : Session) : Prop :=
  let pre := rs.takeWhile (!·.ends)
  let last := (rs.dropWhile (!·.ends)).headD .eof
  repl rs s = ⟨last.exitCode, s.showsAll pre ++ last.closing, pre.filterMap Read.source?,
      pre.length + 1, s.afterReads pre⟩ ∧
    (∀ done : List Read, (s.afterReads done).env.Sorted) ∧
    (∀ done : List Read, done.filterMap Read.source? ≠ [] → (s.afterReads done).report = {}) ∧
    ∀ (done : List Read) (r : Read) (l : String), r.source? = some l →
      ((scan l).2 ≠ [] ∨ (parse (scan l).1).2 ≠ []) →
      (s.afterReads (done ++ [r])).env = (s.afterReads done).env ∧
        ∀ x ∈ (s.afterReads done).shows r, ∀ line, x ≠ .printed line

/-- The loop does what `ReplSpec` says, from any session whose names are in increasing order. -/
theorem repl_runs_lines (rs : List Read) (s : Session) (hs : s.env.Sorted) : ReplSpec rs s :=
  ⟨repl_eq rs s, s.afterReads_sorted hs, fun _ h => s.afterReads_report h,
    fun done _ _ hr h => s.afterReads_static done hr h⟩

/-- From a fresh session, over a definition, an aborted read, a blank line, `:env`, a line with a
syntax error and `:quit`. -/
theorem repl_runs_lines_fresh :
    ({} : Session).env.Sorted ∧
      ReplSpec [.line "var a = 1;", .aborted, .line "  ", .line ":env", .line "print a +;",
        .line ":quit"] {} :=
  ⟨List.Pairwise.nil, repl_runs_lines _ _ List.Pairwise.nil⟩

end MiniLox
