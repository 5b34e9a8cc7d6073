import MiniLox.Session
import MiniLox.Cli.Execute

/-!
# Sessions over runs and resets

A session is driven by runs of sources and resets of its diagnostics. Along any such sequence the
report holds exactly the diagnostics reported since the last reset, in the order they were
reported, and its two flags say whether a static, respectively a runtime, diagnostic is among
them.

A run lists its lexical diagnostics, its tokens, its syntax diagnostics and its statements, in
that order. It then runs the statements against the session's bindings exactly when no static
diagnostic has been reported since the last reset, the run's own included; otherwise the
bindings stay and nothing is printed. Its status is 65 after a static diagnostic since the last
reset, else 70 after a runtime one, else 0. A reset is a change of the session alone: it shows
nothing.
-/

set_option autoImplicit false

namespace MiniLox

def Effect.event : Effect → Event
  | .printed line => .printed line
  | .failed e => .reported e.diagnostic

@[simp] theorem Event.reports_map_event (effs : List Effect) :
    Event.reports (effs.map Effect.event) = (Effect.failures effs).map (·.diagnostic) := by
  induction effs with
  | nil => rfl
  | cons eff effs ih =>
    cases eff <;> simp [Event.reports, Effect.failures, Effect.event] at ih ⊢ <;> exact ih

namespace Report

theorem hadError_iff (r : Report) : r.hadError = true ↔ ∃ x ∈ r.items, x.kind = .static := by
  simp [hadError]

theorem hadRuntimeError_iff (r : Report) :
    r.hadRuntimeError = true ↔ ∃ x ∈ r.items, x.kind = .runtime := by
  simp [hadRuntimeError]

theorem exitCode_eq (r : Report) :
    r.exitCode = if ∃ x ∈ r.items, x.kind = .static then 65
      else if ∃ x ∈ r.items, x.kind = .runtime then 70 else 0 := by
  by_cases hs : ∃ x ∈ r.items, x.kind = .static
  · rw [if_pos hs, exitCode, if_pos ((hadError_iff r).2 hs)]
  · have hs' : r.hadError = false := Bool.eq_false_iff.2 fun h => hs ((hadError_iff r).1 h)
    rw [if_neg hs, exitCode, hs']
    by_cases hr : ∃ x ∈ r.items, x.kind = .runtime
    · rw [if_pos hr, if_pos ((hadRuntimeError_iff r).2 hr)]
      rfl
    · have hr' : r.hadRuntimeError = false :=
        Bool.eq_false_iff.2 fun h => hr ((hadRuntimeError_iff r).1 h)
      rw [if_neg hr, hr']
      rfl

end Report

namespace Session

variable {s : Session} {source : String} {tokens : List Token} {lexErrors : List LexError}
  {stmts : List Stmt} {syntaxErrors : List SyntaxError}

/-- Everything a run can do. After the listing and a log record it either stops, when a static
diagnostic is in the report, or runs the statements, and the report gains their runtime
diagnostics. -/
theorem runSource_cases (hscan : scan source = (tokens, lexErrors))
    (hparse : parse tokens = (stmts, syntaxErrors)) :
    let found := lexErrors.map (·.diagnostic) ++ syntaxErrors.map (·.diagnostic)
    let listed := (lexErrors.map (·.diagnostic)).map Event.reported ++ tokens.map .tokenListed ++
      (syntaxErrors.map (·.diagnostic)).map Event.reported ++ stmts.map .stmtListed
    let ran := interpret stmts s.env
    let failed := (Effect.failures ran.1).map (·.diagnostic)
    ((∃ x ∈ s.report.items ++ found, x.kind = .static) ∧ ∃ p r,
      s.runSource source = (Report.exitCode ⟨s.report.items ++ found⟩,
        listed ++ [.logged p, .logged r], { s with report := ⟨s.report.items ++ found⟩ })) ∨
    (¬(∃ x ∈ s.report.items ++ found, x.kind = .static) ∧ ∃ p r,
      s.runSource source = (Report.exitCode ⟨s.report.items ++ found ++ failed⟩,
        listed ++ .logged p :: (ran.1.map Effect.event ++ [.logged r]),
        ⟨ran.2, ⟨s.report.items ++ found ++ failed⟩⟩)) := by
  intro found listed ran failed
  simp only [found, listed, ran, failed, runSource, hscan, hparse, reportAll, List.append_assoc,
    List.singleton_append]
  split
  next h => exact .inl ⟨(Report.hadError_iff _).1 h, _, _, rfl⟩
  next h => exact .inr ⟨fun hg => h ((Report.hadError_iff _).2 hg), _, _, rfl⟩

theorem runSource_items (s : Session) (source : String) :
    (s.runSource source).2.2.report.items =
      s.report.items ++ Event.reports (s.runSource source).2.1 := by
  rcases hscan : scan source with ⟨tokens, lexErrors⟩
  rcases hparse : parse tokens with ⟨stmts, syntaxErrors⟩
  rcases runSource_cases hscan hparse with ⟨-, p, r, hrun⟩ | ⟨-, p, r, hrun⟩ <;> rw [hrun] <;> simp

theorem runSource_code (s : Session) (source : String) :
    (s.runSource source).1 = (s.runSource source).2.2.report.exitCode := by
  rcases hscan : scan source with ⟨tokens, lexErrors⟩
  rcases hparse : parse tokens with ⟨stmts, syntaxErrors⟩
  rcases runSource_cases hscan hparse with ⟨-, p, r, hrun⟩ | ⟨-, p, r, hrun⟩ <;> rw [hrun]

/-- A session reached from one with no diagnostics by runs of sources and resets, with the
diagnostics its runs reported since the last reset. -/
inductive Reached : Session → List Diagnostic → Prop
  | start (env : Environment) : Reached ⟨env, {}⟩ []
  | reset {s : Session} {d : List Diagnostic} : Reached s d → Reached s.reset []
  | run {s : Session} {d : List Diagnostic} (source : String) : Reached s d →
      Reached (s.runSource source).2.2 (d ++ Event.reports (s.runSource source).2.1)

theorem Reached.items_eq {d : List Diagnostic} (h : Reached s d) : s.report.items = d := by
  induction h with
  | start env => rfl
  | reset _ _ => rfl
  | run source _ ih => rw [runSource_items, ih]

def ReportShows (r : Report) (d : List Diagnostic) : Prop :=
  r.items = d ∧ (r.hadError = true ↔ ∃ x ∈ d, x.kind = .static) ∧
    (r.hadRuntimeError = true ↔ ∃ x ∈ d, x.kind = .runtime)

/-- What running `source` does in a session whose diagnostics since the last reset are `d`: it
lists the lexical diagnostics, the tokens, the syntax diagnostics and the statements; it runs the
statements against the bindings exactly when no static diagnostic is among `d` and those found,
and else keeps the bindings and prints nothing; the report gains every diagnostic the run shows;
the status is 65 after a static diagnostic, else 70 after a runtime one, else 0; and a display
that does not style its output writes each report as its text and a newline on the error
output. -/
def RunSpec (s : Session) (d : List Diagnostic) (source : String) : Prop :=
  let lexed := scan source
  let parsed := parse lexed.1
  let found := lexed.2.map (·.diagnostic) ++ parsed.2.map (·.diagnostic)
  let ran := interpret parsed.1 s.env
  let out := s.runSource source
  let all := d ++ Event.reports out.2.1
  (∃ rest, out.2.1 = (lexed.2.map (·.diagnostic)).map .reported ++ lexed.1.map .tokenListed ++
      (parsed.2.map (·.diagnostic)).map .reported ++ parsed.1.map .stmtListed ++ rest ∧
    ((∃ x ∈ d ++ found, x.kind = .static) →
      (∃ p r, rest = [.logged p, .logged r]) ∧ out.2.2.env = s.env) ∧
    (¬(∃ x ∈ d ++ found, x.kind = .static) →
      (∃ p r, rest = .logged p :: (ran.1.map Effect.event ++ [.logged r])) ∧
        out.2.2.env = ran.2)) ∧
  out.2.2.report.items = all ∧
  out.1 = (if ∃ x ∈ all, x.kind = .static then 65
    else if ∃ x ∈ all, x.kind = .runtime then 70 else 0) ∧
  ∀ disp : Cli.Display, disp.styled = false → ∀ x ∈ Event.reports out.2.1,
    disp.route (.reported x) = some (.err, x.text ++ "\n")

/-- Along every sequence of runs and resets, the report shows the diagnostics reported since the
last reset, and each run does what `RunSpec` says. -/
theorem Reached.runSource_spec {d : List Diagnostic} (h : Reached s d) (source : String) :
    ReportShows s.report d ∧ RunSpec s d source := by
  have hitems := h.items_eq
  have hall : (s.runSource source).2.2.report.items =
      d ++ Event.reports (s.runSource source).2.1 := by
    rw [runSource_items, hitems]
  refine ⟨⟨hitems, hitems ▸ Report.hadError_iff _, hitems ▸ Report.hadRuntimeError_iff _⟩, ?_⟩
  dsimp only [RunSpec]
  refine ⟨?_, hall, by rw [runSource_code, Report.exitCode_eq, hall],
    fun disp hd x _ => by simp [Cli.Display.route, hd]⟩
  rcases hscan : scan source with ⟨tokens, lexErrors⟩
  dsimp only
  rcases hparse : parse tokens with ⟨stmts, syntaxErrors⟩
  -- the listing comes first either way; what follows it depends on the gate
  rcases runSource_cases hscan hparse with ⟨hg, p, r, hrun⟩ | ⟨hg, p, r, hrun⟩
  · rw [hitems] at hg
    rw [hrun]
    exact ⟨_, rfl, fun _ => ⟨⟨p, r, rfl⟩, rfl⟩, fun hng => absurd hg hng⟩
  · rw [hitems] at hg
    rw [hrun]
    exact ⟨_, rfl, fun hg' => absurd hg' hg, fun _ => ⟨⟨p, r, rfl⟩, rfl⟩⟩

/-- A run with a syntax error, then a reset: the next run is gated by its own diagnostics
alone. -/
theorem runSource_spec_after_reset :
    Reached ((⟨{}, {}⟩ : Session).runSource "1 +;").2.2.reset [] ∧
      ReportShows ((⟨{}, {}⟩ : Session).runSource "1 +;").2.2.reset.report [] ∧
      RunSpec ((⟨{}, {}⟩ : Session).runSource "1 +;").2.2.reset [] "print 1;" :=
  ⟨.reset (.run "1 +;" (.start {})),
    Reached.runSource_spec (.reset (.run "1 +;" (.start {}))) "print 1;"⟩

end Session

end MiniLox
