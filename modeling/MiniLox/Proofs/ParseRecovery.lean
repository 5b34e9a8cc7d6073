import MiniLox.Proofs.Grammar
import MiniLox.Proofs.ParseAppend

/-!
# Recovery after a syntax error

Parsing tries declarations one after another over the tokens before the first end-of-input
token. A declaration that parses ends with its `;`. One that fails leaves the cursor on the
offending token when a piece is missing, or just after the right-hand side of the `=` when an
assignment's target is no variable (`Cursor`, established for every parser by `Parse.faults`).
Recovery then skips that token and stops at the first boundary after it: the end, a position just
after a `;`, or one before a keyword that starts a statement (`Resumes`).

`Parse.Attempts` states this declaratively over positions; the main statement is that the parse
of a token list is exactly what the attempts from position 0 return.
-/

set_option autoImplicit false

namespace MiniLox.Parse

variable (eof : Token)

/-- Where the cursor stands after the error `e` while reading `ts`, with `r` left: on `e`'s token
when a piece is missing (the end-of-input token when nothing is left), and just after the
right-hand side of the `=` that `e` names when an assignment's target is no variable. -/
def Cursor (ts : List Token) (e : SyntaxError) (r : List Token) : Prop :=
  if e.fault = .invalidAssignment then
    e.token.kind = .equal ∧
      ∃ pre mid v, ts = pre ++ e.token :: mid ∧ (assignment eof mid).result = (.ok v, r)
  else peek eof r = e.token

/-- Every error of the outcome `o` of reading `ts` leaves a suffix of `ts`, with the cursor where
`Cursor` puts it. -/
def Faults {α : Type} (ts : List Token) (o : Outcome α) : Prop :=
  ∀ e r, o = (.error e, r) → r <:+ ts ∧ Cursor eof ts e r

variable {eof}

theorem Cursor.mono {ts us : List Token} {e : SyntaxError} {r : List Token}
    (h : Cursor eof us e r) (hus : us <:+ ts) : Cursor eof ts e r := by
  unfold Cursor at h ⊢
  split
  · next hf =>
    obtain ⟨hk, pre, mid, v, rfl, hv⟩ := (if_pos hf ▸ h :)
    obtain ⟨front, rfl⟩ := hus
    exact ⟨hk, front ++ pre, mid, v, by simp, hv⟩
  · next hf => exact (if_neg hf ▸ h :)

theorem Faults.mono {α : Type} {ts us : List Token} {o : Outcome α} (h : Faults eof us o)
    (hus : us <:+ ts) : Faults eof ts o := fun e r he =>
  ⟨(h e r he).1.trans hus, (h e r he).2.mono hus⟩

theorem Faults.ok {α : Type} {ts r : List Token} (a : α) : Faults eof ts (.ok a, r) := by
  intro e r' h
  cases h

theorem Faults.missing {α : Type} {ts r : List Token} {fault : SyntaxFault}
    (hf : fault ≠ .invalidAssignment) (hr : r <:+ ts) :
    Faults eof ts ((.error ⟨peek eof r, fault⟩, r) : Outcome α) := by
  intro e r' h
  obtain ⟨⟨⟩, rfl⟩ := Prod.mk.inj h
  exact ⟨hr, by simp [Cursor, hf]⟩

theorem Faults.bind {α β : Type} {ts : List Token} {o : Outcome α}
    {k : α → List Token → Outcome β} (h : Faults eof ts o)
    (hk : ∀ a r, o = (.ok a, r) → Faults eof ts (k a r)) : Faults eof ts (o.bind k) := by
  intro e r he
  rcases Outcome.bind_eq_error he with ho | ⟨a, r1, ho, hk'⟩
  · exact h e r ho
  · exact hk a r1 ho e r hk'

theorem Spells.suffix {ps : List Piece} {ts r : List Token} (h : Spells ps ts r) : r <:+ ts := by
  obtain ⟨pre, rfl, -⟩ := h
  exact List.suffix_append pre r

theorem Reads.suffix {k : Nat} {e : Expr} {ts r : List Token} (h : Reads k e ts r) : r <:+ ts :=
  Spells.suffix h.1

variable (eof)

theorem faults (ts : List Token) :
    Faults eof ts (assignment eof ts).result ∧
    (∀ tier, Faults eof ts (binary eof tier ts).result ∧ Faults eof ts (operand eof tier ts).result ∧
      ∀ lhs, Faults eof ts (binaryRest eof tier lhs ts).result) ∧
    Faults eof ts (unary eof ts).result := by
  refine Parse.induction
    (fun ts => Faults eof ts (assignment eof ts).result)
    (fun tier ts => Faults eof ts (binary eof tier ts).result)
    (fun tier ts => Faults eof ts (operand eof tier ts).result)
    (fun tier lhs ts => Faults eof ts (binaryRest eof tier lhs ts).result)
    (fun ts => Faults eof ts (unary eof ts).result)
    ?assignment ?binary ?operand ?binaryRest ?unary ts
  case assignment =>
    intro ts hb ha
    rw [assignment_result]
    refine hb.bind fun lhs r1 h1 => ?_
    obtain ⟨hsp, -, -⟩ := (((reads_of_ok eof ts).2.1 .equality).1 lhs r1 h1)
    rcases r1 with _ | ⟨t, r'⟩
    · exact Faults.ok lhs
    · by_cases ht : t.kind = .equal
      · simp only [ht, if_true]
        have hshort : r'.length < ts.length := by
          have := Spells.length_le hsp; simp at this; omega
        have hr' : r' <:+ ts := (List.suffix_cons t r').trans (Spells.suffix hsp)
        refine ((ha r' hshort).mono hr').bind fun v r2 h2 => ?_
        have hr2 : r2 <:+ ts := (Reads.suffix ((reads_of_ok eof r').1 v r2 h2)).trans hr'
        cases lhs with
        | var name => exact Faults.ok _
        | _ =>
          -- the target is no variable: the error names the `=`, after the right-hand side
          intro e r he
          obtain ⟨⟨⟩, rfl⟩ := Prod.mk.inj he
          obtain ⟨pre, hts, -⟩ := hsp
          exact ⟨hr2, by simp only [Cursor, if_true]; exact ⟨ht, pre, r', v, hts, h2⟩⟩
      · simp only [ht, if_false]
        exact Faults.ok lhs
  case binary =>
    intro tier ts ho hr
    rw [binary_result]
    refine ho.bind fun lhs r1 h1 => ?_
    have hsuf := Reads.suffix (((reads_of_ok eof ts).2.1 tier).2.1 lhs r1 h1)
    exact (hr lhs r1 hsuf.length_le).mono hsuf
  case operand =>
    intro tier ts hb hu
    cases hti : tier.tighter with
    | some u =>
      rw [operand_of_tighter eof hti]
      exact hb u hti
    | none =>
      obtain rfl := Tier.eq_factor_of_tighter hti
      rw [operand_factor]
      exact hu rfl
  case binaryRest =>
    intro tier lhs ts ih
    rcases ts with _ | ⟨t, r0⟩
    · rw [binaryRest_nil]
      exact Faults.ok lhs
    · rw [binaryRest_cons]
      by_cases ht : t.kind ∈ tier.operators
      · simp only [ht, if_true]
        have hr0 : r0.length < (t :: r0).length := by simp
        refine ((ih r0 hr0).1.mono (List.suffix_cons t r0)).bind fun rhs r2 h2 => ?_
        have hs2 := Reads.suffix (((reads_of_ok eof r0).2.1 tier).2.1 rhs r2 h2)
        have hr2 : r2.length < (t :: r0).length := by
          have := hs2.length_le; simp only [List.length_cons]; omega
        exact ((ih r2 hr2).2 _).mono (hs2.trans (List.suffix_cons t r0))
      · simp only [ht, if_false]
        exact Faults.ok lhs
  case unary =>
    intro ts ih
    rcases ts with _ | ⟨t, r0⟩
    · rw [unary_nil]
      exact Faults.missing (by decide) (List.suffix_refl _)
    · have hr0 : r0.length < (t :: r0).length := by simp
      have hsuf0 := List.suffix_cons t r0
      rw [unary_cons]
      split
      · exact ((ih r0 hr0).2.mono hsuf0).bind fun right r2 _ => Faults.ok _
      split
      · exact Faults.ok _
      split
      · exact Faults.ok _
      split
      · refine ((ih r0 hr0).1.mono hsuf0).bind fun inner r2 h2 => ?_
        have hr2 := (Reads.suffix ((reads_of_ok eof r0).1 inner r2 h2)).trans hsuf0
        rcases r2 with _ | ⟨c, r3⟩
        · exact Faults.missing (by decide) hr2
        · dsimp only
          split
          · exact Faults.ok _
          · exact Faults.missing (by decide) hr2
      · exact Faults.missing (by decide) (List.suffix_refl _)

theorem terminate_faults {fault : SyntaxFault} (hf : fault ≠ .invalidAssignment) (s : Stmt)
    (ts : List Token) : Faults eof ts (terminate eof fault s ts).result := by
  rw [terminate_result]
  rcases ts with _ | ⟨t, r⟩
  · exact Faults.missing hf (List.suffix_refl _)
  · dsimp only
    split
    · exact Faults.ok _
    · exact Faults.missing hf (List.suffix_refl _)

theorem exprStatement_faults {fault : SyntaxFault} (hf : fault ≠ .invalidAssignment)
    (make : Expr → Stmt) (ts : List Token) :
    Faults eof ts (exprStatement eof fault make ts).result := by
  rw [exprStatement_result]
  exact (faults eof ts).1.bind fun e r h =>
    (terminate_faults eof hf _ r).mono (Reads.suffix ((reads_of_ok eof ts).1 e r h))

theorem varDeclaration_faults (ts : List Token) : Faults eof ts (varDeclaration eof ts).result := by
  rcases ts with _ | ⟨name, rest⟩
  · exact Faults.missing (by decide) (List.suffix_refl _)
  · rw [varDeclaration_result]
    split
    · rcases rest with _ | ⟨t, r⟩
      · exact (terminate_faults eof (by decide) _ []).mono (List.suffix_cons name [])
      · dsimp only
        split
        · exact (exprStatement_faults eof (by decide) _ r).mono
            ((List.suffix_cons t r).trans (List.suffix_cons name _))
        · exact (terminate_faults eof (by decide) _ _).mono (List.suffix_cons name _)
    · exact Faults.missing (by decide) (List.suffix_refl _)

theorem declaration_faults (ts : List Token) : Faults eof ts (declaration eof ts).result := by
  rcases ts with _ | ⟨t, r⟩
  · exact exprStatement_faults eof (by decide) _ []
  · rw [declaration_result]
    split
    · exact (varDeclaration_faults eof r).mono (List.suffix_cons t r)
    split
    · exact (exprStatement_faults eof (by decide) _ r).mono (List.suffix_cons t r)
    · exact exprStatement_faults eof (by decide) _ _

/-! ## Where recovery resumes -/

def Boundary (body : List Token) (k : Nat) : Prop :=
  body.length ≤ k ∨ (0 < k ∧ ∃ t ∈ body[k - 1]?, t.kind = .semicolon) ∨
    ∃ t ∈ body[k]?, t.kind.startsStatement = true

def FirstBoundaryAfter (body : List Token) (q k : Nat) : Prop :=
  q < k ∧ Boundary body k ∧ ∀ j, q < j → j < k → ¬Boundary body j

/-- After a declaration fails with the cursor at position `q` of `body`, parsing resumes at `k`:
at `q` when that is the end, and otherwise at the first boundary after `q`, so that the token at
`q` is always skipped. -/
def Resumes (body : List Token) (q k : Nat) : Prop :=
  if q < body.length then FirstBoundaryAfter body q k else k = q

theorem boundary_append_cons {pre r : List Token} {t : Token} (hpre : pre ≠ []) :
    Boundary (pre ++ t :: r) pre.length ↔
      (∃ u ∈ pre.getLast?, u.kind = .semicolon) ∨ t.kind.startsStatement = true := by
  have hlast : (pre ++ t :: r)[pre.length - 1]? = pre.getLast? := by
    rw [List.getElem?_append_left (by have := List.length_pos_iff.2 hpre; omega),
      List.getLast?_eq_getElem?]
  have hpos : 0 < pre.length := List.length_pos_iff.2 hpre
  simp only [Boundary, hlast, List.getElem?_append_right (Nat.le_refl _), Nat.sub_self,
    List.getElem?_cons_zero, Option.mem_def, Option.some.injEq, exists_eq_left',
    List.length_append, List.length_cons]
  constructor
  · rintro (h | ⟨-, h⟩ | h)
    · omega
    · exact .inl h
    · exact .inr h
  · rintro (h | h)
    · exact .inr (.inl ⟨hpos, h⟩)
    · exact .inr (.inr h)

theorem skipToBoundary_first {q : Nat} : ∀ (pre r : List Token), q < pre.length →
    (∀ u ∈ pre.getLast?, u.kind ≠ .semicolon) →
    (∀ j, q < j → j < pre.length → ¬Boundary (pre ++ r) j) →
    FirstBoundaryAfter (pre ++ r) q ((pre ++ r).length - (skipToBoundary r).length)
  | pre, [], hq, _, hbefore => by
    simp only [skipToBoundary, List.append_nil, List.length_nil, Nat.sub_zero]
    exact ⟨hq, .inl (Nat.le_refl _), by simpa using hbefore⟩
  | pre, t :: r, hq, hlast, hbefore => by
    have hpre : pre ≠ [] := List.ne_nil_of_length_pos (by omega)
    have hlen : (pre ++ t :: r).length - (t :: r).length = pre.length := by simp
    -- the position of `t` is a boundary exactly when `t` starts a statement
    have hat : Boundary (pre ++ t :: r) pre.length ↔ t.kind.startsStatement = true := by
      rw [boundary_append_cons hpre]
      exact ⟨fun h => h.resolve_left (by rintro ⟨u, hu, hk⟩; exact hlast u hu hk), .inr⟩
    rw [skipToBoundary]
    split
    · next hst =>
      rw [hlen]
      exact ⟨hq, hat.2 hst, hbefore⟩
    · next hst =>
      have hnot : ¬Boundary (pre ++ t :: r) pre.length := fun h => hst (hat.1 h)
      have hbefore' : ∀ j, q < j → j < pre.length + 1 → ¬Boundary (pre ++ t :: r) j := by
        intro j hqj hj
        rcases Nat.lt_succ_iff_lt_or_eq.1 hj with hj | rfl
        · exact hbefore j hqj hj
        · exact hnot
      split
      · next hsc =>
        have hk : (pre ++ t :: r).length - r.length = pre.length + 1 := by simp; omega
        rw [hk]
        refine ⟨by omega, .inr (.inl ⟨by omega, t, ?_, hsc⟩), hbefore'⟩
        simp
      · next hsc =>
        have h := @skipToBoundary_first q (pre ++ [t]) r (by simp; omega) (by simpa using hsc)
          (by simpa using hbefore')
        simpa using h

theorem synchronize_resumes (pre : List Token) (u : Token) (r : List Token) :
    Resumes (pre ++ u :: r) pre.length
      ((pre ++ u :: r).length - (synchronize (u :: r)).length) := by
  rw [Resumes, if_pos (by simp)]
  rw [synchronize]
  split
  · next hsc =>
    have hk : (pre ++ u :: r).length - r.length = pre.length + 1 := by simp; omega
    rw [hk]
    exact ⟨by omega, .inr (.inl ⟨by omega, u, by simp, hsc⟩), fun j hqj hj => by omega⟩
  · next hsc =>
    have h := @skipToBoundary_first pre.length (pre ++ [u]) r (by simp) (by simpa using hsc)
      (fun j hqj hj => by simp at hj; omega)
    simpa using h

theorem Stmt.unparse_getLast (s : Stmt) : s.unparse.getLast? = some (.mark .semicolon) := by
  rcases s with _ | _ | ⟨_, _ | _⟩ <;> simp [Stmt.unparse, List.getLast?_cons]

theorem declaration_semicolon {ts r : List Token} {s : Stmt}
    (h : (declaration eof ts).result = (.ok s, r)) :
    ∃ pre, ts = pre ++ r ∧ ∃ t ∈ pre.getLast?, t.kind = .semicolon := by
  obtain ⟨⟨pre, hts, hmap⟩, -⟩ := declaration_spells eof h
  refine ⟨pre, hts, ?_⟩
  have hl : (pre.map Token.piece).getLast? = some (.mark .semicolon) :=
    hmap ▸ Stmt.unparse_getLast s
  rw [List.getLast?_map] at hl
  obtain ⟨t, ht, hp⟩ := Option.map_eq_some_iff.1 hl
  exact ⟨t, ht, Token.kind_of_piece_eq_mark hp⟩

/-! ## The declarations tried -/

/-- The declarations that parsing tries from position `p` of `body` up to its end return the
statements `ss` and report the errors `es`. An attempt at `p` either parses a declaration, which
ends with the `;` just before the next position, or fails with the cursor at the position `q` of
what it left, where `Cursor` puts it; parsing then resumes where `Resumes` says. -/
inductive Attempts (body : List Token) : Nat → List Stmt → List SyntaxError → Prop
  | finish : Attempts body body.length [] []
  | parsed {p : Nat} {s : Stmt} {r : List Token} {ss : List Stmt} {es : List SyntaxError} :
      p < body.length → (declaration eof (body.drop p)).result = (.ok s, r) →
      r <:+ body.drop p → p < body.length - r.length →
      (∃ t ∈ body[body.length - r.length - 1]?, t.kind = .semicolon) →
      Attempts body (body.length - r.length) ss es → Attempts body p (s :: ss) es
  | failed {p k : Nat} {e : SyntaxError} {r : List Token} {ss : List Stmt}
      {es : List SyntaxError} :
      p < body.length → (declaration eof (body.drop p)).result = (.error e, r) →
      r <:+ body.drop p → Cursor eof (body.drop p) e r →
      Resumes body (body.length - r.length) k → p < k →
      Attempts body k ss es → Attempts body p ss (e :: es)

theorem getElem?_pred_length_append {pre : List Token} (r : List Token) (h : pre ≠ []) :
    (pre ++ r)[pre.length - 1]? = pre.getLast? := by
  rw [List.getElem?_append_left (by have := List.length_pos_iff.2 h; omega),
    List.getLast?_eq_getElem?]

theorem declarations_attempts (body : List Token) (ts : List Token) :
    ts <:+ body →
      Attempts eof body (body.length - ts.length) (declarations eof ts).1 (declarations eof ts).2 := by
  fun_induction declarations eof ts with
  | case1 => intro; simpa using Attempts.finish
  | case2 t r s rest hlt hd more ih =>
    intro hts
    have hdrop : body.drop (body.length - (t :: r).length) = t :: r :=
      (List.suffix_iff_eq_drop.1 hts).symm
    have hres : (declaration eof (t :: r)).result = (.ok s, rest) := by rw [hd]; rfl
    obtain ⟨pre, hpre, hsemi⟩ := declaration_semicolon eof hres
    obtain ⟨front, hbody⟩ := hts
    have hne : pre ≠ [] := by rintro rfl; simp at hsemi
    have hbody' : body = (front ++ pre) ++ rest := by rw [← hbody, hpre, List.append_assoc]
    have hplen : 0 < pre.length := List.length_pos_iff.2 hne
    have hnext : body.length - rest.length = (front ++ pre).length := by
      rw [hbody']; simp; omega
    refine .parsed ?_ (by rw [hdrop]; exact hres) (by rw [hdrop, hpre]; exact List.suffix_append _ _)
      ?_ ?_ ?_
    · rw [← hbody]; simp
    · rw [hnext, ← hbody, hpre]; simp; omega
    · obtain ⟨x, hx, hk⟩ := hsemi
      refine ⟨x, ?_, hk⟩
      rw [hnext, hbody', getElem?_pred_length_append _ (by simp [hne])]
      simp [List.getLast?_append, Option.mem_def.1 hx]
    · simpa [hnext] using ih ⟨front ++ pre, hbody'.symm⟩
  | case3 t r e h hd =>
    intro hts
    have hdrop : body.drop (body.length - (t :: r).length) = t :: r :=
      (List.suffix_iff_eq_drop.1 hts).symm
    have hres : (declaration eof (t :: r)).result = (.error e, []) := by rw [hd]; rfl
    have hf := declaration_faults eof (t :: r) e [] hres
    refine .failed ?_ (by rw [hdrop]; exact hres) (by rw [hdrop]; exact hf.1)
      (by rw [hdrop]; exact hf.2)
      (show Resumes body (body.length - [].length) body.length by simp [Resumes]) ?_ ?_
    · have := hts.length_le; simp at this ⊢; omega
    · have := hts.length_le; simp at this ⊢; omega
    · simpa using Attempts.finish
  | case4 t r e u rest h hd more ih =>
    intro hts
    have hdrop : body.drop (body.length - (t :: r).length) = t :: r :=
      (List.suffix_iff_eq_drop.1 hts).symm
    have hres : (declaration eof (t :: r)).result = (.error e, u :: rest) := by rw [hd]; rfl
    have hf := declaration_faults eof (t :: r) e _ hres
    obtain ⟨front, hbody⟩ := hf.1.trans hts
    have hsync : synchronize (u :: rest) <:+ body :=
      (synchronize_suffix (u :: rest)).trans (hf.1.trans hts)
    have hq : body.length - (u :: rest).length = front.length := by rw [← hbody]; simp
    have hres' := synchronize_resumes front u rest
    rw [hbody, ← hq] at hres'
    -- the cursor is inside the body, so recovery moves past it
    have hlt : body.length - (u :: rest).length < body.length := by rw [← hbody]; simp
    have hpq : (u :: rest).length ≤ (t :: r).length := hf.1.length_le
    have hqk := (by rw [Resumes, if_pos hlt] at hres'; exact hres'.1 :
      body.length - (u :: rest).length < body.length - (synchronize (u :: rest)).length)
    refine .failed ?_ (by rw [hdrop]; exact hres) (by rw [hdrop]; exact hf.1)
      (by rw [hdrop]; exact hf.2) hres' (by omega) (ih hsync)
    have := hts.length_le; simp at this ⊢; omega

theorem FirstBoundaryAfter.unique {body : List Token} {q k k' : Nat}
    (h : FirstBoundaryAfter body q k) (h' : FirstBoundaryAfter body q k') : k = k' := by
  obtain ⟨hq, hb, hmin⟩ := h
  obtain ⟨hq', hb', hmin'⟩ := h'
  rcases Nat.lt_trichotomy k k' with hlt | heq | hgt
  · exact absurd hb (hmin' k hq hlt)
  · exact heq
  · exact absurd hb' (hmin k' hq' hgt)

theorem Resumes.unique {body : List Token} {q k k' : Nat} (h : Resumes body q k)
    (h' : Resumes body q k') : k = k' := by
  unfold Resumes at h h'
  by_cases hq : q < body.length
  · rw [if_pos hq] at h h'
    exact h.unique h'
  · rw [if_neg hq] at h h'
    rw [h, h']

theorem Attempts.unique {body : List Token} {p : Nat} {ss ss' : List Stmt}
    {es es' : List SyntaxError} (h : Attempts eof body p ss es) (h' : Attempts eof body p ss' es') :
    ss = ss' ∧ es = es' := by
  induction h generalizing ss' es' with
  | finish =>
    cases h' with
    | finish => exact ⟨rfl, rfl⟩
    | parsed hp => omega
    | failed hp => omega
  | parsed hp hd _ _ _ _ ih =>
    cases h' with
    | finish => omega
    | parsed _ hd' _ _ _ hrest' =>
      rw [hd] at hd'
      obtain ⟨⟨⟩, rfl⟩ := Prod.mk.inj hd'
      obtain ⟨rfl, rfl⟩ := ih hrest'
      exact ⟨rfl, rfl⟩
    | failed _ hd' =>
      rw [hd] at hd'
      cases hd'
  | failed hp hd _ _ hk _ _ ih =>
    cases h' with
    | finish => omega
    | parsed _ hd' =>
      rw [hd] at hd'
      cases hd'
    | failed _ hd' _ _ hk' _ hrest' =>
      rw [hd] at hd'
      obtain ⟨⟨⟩, rfl⟩ := Prod.mk.inj hd'
      obtain rfl := hk.unique hk'
      obtain ⟨rfl, rfl⟩ := ih hrest'
      exact ⟨rfl, rfl⟩

end MiniLox.Parse

namespace MiniLox

/-- Parsing tries declarations at increasing positions of the tokens before the first
end-of-input token, from the first: its statements are those of the declarations that parse, in
order, and its errors one for each declaration that fails. After a declaration that parses, the
next one starts just past its closing `;`. After one that fails with the cursor at `q` (on the
offending token when a piece is missing, just after the right-hand side of the `=` when an
assignment target is no variable), the next starts at `q` when that is the end, and otherwise at
the first position after `q` that is the end, follows a `;` or holds a keyword that starts a
statement; so the token at `q` is always skipped. -/
theorem parse_eq_iff_attempts (ts : List Token) (ss : List Stmt) (es : List SyntaxError) :
    parse ts = (ss, es) ↔
      Parse.Attempts (Token.splitAtEnd ts).2 (Token.splitAtEnd ts).1 0 ss es := by
  have h := Parse.declarations_attempts (Token.splitAtEnd ts).2 (Token.splitAtEnd ts).1
    (Token.splitAtEnd ts).1 (List.suffix_refl _)
  rw [Nat.sub_self] at h
  rw [parse_eq_declarations]
  constructor
  · intro he
    rw [he] at h
    exact h
  · intro ha
    obtain ⟨h1, h2⟩ := h.unique _ ha
    exact Prod.ext h1 h2

end MiniLox
