import Mathlib.Data.List.TakeDrop
import Mathlib.Data.List.TakeWhile
import MiniLox.Proofs.ParseOutcome
import MiniLox.Syntax.Parser

/-!
# The cursor parser reads its slice up to the first end-of-input token

A parser's slice is `body`, then an end-of-input token `stop`, then whatever follows (`Slice`).
The cursor never passes `stop`: reading it leaves the cursor where it is, and no parser reads a
token past the one under the cursor. So no read leaves the slice, and from the cursor `j` each
parser reads what the list reading of `MiniLox.Parse` reads from `body.drop j`, with `stop`
standing for the end of the list (`Agrees`).

The simulation follows the list reading's recursion (`Parse.induction`), one case per parser, and
then the statements, recovery and the loop. A new parser's slice is the token list cut at its
first end-of-input token, with one added when there is none, so its run is the list reading of
the tokens before that end (`run_new`, `parse_eq_declarations`).
-/

set_option autoImplicit false

namespace MiniLox

/-! ## The tokens a parser reads -/

theorem Token.splitAtEnd_append_fst (A B : List Token) (hA : ∀ t ∈ A, t.kind ≠ .eof) :
    (Token.splitAtEnd (A ++ B)).1 = A ++ (Token.splitAtEnd B).1 := by
  have hpos : ∀ t ∈ A, (t.kind != .eof) = true := fun t ht => by simpa using hA t ht
  simp only [Token.splitAtEnd, List.span_eq_takeWhile_dropWhile,
    List.takeWhile_append_of_pos hpos, List.dropWhile_append_of_pos hpos]
  rcases List.dropWhile (fun t : Token => t.kind != .eof) B with _ | ⟨t, r⟩ <;> rfl

theorem Token.splitAtEnd_append_snd (A B : List Token) (hA : ∀ t ∈ A, t.kind ≠ .eof)
    (hB : B ≠ []) : (Token.splitAtEnd (A ++ B)).2 = (Token.splitAtEnd B).2 := by
  have hpos : ∀ t ∈ A, (t.kind != .eof) = true := fun t ht => by simpa using hA t ht
  simp only [Token.splitAtEnd, List.span_eq_takeWhile_dropWhile,
    List.takeWhile_append_of_pos hpos, List.dropWhile_append_of_pos hpos]
  rcases List.dropWhile (fun t : Token => t.kind != .eof) B with _ | ⟨t, r⟩
  · simp [List.getLast?_append, List.getLast?_eq_some_getLast hB]
  · rfl

theorem Token.splitAtEnd_of_no_end {ts : List Token} (h : ∀ t ∈ ts, t.kind ≠ .eof) :
    Token.splitAtEnd ts = (ts, Token.endAfter ts) := by
  have hpos : ∀ t ∈ ts, (t.kind != .eof) = true := fun t ht => by simpa using h t ht
  simp [Token.splitAtEnd, Token.endAfter, List.span_eq_takeWhile_dropWhile,
    List.takeWhile_eq_self_iff.2 hpos, List.dropWhile_eq_nil_iff.2 hpos]

theorem Token.splitAtEnd_of_end {body rest : List Token} {e : Token}
    (hbody : ∀ t ∈ body, t.kind ≠ .eof) (he : e.kind = .eof) :
    Token.splitAtEnd (body ++ e :: rest) = (body, e) := by
  have hfst := Token.splitAtEnd_append_fst body (e :: rest) hbody
  have hsnd := Token.splitAtEnd_append_snd body (e :: rest) hbody (List.cons_ne_nil e rest)
  have hend : Token.splitAtEnd (e :: rest) = ([], e) := by
    simp [Token.splitAtEnd, he]
  rw [hend] at hfst hsnd
  exact Prod.ext (by simpa using hfst) hsnd

theorem Token.takeWhile_no_end (ts : List Token) :
    ∀ t ∈ ts.takeWhile (·.kind != .eof), t.kind ≠ .eof := by
  intro t ht
  simpa using List.mem_takeWhile_imp ht

theorem Token.cases_end (ts : List Token) :
    (∃ e rest, e.kind = .eof ∧ ts = ts.takeWhile (·.kind != .eof) ++ e :: rest ∧
      Token.splitAtEnd ts = (ts.takeWhile (·.kind != .eof), e)) ∨
    ((∀ t ∈ ts, t.kind ≠ .eof) ∧ ts.takeWhile (·.kind != .eof) = ts ∧
      Token.splitAtEnd ts = (ts, Token.endAfter ts)) := by
  rcases hd : ts.dropWhile (·.kind != .eof) with _ | ⟨e, rest⟩
  · have hno : ∀ t ∈ ts, t.kind ≠ .eof := by
      intro t ht
      simpa using List.dropWhile_eq_nil_iff.1 hd t ht
    refine .inr ⟨hno, List.takeWhile_eq_self_iff.2 fun t ht => by simpa using hno t ht,
      Token.splitAtEnd_of_no_end hno⟩
  · have he : (e.kind != .eof) = false := by
      have h := List.head?_dropWhile_not (fun t : Token => t.kind != .eof) ts
      simpa [hd] using h
    have hts : ts = ts.takeWhile (·.kind != .eof) ++ e :: rest := by
      rw [← hd, List.takeWhile_append_dropWhile]
    have hsplit := @Token.splitAtEnd_of_end _ rest _ (Token.takeWhile_no_end ts) (by simpa using he)
    rw [← hts] at hsplit
    exact .inl ⟨e, rest, by simpa using he, hts, hsplit⟩

namespace Parser

/-- A parser's slice, read up to its first end-of-input token `stop`: the tokens `body` before
it hold none. -/
structure Slice (toks : Array Token) (body : List Token) (stop : Token) : Prop where
  split : ∃ after, toks.toList = body ++ stop :: after
  live : ∀ t ∈ body, t.kind ≠ .eof
  ends : stop.kind = .eof

variable {toks : Array Token} {body : List Token} {stop : Token} {i j : Nat} {t : Token}
  {r : List Token}

theorem lt_length_of_drop (h : body.drop j = t :: r) : j < body.length := by
  by_contra hj
  rw [List.drop_eq_nil_iff.2 (by omega)] at h
  cases h

theorem drop_succ_of_drop (h : body.drop j = t :: r) : body.drop (j + 1) = r := by
  rw [← List.drop_drop, h, List.drop_one, List.tail_cons]

theorem eq_length_of_drop_nil (hj : j ≤ body.length) (h : body.drop j = []) :
    j = body.length := by
  have := List.drop_eq_nil_iff.1 h
  omega

theorem length_drop_lt (hij : i < j) (hj : j ≤ body.length) :
    (body.drop j).length < (body.drop i).length := by
  simp only [List.length_drop]
  omega

theorem length_drop_le (hij : i ≤ j) : (body.drop j).length ≤ (body.drop i).length := by
  simp only [List.length_drop]
  omega

namespace Slice

variable (hs : Slice toks body stop)
include hs

theorem peek_of_drop (h : body.drop j = t :: r) : peek toks j = some t := by
  obtain ⟨after, hsplit⟩ := hs.split
  calc peek toks j = (body ++ stop :: after)[j]? := by rw [← hsplit, Array.getElem?_toList]; rfl
    _ = (body.drop j).head? := by
      rw [List.getElem?_append_left (lt_length_of_drop h), List.head?_drop]
    _ = some t := by rw [h]; rfl

theorem peek_end : peek toks body.length = some stop := by
  obtain ⟨after, hsplit⟩ := hs.split
  calc peek toks body.length = (body ++ stop :: after)[body.length]? := by
        rw [← hsplit, Array.getElem?_toList]; rfl
    _ = some stop := by rw [List.getElem?_append_right (Nat.le_refl _), Nat.sub_self]; rfl

theorem live_of_drop (h : body.drop j = t :: r) : t.kind ≠ .eof :=
  hs.live t (List.mem_of_mem_drop (by rw [h]; exact List.mem_cons_self))

theorem advance_of_drop (h : body.drop j = t :: r) : advance toks j = some (t, j + 1) := by
  rw [advance_of_peek (hs.peek_of_drop h), if_neg (hs.live_of_drop h)]

theorem advance_end : advance toks body.length = some (stop, body.length) := by
  rw [advance_of_peek hs.peek_end, if_pos hs.ends]

theorem previous_of_drop (h : body.drop j = t :: r) : previous toks (j + 1) = some t :=
  previous_succ (hs.peek_of_drop h)

theorem atEnd_of_drop (h : body.drop j = t :: r) : atEnd toks j = some false := by
  rw [atEnd_of_peek (hs.peek_of_drop h)]
  simpa using hs.live_of_drop h

theorem atEnd_end : atEnd toks body.length = some true := by
  rw [atEnd_of_peek hs.peek_end, hs.ends]
  rfl

theorem accept_of_drop {ks : List TokenKind} (h : body.drop j = t :: r) :
    accept toks j ks = some (if t.kind ∈ ks then (true, j + 1) else (false, j)) := by
  rw [accept_of_peek (hs.peek_of_drop h), if_neg (hs.live_of_drop h)]

theorem accept_end {ks : List TokenKind} (hks : .eof ∉ ks) :
    accept toks body.length ks = some (false, body.length) := by
  rw [accept_of_peek hs.peek_end, if_neg (by rw [hs.ends]; exact hks)]

theorem expect_of_drop {k : TokenKind} {fault : SyntaxFault} (h : body.drop j = t :: r) :
    (expect toks j k fault).view =
      if t.kind = k then some (.ok t, j + 1) else some (.error ⟨t, fault⟩, j) := by
  rw [expect_of_peek (hs.peek_of_drop h), if_neg (hs.live_of_drop h)]

theorem expect_end {k : TokenKind} {fault : SyntaxFault} (hk : k ≠ .eof) :
    (expect toks body.length k fault).view = some (.error ⟨stop, fault⟩, body.length) := by
  rw [expect_of_peek hs.peek_end, if_neg (by rw [hs.ends]; exact hk.symm)]

theorem peek_some (hi : i ≤ body.length) : ∃ t, peek toks i = some t := by
  rcases hd : body.drop i with _ | ⟨t, r⟩
  · obtain rfl := eq_length_of_drop_nil hi hd
    exact ⟨stop, hs.peek_end⟩
  · exact ⟨t, hs.peek_of_drop hd⟩

theorem previous_some (hi : i ≤ body.length) : ∃ t, previous toks i = some t := by
  cases i with
  | zero =>
    obtain ⟨t, ht⟩ := hs.peek_some (Nat.zero_le _)
    exact ⟨t, by simpa [previous, peek] using ht⟩
  | succ k =>
    obtain ⟨t, ht⟩ := hs.peek_some (show k ≤ body.length by omega)
    exact ⟨t, previous_succ ht⟩

end Slice

/-! ## The simulation -/

/-- A cursor parser's view `v` stands for the list reading's outcome `o`: the same value or the
same error, with the cursor at the start of the tokens `o` leaves. -/
def Agrees {α : Type} (body : List Token) (v : View α) (o : Parse.Outcome α) : Prop :=
  ∃ j, j ≤ body.length ∧ o.2 = body.drop j ∧ v = some (o.1, j)

theorem Agrees.pure {α : Type} (x : Except SyntaxError α) (hj : j ≤ body.length)
    (hr : body.drop j = r) : Agrees body (some (x, j)) (x, r) :=
  ⟨j, hj, hr.symm, rfl⟩

theorem Agrees.bind {α β : Type} {v : View α} {o : Parse.Outcome α} {k : α → Nat → View β}
    {k' : α → List Token → Parse.Outcome β} (h : Agrees body v o)
    (hk : ∀ a j, j ≤ body.length → v = some (.ok a, j) → Agrees body (k a j) (k' a (body.drop j))) :
    Agrees body (v.bind k) (o.bind k') := by
  obtain ⟨j, hj, hrest, rfl⟩ := h
  rcases o with ⟨_ | a, r⟩
  · exact Agrees.pure _ hj hrest.symm
  · obtain rfl : r = body.drop j := hrest
    exact hk a j hj rfl

def Simulates {α : Type} (body ts : List Token) (f : (i : Nat) → Reply i α)
    (o : Parse.Outcome α) : Prop :=
  ∀ i, i ≤ body.length → body.drop i = ts → Agrees body (f i).view o

section Simulation

variable (hs : Slice toks body stop)
include hs

theorem primary_agrees (hd : body.drop i = t :: r) (hpre : ¬(t.kind = .bang ∨ t.kind = .minus))
    (ha : Simulates body r (assignment toks) (Parse.assignment stop r).result) :
    Agrees body (primary toks i).view (Parse.unary stop (t :: r)).result := by
  have hi := lt_length_of_drop hd
  have hr := drop_succ_of_drop hd
  rw [primary_view, hs.peek_of_drop hd, Option.bind_some, Parse.unary_cons, if_neg hpre,
    hs.advance_of_drop hd]
  by_cases hlit : t.kind.isLiteral
  · rw [if_pos hlit, if_pos hlit]
    exact Agrees.pure _ hi hr
  rw [if_neg hlit, if_neg hlit]
  by_cases hid : t.kind = .identifier
  · rw [if_pos hid, if_pos hid]
    exact Agrees.pure _ hi hr
  rw [if_neg hid, if_neg hid]
  by_cases hl : t.kind = .leftParen
  · rw [if_pos hl, if_pos hl, Option.bind_some]
    -- the parenthesised expression, then its closing parenthesis
    refine (ha (i + 1) hi hr).bind fun inner k hk _ => ?_
    rcases hd' : body.drop k with _ | ⟨c, r3⟩ <;> dsimp only
    · obtain rfl := eq_length_of_drop_nil hk hd'
      rw [hs.expect_end (by decide), View.bind_error]
      exact Agrees.pure _ hk hd'
    · rw [hs.expect_of_drop hd']
      by_cases hc : c.kind = .rightParen
      · rw [if_pos hc, if_pos hc, View.bind_ok]
        exact Agrees.pure _ (lt_length_of_drop hd') (drop_succ_of_drop hd')
      · rw [if_neg hc, if_neg hc, View.bind_error]
        exact Agrees.pure _ hk hd'
  · rw [if_neg hl, if_neg hl]
    exact Agrees.pure _ (Nat.le_of_lt hi) hd

theorem primary_end :
    (primary toks body.length).view = some (.error ⟨stop, .expectExpression⟩, body.length) := by
  have hlit : stop.kind.isLiteral = false := by rw [hs.ends]; rfl
  rw [primary_view, hs.peek_end, Option.bind_some, if_neg (by rw [hlit]; decide),
    if_neg (by rw [hs.ends]; decide), if_neg (by rw [hs.ends]; decide)]

/-- Each expression parser from a cursor reads what the list reading reads from the rest of the
body there. The proof follows the list reading's own recursion. -/
theorem simulates (ts : List Token) :
    Simulates body ts (assignment toks) (Parse.assignment stop ts).result ∧
    (∀ tier,
      Simulates body ts (binary toks tier) (Parse.binary stop tier ts).result ∧
      Simulates body ts (operand toks tier) (Parse.operand stop tier ts).result ∧
      ∀ lhs, Simulates body ts (binaryLoop toks tier lhs)
        (Parse.binaryRest stop tier lhs ts).result) ∧
    Simulates body ts (unary toks) (Parse.unary stop ts).result := by
  refine Parse.induction
    (fun ts => Simulates body ts (assignment toks) (Parse.assignment stop ts).result)
    (fun tier ts => Simulates body ts (binary toks tier) (Parse.binary stop tier ts).result)
    (fun tier ts => Simulates body ts (operand toks tier) (Parse.operand stop tier ts).result)
    (fun tier lhs ts =>
      Simulates body ts (binaryLoop toks tier lhs) (Parse.binaryRest stop tier lhs ts).result)
    (fun ts => Simulates body ts (unary toks) (Parse.unary stop ts).result)
    ?assignment ?binary ?operand ?binaryLoop ?unary ts
  case assignment =>
    rintro _ hb ha i hi rfl
    rw [assignment_view, Parse.assignment_result]
    refine (hb i hi rfl).bind fun lhs j hj hv => ?_
    rcases hd : body.drop j with _ | ⟨t, r⟩ <;> dsimp only
    · -- the end of the slice: no `=` follows
      obtain rfl := eq_length_of_drop_nil hj hd
      simp only [check_of_peek hs.peek_end, hs.ends, Option.bind_some]
      exact Agrees.pure _ hj hd
    · rw [check_of_peek (hs.peek_of_drop hd)]
      by_cases ht : t.kind = .equal
      · simp only [ht, Option.bind_some, if_true, hs.advance_of_drop hd]
        have hlt : r.length < (body.drop i).length := by
          rw [← drop_succ_of_drop hd]
          exact length_drop_lt (Nat.lt_succ_of_le (Reply.le_of_view hv)) (lt_length_of_drop hd)
        refine (ha r hlt (j + 1) (lt_length_of_drop hd) (drop_succ_of_drop hd)).bind
          fun value l hl _ => ?_
        cases lhs <;> exact Agrees.pure _ hl rfl
      · have hb : (t.kind == .equal) = false := by simpa using ht
        simp only [hb, ht, Option.bind_some, Bool.false_eq_true, if_false]
        exact Agrees.pure _ hj hd
  case binary =>
    rintro tier _ ho hr i hi rfl
    rw [binary_view, Parse.binary_result]
    exact (ho i hi rfl).bind fun lhs j hj hv =>
      hr lhs _ (length_drop_le (Reply.le_of_view hv)) j hj rfl
  case operand =>
    rintro tier _ hb hu i hi rfl
    cases hti : tier.tighter with
    | some u =>
      rw [operand_of_tighter hti, Parse.operand_of_tighter stop hti]
      exact hb u hti i hi rfl
    | none =>
      obtain rfl := Parse.Tier.eq_factor_of_tighter hti
      rw [operand_factor, Parse.operand_factor]
      exact hu rfl i hi rfl
  case binaryLoop =>
    rintro tier lhs _ ih i hi rfl
    rw [binaryLoop_view]
    rcases hd : body.drop i with _ | ⟨t, r⟩
    · obtain rfl := eq_length_of_drop_nil hi hd
      simp only [hs.accept_end (Tier.eof_not_mem_operators tier), Option.bind_some,
        Bool.false_eq_true, if_false, Parse.binaryRest_nil]
      exact Agrees.pure _ hi hd
    · have hlt : r.length < (body.drop i).length := by rw [hd]; simp
      rw [hs.accept_of_drop hd, Parse.binaryRest_cons]
      by_cases hop : t.kind ∈ tier.operators
      · simp only [hop, if_true, Option.bind_some, hs.previous_of_drop hd]
        refine ((ih r hlt).1 (i + 1) (lt_length_of_drop hd) (drop_succ_of_drop hd)).bind
          fun rhs k hk hv => ?_
        have hik : i < k := Nat.lt_of_lt_of_le (Nat.lt_succ_self i) (Reply.le_of_view hv)
        exact (ih _ (length_drop_lt hik hk)).2 _ k hk rfl
      · simp only [hop, if_false, Option.bind_some, Bool.false_eq_true]
        exact Agrees.pure _ hi hd
  case unary =>
    rintro _ ih i hi rfl
    rw [unary_view]
    rcases hd : body.drop i with _ | ⟨t, r⟩
    · -- the end of the slice: no operator, and no expression
      obtain rfl := eq_length_of_drop_nil hi hd
      have hend : accept toks body.length [.bang, .minus] = some (false, body.length) :=
        hs.accept_end (by decide)
      simp only [hend, Option.bind_some, Bool.false_eq_true, if_false, primary_end hs,
        Parse.unary_nil]
      exact Agrees.pure _ hi hd
    · have hlt : r.length < (body.drop i).length := by rw [hd]; simp
      rw [hs.accept_of_drop hd]
      by_cases hpre : t.kind = .bang ∨ t.kind = .minus
      · have hmem : t.kind ∈ [TokenKind.bang, .minus] := by simpa using hpre
        rw [Parse.unary_cons, if_pos hpre]
        simp only [hmem, if_true, Option.bind_some, hs.previous_of_drop hd]
        exact ((ih r hlt).2 (i + 1) (lt_length_of_drop hd) (drop_succ_of_drop hd)).bind
          fun right k hk _ => Agrees.pure _ hk rfl
      · have hmem : t.kind ∉ [TokenKind.bang, .minus] := by simpa using hpre
        simp only [hmem, if_false, Option.bind_some, Bool.false_eq_true]
        exact primary_agrees hs hd hpre (ih r hlt).1

theorem assignment_agrees (hi : i ≤ body.length) :
    Agrees body (assignment toks i).view (Parse.assignment stop (body.drop i)).result :=
  (simulates hs _).1 i hi rfl

/-! ## Statements, recovery and the loop -/

theorem terminate_agrees (hj : j ≤ body.length) (fault : SyntaxFault) (s : Stmt) :
    Agrees body (terminate toks fault s j).view
      (Parse.terminate stop fault s (body.drop j)).result := by
  rw [terminate_view, Parse.terminate_result]
  rcases hd : body.drop j with _ | ⟨t, r⟩ <;> dsimp only
  · obtain rfl := eq_length_of_drop_nil hj hd
    rw [hs.expect_end (by decide), View.bind_error]
    exact Agrees.pure _ hj hd
  · rw [hs.expect_of_drop hd]
    by_cases ht : t.kind = .semicolon
    · rw [if_pos ht, if_pos ht, View.bind_ok]
      exact Agrees.pure _ (lt_length_of_drop hd) (drop_succ_of_drop hd)
    · rw [if_neg ht, if_neg ht, View.bind_error]
      exact Agrees.pure _ hj hd

theorem exprStatement_agrees (hj : j ≤ body.length) (fault : SyntaxFault) (make : Expr → Stmt) :
    Agrees body (exprStatement toks fault make j).view
      (Parse.exprStatement stop fault make (body.drop j)).result := by
  rw [exprStatement_view, Parse.exprStatement_result]
  exact (assignment_agrees hs hj).bind fun e k hk _ => terminate_agrees hs hk fault (make e)

theorem varDecl_agrees (hj : j ≤ body.length) :
    Agrees body (varDecl toks j).view (Parse.varDeclaration stop (body.drop j)).result := by
  rw [varDecl_view]
  rcases hd : body.drop j with _ | ⟨name, rest⟩
  · obtain rfl := eq_length_of_drop_nil hj hd
    have hnil : (Parse.varDeclaration stop []).result = (.error ⟨stop, .expectVariableName⟩, []) :=
      rfl
    rw [hs.expect_end (by decide), View.bind_error, hnil]
    exact Agrees.pure _ hj hd
  have hj1 := lt_length_of_drop hd
  have hr := drop_succ_of_drop hd
  rw [hs.expect_of_drop hd, Parse.varDeclaration_result]
  by_cases hn : name.kind = .identifier
  · rw [if_pos hn, if_pos hn, View.bind_ok]
    rcases rest with _ | ⟨t, r⟩ <;> dsimp only
    · -- the name ends the slice: no `=`, and the `;` is missing
      have he : j + 1 = body.length := eq_length_of_drop_nil hj1 hr
      have hend : accept toks body.length [.equal] = some (false, body.length) :=
        hs.accept_end (by decide)
      rw [he, hend, Option.bind_some, if_neg Bool.false_ne_true, ← hr, he]
      exact terminate_agrees hs (Nat.le_refl _) _ _
    · have hj2 : j + 1 + 1 ≤ body.length := lt_length_of_drop hr
      rw [hs.accept_of_drop hr]
      by_cases ht : t.kind = .equal
      · simp only [ht, List.mem_singleton, if_true, Option.bind_some, Parse.exprStatement_result]
        rw [← drop_succ_of_drop hr]
        exact (assignment_agrees hs hj2).bind fun e k hk _ => terminate_agrees hs hk _ _
      · have hmem : t.kind ∉ [TokenKind.equal] := by simpa using ht
        simp only [hmem, ht, if_false, Option.bind_some, Bool.false_eq_true]
        rw [← hr]
        exact terminate_agrees hs hj1 _ _
  · rw [if_neg hn, if_neg hn, View.bind_error]
    exact Agrees.pure _ hj hd

theorem declaration_agrees (hi : i ≤ body.length) :
    Agrees body (declaration toks i).view (Parse.declaration stop (body.drop i)).result := by
  rw [declaration_view]
  rcases hd : body.drop i with _ | ⟨t, r⟩
  · -- at the end of the slice: an expression statement, which fails
    obtain rfl := eq_length_of_drop_nil hi hd
    have hvar : accept toks body.length [.varKw] = some (false, body.length) :=
      hs.accept_end (by decide)
    have hprint : accept toks body.length [.printKw] = some (false, body.length) :=
      hs.accept_end (by decide)
    have hnil : Parse.declaration stop [] =
        Parse.exprStatement stop .expectSemicolonAfterExpression .expression [] := rfl
    simp only [hvar, hprint, Option.bind_some, Bool.false_eq_true, if_false, statement_view, hnil]
    rw [← hd]
    exact exprStatement_agrees hs hi _ _
  have hi1 := lt_length_of_drop hd
  have hr := drop_succ_of_drop hd
  rw [hs.accept_of_drop hd, Parse.declaration_result]
  by_cases hv : t.kind = .varKw
  · simp only [hv, List.mem_singleton, if_true, Option.bind_some]
    rw [← hr]
    exact varDecl_agrees hs hi1
  have hv' : t.kind ∉ [TokenKind.varKw] := by simpa using hv
  simp only [hv, hv', if_false, Option.bind_some, Bool.false_eq_true, statement_view]
  by_cases hp : t.kind = .printKw
  · have hacc : accept toks i [.printKw] = some (true, i + 1) := by
      rw [hs.accept_of_drop hd, if_pos (by simp [hp])]
    rw [hacc, Option.bind_some, if_pos rfl, if_pos hp, ← hr]
    exact exprStatement_agrees hs hi1 _ _
  · have hacc : accept toks i [.printKw] = some (false, i) := by
      rw [hs.accept_of_drop hd, if_neg (by simpa using hp)]
    rw [hacc, Option.bind_some, if_neg Bool.false_ne_true, if_neg hp, ← hd]
    exact exprStatement_agrees hs hi _ _

theorem skipToBoundary_agrees (r : List Token) : ∀ j p, body.drop j = p :: r →
    ∃ k, k ≤ body.length ∧ skipToBoundary toks (j + 1) = some k ∧
      body.drop k = Parse.synchronize (p :: r) := by
  induction r with
  | nil =>
    intro j p h
    have he : j + 1 = body.length := eq_length_of_drop_nil (lt_length_of_drop h) (drop_succ_of_drop h)
    refine ⟨j + 1, lt_length_of_drop h, ?_, ?_⟩
    · rw [skipToBoundary_eq, he, hs.atEnd_end]
      rfl
    · rw [drop_succ_of_drop h]
      by_cases hp : p.kind = .semicolon <;> simp [Parse.synchronize, Parse.skipToBoundary, hp]
  | cons t r ih =>
    intro j p h
    have hj1 := lt_length_of_drop h
    have hr := drop_succ_of_drop h
    rw [skipToBoundary_eq, hs.atEnd_of_drop hr, Option.bind_some, if_neg Bool.false_ne_true,
      hs.previous_of_drop h, Option.bind_some]
    by_cases hp : p.kind = .semicolon
    · -- right after a `;`
      rw [if_pos hp]
      exact ⟨j + 1, hj1, rfl, by rw [hr]; simp [Parse.synchronize, hp]⟩
    rw [if_neg hp, hs.peek_of_drop hr, Option.bind_some]
    by_cases hst : t.kind.startsStatement
    · -- right before a keyword that starts a statement
      rw [if_pos hst]
      exact ⟨j + 1, hj1, rfl, by rw [hr]; simp [Parse.synchronize, Parse.skipToBoundary, hp, hst]⟩
    rw [if_neg hst, hs.advance_of_drop hr, Option.bind_some]
    obtain ⟨k, hk, hskip, hdrop⟩ := ih (j + 1) t hr
    refine ⟨k, hk, hskip, ?_⟩
    rw [hdrop]
    simp [Parse.synchronize, Parse.skipToBoundary, hp, hst]

theorem synchronize_agrees {u : Token} (h : body.drop j = u :: r) :
    ∃ k, k ≤ body.length ∧ synchronize toks j = some k ∧
      body.drop k = Parse.synchronize (u :: r) := by
  rw [synchronize, hs.advance_of_drop h]
  exact skipToBoundary_agrees hs r j u h

theorem synchronize_end : synchronize toks body.length = some body.length := by
  rw [synchronize, hs.advance_end]
  show skipToBoundary toks body.length = some body.length
  rw [skipToBoundary_eq, hs.atEnd_end]
  rfl

theorem synchronize_some (hi : i ≤ body.length) :
    ∃ k, synchronize toks i = some k ∧ k ≤ body.length := by
  rcases hd : body.drop i with _ | ⟨u, r⟩
  · obtain rfl := eq_length_of_drop_nil hi hd
    exact ⟨body.length, synchronize_end hs, Nat.le_refl _⟩
  · obtain ⟨k, hk, hsync, -⟩ := synchronize_agrees hs hd
    exact ⟨k, hsync, hk⟩

/-- The loop, from any cursor up to the end of the body, reads what the list reading reads from
the rest of the body, and stops on `stop`. The induction is on what is left of the body. -/
theorem declarations_agrees (i : Nat) (hi : i ≤ body.length) :
    declarations toks i = some (Parse.declarations stop (body.drop i), body.length) := by
  induction hn : body.length - i using Nat.strongRecOn generalizing i with
  | _ n ih =>
    rw [declarations_eq]
    rcases hd : body.drop i with _ | ⟨t, r⟩
    · obtain rfl := eq_length_of_drop_nil hi hd
      rw [hs.atEnd_end, Option.bind_some, if_pos rfl, Parse.declarations]
    have hmore : ∀ k, i < k → k ≤ body.length →
        declarations toks k = some (Parse.declarations stop (body.drop k), body.length) :=
      fun k hik hk => ih (body.length - k) (by omega) k hk rfl
    have hdecl := declaration_agrees hs hi
    rw [hd] at hdecl
    obtain ⟨j, hj, hrest, hv⟩ := hdecl
    rw [hs.atEnd_of_drop hd, Option.bind_some, if_neg Bool.false_ne_true, Parse.declarations_cons]
    rcases ho : (Parse.declaration stop (t :: r)).result with ⟨x, rest⟩
    rw [ho] at hrest hv
    obtain rfl : rest = body.drop j := hrest
    rw [hv]
    rcases x with _ | s
    · rcases hdj : body.drop j with _ | ⟨u, rest'⟩ <;> dsimp only
      · -- the error ends the slice: recovery stays on `stop`
        obtain rfl := eq_length_of_drop_nil hj hdj
        rw [synchronize_end hs, Option.bind_some, hmore _ (lt_length_of_drop hd) (Nat.le_refl _),
          List.drop_length, Parse.declarations]
        rfl
      · obtain ⟨k, hk, hsync, hdrop⟩ := synchronize_agrees hs hdj
        have hik := lt_synchronize (hs.atEnd_of_drop hd) (Parsed.le_of_view hv) hsync
        rw [hsync, Option.bind_some, hmore k hik hk, hdrop]
        rfl
    · dsimp only
      rw [hmore j (Parsed.lt_of_view_ok hv) hj]
      rfl

end Simulation

theorem new_current (ts : List Token) : (Parser.new ts).current = 0 := by
  unfold Parser.new
  split <;> rfl

theorem slice_new (ts : List Token) :
    Slice (Parser.new ts).tokens (Token.splitAtEnd ts).1 (Token.splitAtEnd ts).2 := by
  rcases Token.cases_end ts with ⟨e, rest, he, hts, hsplit⟩ | ⟨hno, -, hsplit⟩
  · rw [hsplit]
    refine ⟨?_, Token.takeWhile_no_end ts, he⟩
    unfold Parser.new
    split
    · exact ⟨rest, by rw [List.toList_toArray]; exact hts⟩
    · refine ⟨rest ++ [Token.endAfter ts], ?_⟩
      rw [List.toList_toArray]
      generalize Token.endAfter ts = x
      conv_lhs => rw [hts]
      simp
  · rw [hsplit]
    have hlast : ts.getLast?.any (·.kind == .eof) = false := by
      cases hl : ts.getLast? with
      | none => rfl
      | some t => simpa using hno t (List.mem_of_getLast? hl)
    refine ⟨⟨[], ?_⟩, hno, rfl⟩
    unfold Parser.new
    rw [if_neg (by rw [hlast]; exact Bool.false_ne_true), List.toList_toArray]

/-- The run of a new parser: the list reading of the tokens before the first end-of-input token,
ending with the cursor on that token. -/
theorem run_new (ts : List Token) :
    (Parser.new ts).run =
      some (Parse.declarations (Token.splitAtEnd ts).2 (Token.splitAtEnd ts).1,
        (Token.splitAtEnd ts).1.length) := by
  rw [run, new_current]
  exact declarations_agrees (slice_new ts) 0 (Nat.zero_le _)

end Parser

theorem parse_eq_declarations (ts : List Token) :
    parse ts = Parse.declarations (Token.splitAtEnd ts).2 (Token.splitAtEnd ts).1 := by
  rw [parse, Parser.run_new]
  rfl

/-- A new parser over any token list stops, and its cursor stays at or before the first
end-of-input token of its slice: from every cursor up to that token, `peek` and `previous` read
a token of the slice, and a declaration or a recovery stops at a cursor up to it, with no read
outside the slice; the run ends on that token. Its statements and errors are those of the list
cut just after its first end-of-input token, and, when it has none, those of the list followed
by an end-of-input token on the line of its last token (line 1 when it is empty). -/
theorem parse_reads_to_first_end (ts : List Token) :
    (Parser.new ts).run = some (parse ts, (ts.takeWhile (·.kind != .eof)).length) ∧
    (∀ i ≤ (ts.takeWhile (·.kind != .eof)).length,
      (∃ t, Parser.peek (Parser.new ts).tokens i = some t) ∧
      (∃ t, Parser.previous (Parser.new ts).tokens i = some t) ∧
      (∃ x j, (Parser.declaration (Parser.new ts).tokens i).view = some (x, j) ∧
        j ≤ (ts.takeWhile (·.kind != .eof)).length) ∧
      (∃ j, Parser.synchronize (Parser.new ts).tokens i = some j ∧
        j ≤ (ts.takeWhile (·.kind != .eof)).length)) ∧
    parse (ts.take ((ts.takeWhile (·.kind != .eof)).length + 1)) = parse ts ∧
    ((∀ t ∈ ts, t.kind ≠ .eof) → parse (ts ++ [Token.endAfter ts]) = parse ts) := by
  have hs := Parser.slice_new ts
  have hbody : (Token.splitAtEnd ts).1 = ts.takeWhile (·.kind != .eof) := by
    rcases Token.cases_end ts with ⟨e, rest, -, -, hsplit⟩ | ⟨-, hself, hsplit⟩
    · rw [hsplit]
    · rw [hsplit, hself]
  refine ⟨?run, ?cursor, ?cut, ?append⟩
  case run => rw [Parser.run_new, parse_eq_declarations, hbody]
  case cursor =>
    rw [← hbody]
    intro i hi
    obtain ⟨j, hj, -, hv⟩ := Parser.declaration_agrees hs hi
    exact ⟨hs.peek_some hi, hs.previous_some hi, ⟨_, j, hv, hj⟩,
      Parser.synchronize_some hs hi⟩
  case cut =>
    rcases Token.cases_end ts with ⟨e, rest, he, hts, hsplit⟩ | ⟨-, hself, -⟩
    · -- the cut keeps the first end-of-input token and drops what follows it
      have hcut : ts.take ((ts.takeWhile (·.kind != .eof)).length + 1) =
          ts.takeWhile (·.kind != .eof) ++ [e] := by
        generalize ts.takeWhile (·.kind != .eof) = body at hts ⊢
        subst hts
        simp only [List.take_length_add_append, List.take_succ_cons, List.take_zero]
      rw [hcut, parse_eq_declarations, parse_eq_declarations, hsplit,
        Token.splitAtEnd_of_end (Token.takeWhile_no_end ts) he]
    · rw [hself, List.take_of_length_le (by omega)]
  case append =>
    intro hno
    rw [parse_eq_declarations, parse_eq_declarations, Token.splitAtEnd_of_no_end hno,
      Token.splitAtEnd_of_end hno rfl]

/-- `print true;` without an end-of-input token parses as it does with the one added on its
line. -/
theorem parse_reads_to_first_end_unended :
    (∀ t ∈ ([⟨.printKw, "print", .absent, 1⟩, ⟨.trueKw, "true", .absent, 1⟩,
        ⟨.semicolon, ";", .absent, 1⟩] : List Token), t.kind ≠ .eof) ∧
      parse ([⟨.printKw, "print", .absent, 1⟩, ⟨.trueKw, "true", .absent, 1⟩,
          ⟨.semicolon, ";", .absent, 1⟩] ++
        [Token.endAfter [⟨.printKw, "print", .absent, 1⟩, ⟨.trueKw, "true", .absent, 1⟩,
          ⟨.semicolon, ";", .absent, 1⟩]]) =
      parse [⟨.printKw, "print", .absent, 1⟩, ⟨.trueKw, "true", .absent, 1⟩,
        ⟨.semicolon, ";", .absent, 1⟩] :=
  ⟨by decide, (parse_reads_to_first_end _).2.2.2 (by decide)⟩

end MiniLox
