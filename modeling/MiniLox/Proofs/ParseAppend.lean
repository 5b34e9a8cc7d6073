import MiniLox.Proofs.ParseCursor

/-!
# Parsing across a statement boundary

No expression parser consumes a `;`: each stops at it, or before it. So while a `;` lies ahead,
a parser never reaches the end of its input, and reading `ts ++ B` comes to reading `ts` with
`B` after what is left (`Parse.frame`). A declaration consumes at most its closing `;`, and
recovery after an error skips at most up to the next `;`.

Main statement: when `A` holds no end-of-input token and is empty or ends with a `;`, the parse
of `A ++ B` is the parse of `A` followed by the parse of `B`, statements and errors both.
-/

set_option autoImplicit false

namespace MiniLox.Parse

def HasSemicolon (ts : List Token) : Prop := ∃ t ∈ ts, t.kind = .semicolon

theorem HasSemicolon.tail {t : Token} {r : List Token} (h : HasSemicolon (t :: r))
    (ht : t.kind ≠ .semicolon) : HasSemicolon r := by
  obtain ⟨u, hu, hk⟩ := h
  rcases List.mem_cons.1 hu with rfl | hu
  · exact absurd hk ht
  · exact ⟨u, hu, hk⟩

theorem HasSemicolon.ne_nil {ts : List Token} (h : HasSemicolon ts) : ts ≠ [] := by
  rintro rfl
  obtain ⟨_, hu, _⟩ := h
  cases hu

theorem HasSemicolon.of_suffix {A r : List Token} (hend : ∀ t ∈ A.getLast?, t.kind = .semicolon)
    (hr : r <:+ A) (hne : r ≠ []) : HasSemicolon r := by
  refine ⟨r.getLast hne, List.getLast_mem hne, ?_⟩
  rw [hr.getLast hne]
  exact hend _ (List.getLast_mem_getLast? _)

variable {α β : Type} (B : List Token)

/-- Read from `ts ++ B`, a parser comes to `o`, where from `ts` it came to `o'`: the same value
or error, with `B` after what is left; and what is left is a suffix of `ts` that holds a `;`. -/
def Local (ts : List Token) (o o' : Outcome α) : Prop :=
  o = (o'.1, o'.2 ++ B) ∧ o'.2 <:+ ts ∧ HasSemicolon o'.2

theorem Local.mono {ts us : List Token} {o o' : Outcome α} (h : Local B ts o o')
    (hts : ts <:+ us) : Local B us o o' :=
  ⟨h.1, h.2.1.trans hts, h.2.2⟩

theorem Local.pure {ts r : List Token} (x : Except SyntaxError α) (hr : r <:+ ts)
    (hs : HasSemicolon r) : Local B ts (x, r ++ B) (x, r) :=
  ⟨rfl, hr, hs⟩

theorem Local.bind {ts : List Token} {o o' : Outcome α} {k k' : α → List Token → Outcome β}
    (h : Local B ts o o')
    (hk : ∀ a r, o' = (.ok a, r) → r <:+ ts → HasSemicolon r →
      Local B ts (k a (r ++ B)) (k' a r)) :
    Local B ts (o.bind k) (o'.bind k') := by
  obtain ⟨rfl, hr, hs⟩ := h
  rcases o' with ⟨_ | a, r⟩
  · exact Local.pure B _ hr hs
  · exact hk a r rfl hr hs

def LocalStmt (ts : List Token) (o o' : Outcome Stmt) : Prop :=
  o = (o'.1, o'.2 ++ B) ∧ o'.2 <:+ ts ∧ ∀ e, o'.1 = .error e → HasSemicolon o'.2

theorem LocalStmt.bind {ts : List Token} {o o' : Outcome α} {k k' : α → List Token → Outcome Stmt}
    (h : Local B ts o o')
    (hk : ∀ a r, o' = (.ok a, r) → r <:+ ts → HasSemicolon r →
      LocalStmt B ts (k a (r ++ B)) (k' a r)) :
    LocalStmt B ts (o.bind k) (o'.bind k') := by
  obtain ⟨rfl, hr, hs⟩ := h
  rcases o' with ⟨_ | a, r⟩
  · exact ⟨rfl, hr, fun _ _ => hs⟩
  · exact hk a r rfl hr hs

theorem LocalStmt.mono {ts us : List Token} {o o' : Outcome Stmt} (h : LocalStmt B ts o o')
    (hts : ts <:+ us) : LocalStmt B us o o' :=
  ⟨h.1, h.2.1.trans hts, h.2.2⟩

variable (eof eof' : Token)

/-- While a `;` lies ahead, each expression parser reads `ts ++ B` as it reads `ts`, whatever
end-of-input token each is given. -/
theorem frame (ts : List Token) :
    (HasSemicolon ts → Local B ts (assignment eof (ts ++ B)).result (assignment eof' ts).result) ∧
    (∀ tier,
      (HasSemicolon ts →
        Local B ts (binary eof tier (ts ++ B)).result (binary eof' tier ts).result) ∧
      (HasSemicolon ts →
        Local B ts (operand eof tier (ts ++ B)).result (operand eof' tier ts).result) ∧
      ∀ lhs, HasSemicolon ts →
        Local B ts (binaryRest eof tier lhs (ts ++ B)).result
          (binaryRest eof' tier lhs ts).result) ∧
    (HasSemicolon ts → Local B ts (unary eof (ts ++ B)).result (unary eof' ts).result) := by
  refine Parse.induction
    (fun ts => HasSemicolon ts →
      Local B ts (assignment eof (ts ++ B)).result (assignment eof' ts).result)
    (fun tier ts => HasSemicolon ts →
      Local B ts (binary eof tier (ts ++ B)).result (binary eof' tier ts).result)
    (fun tier ts => HasSemicolon ts →
      Local B ts (operand eof tier (ts ++ B)).result (operand eof' tier ts).result)
    (fun tier lhs ts => HasSemicolon ts →
      Local B ts (binaryRest eof tier lhs (ts ++ B)).result (binaryRest eof' tier lhs ts).result)
    (fun ts => HasSemicolon ts → Local B ts (unary eof (ts ++ B)).result (unary eof' ts).result)
    ?assignment ?binary ?operand ?binaryRest ?unary ts
  case assignment =>
    intro ts hb ha hs
    rw [assignment_result, assignment_result]
    refine (hb hs).bind B fun lhs r _ hr hsr => ?_
    obtain ⟨t, r', rfl⟩ : ∃ t r', r = t :: r' := List.exists_cons_of_ne_nil hsr.ne_nil
    by_cases ht : t.kind = .equal
    · have hsr' := hsr.tail (by rw [ht]; decide)
      have hshort : r'.length < ts.length := by
        have := hr.length_le; simp at this; omega
      simp only [List.cons_append, ht, if_true]
      refine ((ha r' hshort hsr').mono B ((List.suffix_cons t r').trans hr)).bind B
        fun v r2 _ hr2 hs2 => ?_
      cases lhs <;> exact Local.pure B _ hr2 hs2
    · simp only [List.cons_append, ht, if_false]
      exact Local.pure B _ hr hsr
  case binary =>
    intro tier ts ho hr hs
    rw [binary_result, binary_result]
    exact (ho hs).bind B fun lhs r _ hsuf hsr =>
      (hr lhs r hsuf.length_le hsr).mono B hsuf
  case operand =>
    intro tier ts hb hu hs
    cases hti : tier.tighter with
    | some u =>
      rw [operand_of_tighter eof hti, operand_of_tighter eof' hti]
      exact hb u hti hs
    | none =>
      obtain rfl := Tier.eq_factor_of_tighter hti
      rw [operand_factor, operand_factor]
      exact hu rfl hs
  case binaryRest =>
    intro tier lhs ts ih hs
    obtain ⟨t, r0, rfl⟩ := List.exists_cons_of_ne_nil hs.ne_nil
    have hsuf : r0 <:+ t :: r0 := List.suffix_cons t r0
    rw [List.cons_append, binaryRest_cons, binaryRest_cons]
    by_cases hop : t.kind ∈ tier.operators
    · simp only [hop, if_true]
      have hs0 := hs.tail (fun h => absurd hop (by rw [h]; cases tier <;> decide))
      refine (((ih r0 (by simp)).1 hs0).bind B fun rhs r2 _ hr2 hs2 => ?_).mono B hsuf
      have hlen : r2.length < (t :: r0).length := by
        have := hr2.length_le
        simp
        omega
      exact ((ih r2 hlen).2 _ hs2).mono B hr2
    · simp only [hop, if_false]
      exact Local.pure B _ (List.suffix_refl _) hs
  case unary =>
    intro ts ih hs
    obtain ⟨t, r0, rfl⟩ := List.exists_cons_of_ne_nil hs.ne_nil
    have hsuf : r0 <:+ t :: r0 := List.suffix_cons t r0
    have hshort : r0.length < (t :: r0).length := by simp
    rw [List.cons_append, unary_cons, unary_cons]
    by_cases hpre : t.kind = .bang ∨ t.kind = .minus
    · simp only [hpre, if_true]
      have hs0 := hs.tail (by rcases hpre with h | h <;> rw [h] <;> decide)
      exact (((ih r0 hshort).2 hs0).mono B hsuf).bind B fun right r2 _ hr2 hs2 =>
        Local.pure B _ hr2 hs2
    · simp only [hpre, if_false]
      by_cases hlit : t.kind.isLiteral
      · simp only [hlit, if_true]
        refine Local.pure B _ hsuf (hs.tail fun h => ?_)
        rw [h] at hlit
        cases hlit
      · simp only [hlit]
        by_cases hid : t.kind = .identifier
        · simp only [hid, if_true]
          exact Local.pure B _ hsuf (hs.tail (by rw [hid]; decide))
        · simp only [hid, if_false]
          by_cases hpar : t.kind = .leftParen
          · simp only [hpar, if_true]
            have hs0 := hs.tail (by rw [hpar]; decide)
            refine (((ih r0 hshort).1 hs0).mono B hsuf).bind B fun inner r2 _ hr2 hs2 => ?_
            obtain ⟨c, r3, rfl⟩ := List.exists_cons_of_ne_nil hs2.ne_nil
            by_cases hc : c.kind = .rightParen
            · simp only [List.cons_append, hc, if_true]
              exact Local.pure B _ ((List.suffix_cons c r3).trans hr2)
                (hs2.tail (by rw [hc]; decide))
            · simp only [List.cons_append, hc, if_false]
              exact Local.pure B _ hr2 hs2
          · simp only [hpar, if_false]
            exact Local.pure B _ (List.suffix_refl _) hs

/-! ## Statements -/

theorem terminate_local {ts r : List Token} (fault : SyntaxFault) (s : Stmt) (hr : r <:+ ts)
    (hs : HasSemicolon r) :
    LocalStmt B ts (terminate eof fault s (r ++ B)).result (terminate eof' fault s r).result := by
  obtain ⟨t, r', rfl⟩ := List.exists_cons_of_ne_nil hs.ne_nil
  rw [List.cons_append, terminate_result, terminate_result]
  by_cases ht : t.kind = .semicolon
  · simp only [ht, if_true]
    exact ⟨rfl, (List.suffix_cons t r').trans hr, fun _ h => by cases h⟩
  · simp only [ht, if_false]
    exact ⟨rfl, hr, fun _ _ => hs⟩

theorem exprStatement_local {ts : List Token} (fault : SyntaxFault) (make : Expr → Stmt)
    (hs : HasSemicolon ts) :
    LocalStmt B ts (exprStatement eof fault make (ts ++ B)).result
      (exprStatement eof' fault make ts).result := by
  rw [exprStatement_result, exprStatement_result]
  exact LocalStmt.bind B ((frame B eof eof' ts).1 hs) fun e r _ hr hsr =>
    terminate_local B eof eof' fault (make e) hr hsr

theorem varDeclaration_local {ts : List Token} (hs : HasSemicolon ts) :
    LocalStmt B ts (varDeclaration eof (ts ++ B)).result (varDeclaration eof' ts).result := by
  obtain ⟨name, rest, rfl⟩ := List.exists_cons_of_ne_nil hs.ne_nil
  by_cases hn : name.kind = .identifier
  · have hs0 := hs.tail (by rw [hn]; decide)
    obtain ⟨t, r, rfl⟩ := List.exists_cons_of_ne_nil hs0.ne_nil
    have hsuf : t :: r <:+ name :: t :: r := List.suffix_cons name _
    rw [List.cons_append, List.cons_append, varDeclaration_result, varDeclaration_result]
    simp only [hn, if_true]
    by_cases ht : t.kind = .equal
    · simp only [ht, if_true]
      exact (exprStatement_local B eof eof' _ _ (hs0.tail (by rw [ht]; decide))).mono B
        ((List.suffix_cons t r).trans hsuf)
    · simp only [ht, if_false]
      exact terminate_local B eof eof' _ _ hsuf hs0
  · rw [List.cons_append, varDeclaration_result, varDeclaration_result]
    simp only [hn, if_false]
    exact ⟨rfl, List.suffix_refl _, fun _ _ => hs⟩

theorem declaration_local {ts : List Token} (hs : HasSemicolon ts) :
    LocalStmt B ts (declaration eof (ts ++ B)).result (declaration eof' ts).result := by
  obtain ⟨t, r, rfl⟩ := List.exists_cons_of_ne_nil hs.ne_nil
  have hsuf : r <:+ t :: r := List.suffix_cons t r
  rw [List.cons_append, declaration_result, declaration_result]
  by_cases hv : t.kind = .varKw
  · simp only [hv, if_true]
    exact (varDeclaration_local B eof eof' (hs.tail (by rw [hv]; decide))).mono B hsuf
  · by_cases hp : t.kind = .printKw
    · simp only [if_neg hv, if_pos hp]
      exact (exprStatement_local B eof eof' _ _ (hs.tail (by rw [hp]; decide))).mono B hsuf
    · simp only [hv, hp, if_false]
      exact exprStatement_local B eof eof' _ _ hs

/-! ## Recovery -/

theorem skipToBoundary_suffix (ts : List Token) : skipToBoundary ts <:+ ts := by
  induction ts with
  | nil => exact List.suffix_refl _
  | cons t r ih =>
    rw [skipToBoundary]
    split
    · exact List.suffix_refl _
    · split
      · exact List.suffix_cons t r
      · exact ih.trans (List.suffix_cons t r)

theorem synchronize_suffix (ts : List Token) : synchronize ts <:+ ts := by
  rcases ts with _ | ⟨t, r⟩
  · exact List.suffix_refl _
  · rw [synchronize]
    split
    · exact List.suffix_cons t r
    · exact (skipToBoundary_suffix r).trans (List.suffix_cons t r)

theorem skipToBoundary_append (ts : List Token) (hs : HasSemicolon ts) :
    skipToBoundary (ts ++ B) = skipToBoundary ts ++ B := by
  induction ts with
  | nil => exact absurd rfl hs.ne_nil
  | cons t r ih =>
    rw [List.cons_append, skipToBoundary, skipToBoundary]
    by_cases hst : t.kind.startsStatement
    · simp [hst]
    · rw [if_neg hst, if_neg hst]
      by_cases hsc : t.kind = .semicolon
      · rw [if_pos hsc, if_pos hsc]
      · rw [if_neg hsc, if_neg hsc, ih (hs.tail hsc)]

theorem synchronize_append (ts : List Token) (hs : HasSemicolon ts) :
    synchronize (ts ++ B) = synchronize ts ++ B := by
  obtain ⟨t, r, rfl⟩ := List.exists_cons_of_ne_nil hs.ne_nil
  rw [List.cons_append, synchronize, synchronize]
  by_cases hsc : t.kind = .semicolon
  · simp [hsc]
  · simp [hsc, skipToBoundary_append B r (hs.tail hsc)]

/-- The declarations of `A ++ B`, when every nonempty suffix of `A` holds a `;`, are those of
`A` and then those of `B`, errors both; whatever end-of-input token `A` is read with. -/
theorem declarations_append (A : List Token)
    (hA : ∀ r, r <:+ A → r ≠ [] → HasSemicolon r) :
    declarations eof (A ++ B) =
      ((declarations eof' A).1 ++ (declarations eof B).1,
        (declarations eof' A).2 ++ (declarations eof B).2) := by
  induction hn : A.length using Nat.strongRecOn generalizing A with
  | _ n ih =>
    rcases A with _ | ⟨t, r⟩
    · have h0 : declarations eof' [] = ([], []) := by rw [declarations]
      simp [h0]
    · have hs := hA _ (List.suffix_refl _) (List.cons_ne_nil t r)
      have hloc := declaration_local B eof eof' hs
      rw [List.cons_append, declarations_cons, declarations_cons]
      rw [List.cons_append] at hloc
      obtain ⟨hres, hsuf, herr⟩ := hloc
      rw [hres]
      rcases hd : (declaration eof' (t :: r)).result with ⟨_ | s, rest⟩
      · -- an error: recovery resumes inside `A`, before its last `;`
        rename_i e
        rw [hd] at hsuf herr
        dsimp only at hsuf herr
        obtain ⟨u, rest, rfl⟩ := List.exists_cons_of_ne_nil (herr e rfl).ne_nil
        have hsync := synchronize_suffix (u :: rest)
        have hlen : (synchronize (u :: rest)).length < n := by
          have := length_synchronize_lt u rest
          have := hsuf.length_le
          omega
        simp only [List.cons_append]
        rw [← List.cons_append, synchronize_append B _ (herr e rfl),
          ih _ hlen _ (fun q hq => hA q (hq.trans (hsync.trans hsuf))) rfl]
      · rw [hd] at hsuf
        have hlen : rest.length < n := hn ▸ (declaration eof' (t :: r)).length_lt_of_result_ok hd
        simp only
        rw [ih _ hlen _ (fun q hq => hA q (hq.trans hsuf)) rfl]
        simp

end MiniLox.Parse

namespace MiniLox

/-- Parsing distributes over concatenation at a statement boundary: when `A` holds no
end-of-input token and is empty or ends with a `;`, the statements and the errors of `A ++ B`
are those of `A` followed by those of `B`. -/
theorem parse_append_at_statement_boundary (A B : List Token) (hA : ∀ t ∈ A, t.kind ≠ .eof)
    (hend : ∀ t ∈ A.getLast?, t.kind = .semicolon) :
    parse (A ++ B) = ((parse A).1 ++ (parse B).1, (parse A).2 ++ (parse B).2) := by
  have hnil : (Token.splitAtEnd []).1 = [] := rfl
  have hself : (Token.splitAtEnd A).1 = A := by
    simpa [hnil] using Token.splitAtEnd_append_fst A [] hA
  rcases eq_or_ne B [] with rfl | hB
  · have h0 : parse [] = ([], []) := by rw [parse_eq_declarations, hnil, Parse.declarations]
    simp [h0]
  · rw [parse_eq_declarations, parse_eq_declarations A, parse_eq_declarations B,
      Token.splitAtEnd_append_fst A B hA, Token.splitAtEnd_append_snd A B hA hB, hself]
    exact Parse.declarations_append _ _ _ A fun r hr hne => Parse.HasSemicolon.of_suffix hend hr hne

/-- `x = ;` fails at its `;` and recovery resumes right after it, so a `print` that follows is
parsed as it is alone. -/
theorem parse_append_after_failed_assignment :
    (∀ t ∈ ([⟨.identifier, "x", .absent, 1⟩, ⟨.equal, "=", .absent, 1⟩,
        ⟨.semicolon, ";", .absent, 1⟩] : List Token), t.kind ≠ .eof) ∧
    (∀ t ∈ ([⟨.identifier, "x", .absent, 1⟩, ⟨.equal, "=", .absent, 1⟩,
        ⟨.semicolon, ";", .absent, 1⟩] : List Token).getLast?, t.kind = .semicolon) ∧
    parse ([⟨.identifier, "x", .absent, 1⟩, ⟨.equal, "=", .absent, 1⟩,
        ⟨.semicolon, ";", .absent, 1⟩] ++
      [⟨.printKw, "print", .absent, 2⟩, ⟨.identifier, "x", .absent, 2⟩,
        ⟨.semicolon, ";", .absent, 2⟩]) =
      ((parse [⟨.identifier, "x", .absent, 1⟩, ⟨.equal, "=", .absent, 1⟩,
        ⟨.semicolon, ";", .absent, 1⟩]).1 ++
        (parse [⟨.printKw, "print", .absent, 2⟩, ⟨.identifier, "x", .absent, 2⟩,
        ⟨.semicolon, ";", .absent, 2⟩]).1,
       (parse [⟨.identifier, "x", .absent, 1⟩, ⟨.equal, "=", .absent, 1⟩,
        ⟨.semicolon, ";", .absent, 1⟩]).2 ++
        (parse [⟨.printKw, "print", .absent, 2⟩, ⟨.identifier, "x", .absent, 2⟩,
        ⟨.semicolon, ";", .absent, 2⟩]).2) :=
  ⟨by decide, by simp, parse_append_at_statement_boundary _ _ (by decide) (by simp)⟩

end MiniLox
