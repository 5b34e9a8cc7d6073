import MiniLox.Proofs.ScanMunch

/-!
# Listing the lexemes again

A source that scans with no fault can be listed again as its lexemes joined by single spaces,
and that listing scans to the same tokens: the same kinds, lexemes and literals, only the lines
may differ. A lexeme followed by a space or by nothing scans to its own token alone (`Relexes`):
a space ends every word and numeral, is no second character of an operator and starts no
comment, and a string's lexeme ends at its own closing quote. Every piece of a scan with no
fault has such a lexeme, so the spaced listing scans back to the same tokens, by induction on
the token list (`scan_spaced_lexemes`).
-/

set_option autoImplicit false

namespace MiniLox

def Token.withoutLine (t : Token) : TokenKind × String × Literal := (t.kind, t.lexeme, t.literal)

namespace Munch

theorem pick_fits {cs : List Char} {k : Kind} {n : Nat} (h : pick cs = some (k, n)) :
    k.fits (cs.take n) (cs.drop n) = true := by
  obtain ⟨k', -, hk'⟩ := List.exists_of_findSome?_eq_some h
  obtain ⟨m, hm, hkm⟩ := Option.map_eq_some_iff.1 hk'
  obtain ⟨rfl, rfl⟩ := Prod.mk.inj hkm
  exact (longestUpTo_eq_some.1 hm).2.2.1

theorem cons_of_isDigits {w : List Char} (hw : isDigits w = true) :
    ∃ c t, w = c :: t ∧ c.isDigit = true ∧ ∀ x ∈ t, x.isDigit = true := by
  cases w with
  | nil => simp [isDigits] at hw
  | cons c t =>
    have hd := mem_of_isDigits hw
    exact ⟨c, t, rfl, hd c List.mem_cons_self, fun x hx => hd x (List.mem_cons_of_mem c hx)⟩

theorem fractionOk_cons {x : Char} {f : List Char} (h : fractionOk (x :: f) = true) :
    x = '.' ∧ isDigits f = true := by
  unfold fractionOk at h
  split at h
  · next heq => cases heq
  · next frac heq =>
    obtain ⟨rfl, rfl⟩ := List.cons.inj heq
    exact ⟨rfl, h⟩
  · cases h

end Munch

namespace Scan

def Spaced (rest : List Char) : Prop := ∀ c ∈ rest.head?, c = ' '

/-- The lexeme of `t`, followed by a space or by nothing, scans to a token like `t` (its line
apart) and scanning goes on after it. -/
def Relexes (t : Token) : Prop :=
  t.kind ≠ .eof ∧ ∀ line rest, Spaced rest → ∃ u line', u.withoutLine = t.withoutLine ∧
    tokensFrom line (t.lexeme.toList ++ rest) = emit u (tokensFrom line' rest)

theorem run_spaced {p : Char → Bool} (hp : p ' ' = false) {l rest : List Char}
    (hl : ∀ x ∈ l, p x = true) (hr : Spaced rest) :
    (l ++ rest).takeWhile p = l ∧ (l ++ rest).dropWhile p = rest := by
  rw [List.takeWhile_append_of_pos hl, List.dropWhile_append_of_pos hl]
  cases rest with
  | nil => simp
  | cons c r =>
    obtain rfl := hr c rfl
    simp [hp]

theorem keyword?_ne_eof {w : String} {k : TokenKind} (h : keyword? w = some k) : k ≠ .eof := by
  unfold keyword? at h
  split at h <;> first | (cases h; decide) | cases h

theorem relexes_word {c : Char} {body : List Char} (hc : isIdentStart c = true)
    (hb : ∀ x ∈ body, isIdentChar x = true) (line : Nat) :
    ∀ t ∈ (Munch.Kind.word.output (c :: body) line).1, Relexes t := by
  have hrun := fun rest (hr : Spaced rest) => run_spaced (p := isIdentChar) (by decide) hb hr
  intro t ht
  simp only [Munch.Kind.output] at ht
  split at ht
  · next kw hkw =>
    obtain rfl := List.mem_singleton.1 ht
    refine ⟨keyword?_ne_eof hkw, fun line' rest hr => ?_⟩
    refine ⟨⟨kw, String.ofList (c :: body), .absent, line'⟩, line', rfl, ?_⟩
    rw [String.toList_ofList, List.cons_append, tokensFrom_word _ _ hc]
    simp only [(hrun rest hr).1, (hrun rest hr).2, hkw]
  · next hkw =>
    obtain rfl := List.mem_singleton.1 ht
    refine ⟨by simp, fun line' rest hr => ?_⟩
    refine ⟨⟨.identifier, String.ofList (c :: body), .text (String.ofList (c :: body)), line'⟩,
      line', rfl, ?_⟩
    rw [String.toList_ofList, List.cons_append, tokensFrom_word _ _ hc]
    simp only [(hrun rest hr).1, (hrun rest hr).2, hkw]

/-! ## Each kind of piece relexes -/

theorem singleKind?_start {c : Char} {k : TokenKind} (h : singleKind? c = some k) :
    isIdentStart c = false ∧ c.isDigit = false ∧ c ≠ '"' ∧
      ¬(c = ' ' ∨ c = '\t' ∨ c = '\r' ∨ c = '\n') := by
  unfold singleKind? at h
  split at h <;> first | decide | cases h

theorem pairKind?_start {c d : Char} {k : TokenKind} (h : pairKind? c d = some k) :
    isIdentStart c = false ∧ c.isDigit = false ∧ c ≠ '"' ∧
      ¬(c = ' ' ∨ c = '\t' ∨ c = '\r' ∨ c = '\n') ∧ c ≠ '/' := by
  unfold pairKind? at h
  split at h <;> first | decide | cases h

theorem pairKind?_ne_eof {c d : Char} {k : TokenKind} (h : pairKind? c d = some k) : k ≠ .eof := by
  unfold pairKind? at h
  split at h <;> first | (cases h; decide) | cases h

theorem singleKind?_ne_eof {c : Char} {k : TokenKind} (h : singleKind? c = some k) : k ≠ .eof := by
  unfold singleKind? at h
  split at h <;> first | (cases h; decide) | cases h

theorem relexes_single {c : Char} {k : TokenKind} (h : singleKind? c = some k) (line : Nat) :
    Relexes ⟨k, String.ofList [c], .absent, line⟩ := by
  obtain ⟨hi, hd, hq, hb⟩ := singleKind?_start h
  have hw : ¬(c = '_' ∨ Text.isLetter c = true) := by simpa [isIdentStart] using hi
  refine ⟨singleKind?_ne_eof h, fun line' rest hr => ⟨⟨k, String.ofList [c], .absent, line'⟩, line',
    rfl, ?_⟩⟩
  -- a space cannot be the second character of a two-character operator, nor start a comment
  have hc : ¬(c = '/' ∧ rest.head? = some '/') := by
    rintro ⟨-, h'⟩
    cases hr _ h'
  rw [String.toList_ofList, List.singleton_append, tokensFrom_operator line' hb hw hd hq hc]
  cases rest with
  | nil => simp [h]
  | cons d more =>
    obtain rfl := hr d rfl
    have hp : pairKind? c ' ' = none := by
      cases hpk : pairKind? c ' ' with
      | none => rfl
      | some k' => exact absurd (Munch.eq_of_pairKind hpk) (by decide)
    simp [hp, h]

theorem relexes_pair {c d : Char} {k : TokenKind} (h : pairKind? c d = some k) (line : Nat) :
    Relexes ⟨k, String.ofList [c, d], .absent, line⟩ := by
  obtain ⟨hi, hd, hq, hb, hs⟩ := pairKind?_start h
  have hw : ¬(c = '_' ∨ Text.isLetter c = true) := by simpa [isIdentStart] using hi
  refine ⟨pairKind?_ne_eof h, fun line' rest hr => ⟨⟨k, String.ofList [c, d], .absent, line'⟩,
    line', rfl, ?_⟩⟩
  rw [String.toList_ofList, List.cons_append, List.singleton_append,
    tokensFrom_operator line' hb hw hd hq (fun hc => hs hc.1)]
  simp [h]

theorem relexes_whole {w : List Char} (hw : Munch.isDigits w = true) (line : Nat) :
    Relexes ⟨.number, String.ofList w, .number (numberValue w []), line⟩ := by
  obtain ⟨c, t, rfl, hc, ht⟩ := Munch.cons_of_isDigits hw
  refine ⟨by simp, fun line' rest hr => ?_⟩
  obtain ⟨htake, hdrop⟩ := run_spaced (p := Char.isDigit) (by decide) ht hr
  -- what follows the digits is a space or nothing, so no fraction
  have hfrac : ∀ d more, (t ++ rest).dropWhile Char.isDigit = '.' :: d :: more →
      d.isDigit = false := fun d more h' => by
    rw [hdrop] at h'
    have := hr '.' (by simp [h'])
    cases this
  refine ⟨⟨.number, String.ofList (c :: t), .number (numberValue (c :: t) []), line'⟩, line', rfl,
    ?_⟩
  rw [String.toList_ofList, List.cons_append,
    tokensFrom_numeral_whole _ _ hc hfrac]
  simp only [htake, hdrop]

theorem relexes_point {w f : List Char} (hw : Munch.isDigits w = true)
    (hf : Munch.isDigits f = true) (line : Nat) :
    Relexes ⟨.number, String.ofList (w ++ '.' :: f), .number (numberValue w f), line⟩ := by
  obtain ⟨c, t, rfl, hc, ht⟩ := Munch.cons_of_isDigits hw
  obtain ⟨d, f', rfl, hd, hf'⟩ := Munch.cons_of_isDigits hf
  refine ⟨by simp, fun line' rest hr => ?_⟩
  obtain ⟨htake, hdrop⟩ := run_spaced (p := Char.isDigit) (by decide) hf' hr
  -- the digits before the point, then the point, which is no digit
  have hpoint : (t ++ '.' :: d :: (f' ++ rest)).takeWhile Char.isDigit = t ∧
      (t ++ '.' :: d :: (f' ++ rest)).dropWhile Char.isDigit = '.' :: d :: (f' ++ rest) := by
    rw [List.takeWhile_append_of_pos ht, List.dropWhile_append_of_pos ht]
    simp
  refine ⟨⟨.number, String.ofList (c :: t ++ '.' :: d :: f'), .number (numberValue (c :: t) (d :: f')),
    line'⟩, line', rfl, ?_⟩
  rw [String.toList_ofList]
  simp only [List.cons_append, List.append_assoc]
  rw [tokensFrom_numeral_frac _ _ _ hc hpoint.2 hd]
  simp only [hpoint.1, htake, hdrop, List.cons_append]

theorem relexes_string {body : List Char} (hb : ∀ x ∈ body, x ≠ '"') (line : Nat) :
    Relexes ⟨.string, String.ofList ('"' :: body ++ ['"']), .text (String.ofList body), line⟩ := by
  refine ⟨by simp, fun line' rest hr => ?_⟩
  have hne : ∀ x ∈ body, (x != '"') = true := fun x hx => by simpa using hb x hx
  -- the string runs to the first double quote after the opening one, its own closing quote
  have hrun : (body ++ '"' :: rest).takeWhile (· != '"') = body ∧
      (body ++ '"' :: rest).dropWhile (· != '"') = '"' :: rest := by
    rw [List.takeWhile_append_of_pos hne, List.dropWhile_append_of_pos hne]
    simp
  refine ⟨⟨.string, String.ofList ('"' :: body ++ ['"']), .text (String.ofList body),
    ((line' + body.count '\n' : Nat) : Int)⟩, line' + body.count '\n', rfl, ?_⟩
  rw [String.toList_ofList]
  simp only [List.cons_append, List.append_assoc, List.nil_append]
  rw [tokensFrom_string _ _ _ hrun.2]
  simp only [hrun.1, List.cons_append]

theorem relexes_numeral {p : List Char} (hw : Munch.isDigits (p.takeWhile Char.isDigit) = true)
    (hfrac : Munch.fractionOk (p.dropWhile Char.isDigit) = true) (line : Nat) :
    ∀ t ∈ (Munch.Kind.numeral.output p line).1, Relexes t := by
  have hp := (List.takeWhile_append_dropWhile (p := Char.isDigit) (l := p)).symm
  cases ha : p.dropWhile Char.isDigit with
  | nil =>
    rw [ha, List.append_nil] at hp
    rw [hp, Munch.numeral_output_whole hw]
    intro t ht
    obtain rfl := List.mem_singleton.1 ht
    exact relexes_whole hw line
  | cons x f =>
    rw [ha] at hfrac hp
    obtain ⟨rfl, hf⟩ := Munch.fractionOk_cons hfrac
    rw [hp, Munch.numeral_output_point hw hf]
    intro t ht
    obtain rfl := List.mem_singleton.1 ht
    exact relexes_point hw hf line

theorem output_relexes {k : Munch.Kind} {p r : List Char} (hk : k.fits p r = true) (line : Nat) :
    ∀ t ∈ (k.output p line).1, Relexes t := by
  cases k
  case word =>
    obtain ⟨c, body, rfl⟩ : ∃ c body, p = c :: body := by
      cases p with
      | nil => simp [Munch.Kind.fits] at hk
      | cons c body => exact ⟨c, body, rfl⟩
    simp only [Munch.Kind.fits, Bool.and_eq_true, List.all_eq_true] at hk
    exact relexes_word hk.1 hk.2 line
  case numeral =>
    simp only [Munch.Kind.fits, Bool.and_eq_true] at hk
    exact relexes_numeral hk.1 hk.2 line
  case string =>
    simp only [Munch.Kind.fits] at hk
    split at hk
    · next q =>
      simp only [Bool.and_eq_true, beq_iff_eq, List.all_eq_true] at hk
      obtain ⟨hlast, hbody⟩ := hk
      obtain ⟨body, rfl⟩ := List.getLast?_eq_some_iff.1 hlast
      rw [List.dropLast_concat] at hbody
      simp only [Munch.Kind.output, List.drop_succ_cons, List.drop_zero, List.dropLast_concat]
      intro t ht
      obtain rfl := List.mem_singleton.1 ht
      exact relexes_string (fun x hx => by simpa using hbody x hx) line
    · cases hk
  case operator =>
    simp only [Munch.Kind.fits, Option.isSome_iff_exists] at hk
    obtain ⟨kind, hkind⟩ := hk
    simp only [Munch.Kind.output, hkind]
    intro t ht
    obtain rfl := List.mem_singleton.1 ht
    -- an operator has one or two characters
    rcases p with _ | ⟨c, _ | ⟨d, _ | ⟨e, more⟩⟩⟩
    · cases hkind
    · exact relexes_single hkind line
    · exact relexes_pair hkind line
    · cases hkind
  all_goals simp [Munch.Kind.output]

/-! ## Whole scans -/

theorem tokenize_relexes (line : Nat) (cs : List Char) (h : (Munch.tokenize line cs).2 = []) :
    ∃ body e, (Munch.tokenize line cs).1 = body ++ [e] ∧
      e.withoutLine = (.eof, "", .absent) ∧ ∀ t ∈ body, Relexes t := by
  induction hn : cs.length using Nat.strongRecOn generalizing line cs with
  | _ n ih =>
    rw [Munch.tokenize] at h ⊢
    split
    · exact ⟨[], _, rfl, rfl, by simp⟩
    · next k m hp =>
      split at h
      · next hp' => rw [hp] at hp'; cases hp'
      · next k' m' hp' =>
        rw [hp] at hp'
        obtain ⟨rfl, rfl⟩ := Prod.mk.inj (Option.some.inj hp')
        obtain ⟨-, hrest⟩ := List.append_eq_nil_iff.1 h
        have hlen : (cs.drop m).length < n := by
          have := Munch.pick_length hp
          simp only [List.length_drop]
          omega
        obtain ⟨body, e, hbody, he, hrel⟩ := ih _ hlen _ _ hrest rfl
        refine ⟨(k.output (cs.take m) (line + (cs.take m).count '\n')).1 ++ body, e,
          by simp [hbody], he, fun t ht => ?_⟩
        rcases List.mem_append.1 ht with ht | ht
        · exact output_relexes (Munch.pick_fits hp) _ t ht
        · exact hrel t ht

theorem tokensFrom_spaced (toks : List Token) (h : ∀ t ∈ toks, Relexes t) (line : Nat) :
    (tokensFrom line ([' '].intercalate (toks.map (·.lexeme.toList)))).2 = [] ∧
      (tokensFrom line ([' '].intercalate (toks.map (·.lexeme.toList)))).1.map Token.withoutLine =
        toks.map Token.withoutLine ++ [(.eof, "", .absent)] := by
  induction toks generalizing line with
  | nil => simp [tokensFrom_nil, Token.withoutLine]
  | cons t rest ih =>
    obtain ⟨-, ht⟩ := h t List.mem_cons_self
    have hrest := fun t' h' => h t' (List.mem_cons_of_mem t h')
    cases rest with
    | nil =>
      obtain ⟨u, line', hu, heq⟩ := ht line [] (by simp [Spaced])
      rw [List.append_nil] at heq
      simp only [Token.withoutLine, Prod.mk.injEq] at hu
      simp [heq, emit, tokensFrom_nil, hu, Token.withoutLine]
    | cons t2 more =>
      -- the lexeme, a space, then the others
      obtain ⟨u, line', hu, heq⟩ := ht line (' ' :: [' '].intercalate
        (t2.lexeme.toList :: more.map (·.lexeme.toList))) (by simp [Spaced])
      obtain ⟨ih1, ih2⟩ := ih hrest line'
      simp only [List.map_cons, List.intercalate_cons_cons, List.append_assoc,
        List.singleton_append] at ih1 ih2 ⊢
      rw [heq, emit, tokensFrom_blank _ _ (.inl rfl)]
      exact ⟨ih1, by simp [ih2, hu]⟩

end Scan

/-- The lexemes of the tokens of a source that scans with no fault, joined by single spaces,
scan with no fault to the same tokens, lines apart. -/
theorem scan_spaced_lexemes (source : String) (h : (scan source).2 = []) :
    (scan (" ".intercalate (((scan source).1.filter (·.kind != .eof)).map (·.lexeme)))).2 = [] ∧
      (scan (" ".intercalate (((scan source).1.filter (·.kind != .eof)).map (·.lexeme)))).1.map
        Token.withoutLine = (scan source).1.map Token.withoutLine := by
  have hs := scan_eq_maximal_munch source
  rw [hs] at h
  obtain ⟨body, e, hbody, he, hrel⟩ := Scan.tokenize_relexes 1 source.toList h
  have hkinds : body.filter (·.kind != .eof) = body :=
    List.filter_eq_self.2 fun t ht => by simpa using (hrel t ht).1
  have he' : e.kind = .eof := congrArg Prod.fst he
  have hfilter : (body ++ [e]).filter (·.kind != .eof) = body := by
    simp [List.filter_append, hkinds, he']
  have hchars : (" ".intercalate (body.map (·.lexeme))).toList =
      [' '].intercalate (body.map (·.lexeme.toList)) := by
    simp [String.toList_intercalate, Function.comp_def]
  rw [hs, hbody, hfilter, scan, hchars]
  obtain ⟨h1, h2⟩ := Scan.tokensFrom_spaced body hrel 1
  exact ⟨h1, by rw [h2, List.map_append, List.map_singleton, he]⟩

/-- Two lines with a comment, a string holding a space and an operator of two characters list
again as `var s = "a b" ; print s >= 1.5 ;`. -/
theorem scan_spaced_lexemes_two_lines :
    (scan "var s = \"a b\"; // note\nprint s >= 1.5;").2 = [] ∧
      ((scan (" ".intercalate (((scan "var s = \"a b\"; // note\nprint s >= 1.5;").1.filter
        (·.kind != .eof)).map (·.lexeme)))).2 = [] ∧
      (scan (" ".intercalate (((scan "var s = \"a b\"; // note\nprint s >= 1.5;").1.filter
        (·.kind != .eof)).map (·.lexeme)))).1.map Token.withoutLine =
        (scan "var s = \"a b\"; // note\nprint s >= 1.5;").1.map Token.withoutLine) := by
  have h : (scan "var s = \"a b\"; // note\nprint s >= 1.5;").2 = [] := by decide +kernel
  exact ⟨h, scan_spaced_lexemes _ h⟩

end MiniLox
