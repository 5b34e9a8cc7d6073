import MiniLox.Proofs.Munch

/-!
# The scanner reads by maximal munch

`scan` decides each piece by its first character and a character or two of lookahead.
`Munch.tokenize` takes the first kind of piece some prefix makes and its longest prefix, with no
lookahead of its own. They give the same tokens and the same faults on every text: each case of
the scanner is a case of the munch reading (`Munch.tokenize_word` and its siblings), and a
numeral's value is what reading its text as a number gives.
-/

set_option autoImplicit false

namespace MiniLox

namespace Decimal

/-! ## Reading a numeral's text -/

theorem toLower_of_lt {c : Char} (h : c.toNat < 0x41) : c.toLower = c := by
  have hv : c.val.toNat = c.toNat := rfl
  unfold Char.toLower
  rw [dif_neg]
  simp only [ge_iff_le, UInt32.le_iff_toNat_le, not_and]
  simp
  omega

theorem Mantissa.read_digits (m : Mantissa) (ds r : List Char) (hds : ∀ x ∈ ds, x.isDigit = true) :
    Mantissa.read false m (ds ++ r) =
      Mantissa.read false ⟨ds.foldl (fun n d => 10 * n + (d.toNat - '0'.toNat)) m.value,
        m.count + ds.length, if m.point then m.afterPoint + ds.length else m.afterPoint,
        m.point⟩ r := by
  induction ds generalizing m with
  | nil => cases m; simp
  | cons x ds ih =>
    have hb := Munch.digit_bounds (hds x (by simp))
    have hu : x ≠ '_' := fun h => by rw [h] at hb; simp at hb
    have hp : x ≠ '.' := fun h => by rw [h] at hb; simp at hb
    rw [List.cons_append, Mantissa.read, if_neg hu, if_neg hp]
    simp only [digitValue, hds x (by simp), if_true]
    rw [ih _ fun y hy => hds y (by simp [hy])]
    cases m with
    | mk v c a p =>
      cases p <;> simp only [Nat.mul_comm, Nat.add_assoc, Nat.add_comm 1, if_true, if_false,
        Bool.false_eq_true, List.foldl_cons, List.length_cons]

theorem Mantissa.read_whole {w : List Char} (hw : ∀ x ∈ w, x.isDigit = true) :
    Mantissa.read false {} w = (⟨Scan.digitsValue w, w.length, 0, false⟩, []) := by
  have h := Mantissa.read_digits {} w [] hw
  rw [List.append_nil] at h
  rw [h, Mantissa.read]
  simp [Scan.digitsValue]

theorem Mantissa.read_point {w f : List Char} (hw : ∀ x ∈ w, x.isDigit = true)
    (hf : ∀ x ∈ f, x.isDigit = true) :
    Mantissa.read false {} (w ++ '.' :: f) =
      (⟨Scan.digitsValue (w ++ f), w.length + f.length, f.length, true⟩, []) := by
  have hf' := Mantissa.read_digits ⟨Scan.digitsValue w, w.length, 0, true⟩ f [] hf
  rw [List.append_nil] at hf'
  rw [Mantissa.read_digits {} w _ hw, Mantissa.read, if_neg (by decide), if_pos rfl]
  simp only [Bool.false_eq_true, if_false, Nat.zero_add]
  simp only [Scan.digitsValue] at hf' ⊢
  rw [hf', Mantissa.read, List.foldl_append]
  simp

theorem read?_decimal {text : List Char} {M : Mantissa}
    (hx : ∃ x t, text = x :: t ∧ x.isDigit = true)
    (hchars : ∀ y ∈ text, y.isDigit = true ∨ y = '.')
    (hread : Mantissa.read false {} text = (M, [])) (hM : M.count ≠ 0) :
    Numeral.read? (String.ofList text) =
      some (.finite false M.value (Nat.pow 10 M.afterPoint)) := by
  -- every character is below the letters, so no sign, no special word and no hex prefix
  have hlow : ∀ y ∈ text, y.toNat < 0x41 := fun y hy => by
    rcases hchars y hy with h | rfl
    · have := Munch.digit_bounds h
      omega
    · decide
  have hsign : readSign text = (false, text) := by
    obtain ⟨x, t, rfl, hx⟩ := hx
    have hb := Munch.digit_bounds hx
    unfold readSign
    split
    · next r h => simp at h; rw [h.1] at hb; simp at hb
    · next r h => simp at h; rw [h.1] at hb; simp at hb
    · rfl
  have hlower : text.map Char.toLower = text :=
    (List.map_congr_left fun y hy => toLower_of_lt (hlow y hy)).trans (List.map_id text)
  have hword : ∀ (w : String) (y : Char), y ∈ w.toList → 0x41 ≤ y.toNat →
      String.ofList text ≠ w := by
    intro w y hy hyb h
    rw [← h, String.toList_ofList] at hy
    exact absurd (hlow y hy) (by omega)
  have hspecial : readSpecial text = none := by
    unfold readSpecial
    simp only [hsign, hlower]
    rw [if_neg, if_neg]
    · rintro ⟨-, h⟩
      exact hword "nan" 'n' (by simp) (by decide) h
    · rintro (h | h)
      · exact hword "inf" 'i' (by simp) (by decide) h
      · exact hword "infinity" 'i' (by simp) (by decide) h
  have hnu : '_' ∉ text := fun h => by
    have := hlow '_' h
    simp at this
  unfold Numeral.read?
  simp only [String.toList_ofList, hspecial]
  unfold readFinite
  simp only [hsign]
  split
  · next r x y rest =>
    have hxl : x.toLower ≠ 'x' := by
      rw [toLower_of_lt (hlow x (by simp))]
      intro h
      have := hlow x (by simp)
      rw [h] at this
      simp at this
    simp [hxl, hread, hM]
    intro h
    exact absurd (by simpa using h) hnu
  · simp [hread, hM, hnu]

end Decimal

namespace Munch

theorem numeral_output_whole {w : List Char} (hw : isDigits w = true) (line : Nat) :
    Kind.numeral.output w line =
      ([⟨.number, String.ofList w, .number (Scan.numberValue w []), line⟩], []) := by
  have hd := mem_of_isDigits hw
  obtain ⟨x, t, rfl⟩ : ∃ x t, w = x :: t := by
    cases w with
    | nil => simp [isDigits] at hw
    | cons x t => exact ⟨x, t, rfl⟩
  have hr := Decimal.read?_decimal ⟨x, t, rfl, hd x (by simp)⟩ (fun y hy => .inl (hd y hy))
    (Decimal.Mantissa.read_whole hd) (by simp)
  simp only [Kind.output, hr]
  simp [Decimal.Numeral.toFloat, Decimal.Numeral.toBits, Scan.numberValue]

theorem numeral_output_point {w f : List Char} (hw : isDigits w = true) (hf : isDigits f = true)
    (line : Nat) :
    Kind.numeral.output (w ++ '.' :: f) line =
      ([⟨.number, String.ofList (w ++ '.' :: f), .number (Scan.numberValue w f), line⟩], []) := by
  have hwd := mem_of_isDigits hw
  have hfd := mem_of_isDigits hf
  obtain ⟨x, t, rfl⟩ : ∃ x t, w = x :: t := by
    cases w with
    | nil => simp [isDigits] at hw
    | cons x t => exact ⟨x, t, rfl⟩
  have hchars : ∀ y ∈ x :: t ++ '.' :: f, y.isDigit = true ∨ y = '.' := by
    intro y hy
    simp only [List.mem_append, List.mem_cons] at hy
    rcases hy with hy | hy | hy
    · exact .inl (hwd y (by simp [hy]))
    · exact .inr hy
    · exact .inl (hfd y hy)
  have hr : Decimal.Numeral.read? (String.ofList (x :: t ++ '.' :: f)) = _ :=
    Decimal.read?_decimal ⟨x, t ++ '.' :: f, rfl, hwd x (by simp)⟩ hchars
    (Decimal.Mantissa.read_point hwd hfd) (by simp)
  simp only [Kind.output, hr]
  simp [Decimal.Numeral.toFloat, Decimal.Numeral.toBits, Scan.numberValue]

end Munch

namespace Scan

variable (line : Nat)

/-! ## The scanner, case by case -/

theorem tokensFrom_nil : tokensFrom line [] = ([⟨.eof, "", .absent, line⟩], []) := by
  rw [tokensFrom.eq_def]

theorem tokensFrom_newline (cs : List Char) :
    tokensFrom line ('\n' :: cs) = tokensFrom (line + 1) cs := by
  rw [tokensFrom.eq_def]
  simp

theorem tokensFrom_blank {c : Char} (cs : List Char) (hc : c = ' ' ∨ c = '\t' ∨ c = '\r') :
    tokensFrom line (c :: cs) = tokensFrom line cs := by
  have hn : c ≠ '\n' := by rcases hc with rfl | rfl | rfl <;> decide
  rw [tokensFrom.eq_def]
  dsimp only
  rw [if_neg hn, if_pos hc]

theorem tokensFrom_numeral_frac {c d : Char} (cs more : List Char) (hc : c.isDigit = true)
    (hr : cs.dropWhile Char.isDigit = '.' :: d :: more) (hd : d.isDigit = true) :
    tokensFrom line (c :: cs) =
      let whole := c :: cs.takeWhile Char.isDigit
      let frac := d :: more.takeWhile Char.isDigit
      emit ⟨.number, String.ofList (whole ++ '.' :: frac), .number (numberValue whole frac), line⟩
        (tokensFrom line (more.dropWhile Char.isDigit)) := by
  have hn : c ≠ '\n' := fun h => by rw [h] at hc; cases hc
  have hb : ¬(c = ' ' ∨ c = '\t' ∨ c = '\r') := by
    rintro (rfl | rfl | rfl) <;> cases hc
  rw [tokensFrom.eq_def]
  dsimp only
  rw [if_neg hn, if_neg hb, if_pos hc]
  split
  · next d' more' h =>
    rw [hr] at h
    obtain ⟨rfl, rfl⟩ : d = d' ∧ more = more' := by simpa using h
    rw [if_pos hd]
    rfl
  · next h => exact absurd hr (h d more)

theorem tokensFrom_numeral_whole {c : Char} (cs : List Char) (hc : c.isDigit = true)
    (hr : ∀ d more, cs.dropWhile Char.isDigit = '.' :: d :: more → d.isDigit = false) :
    tokensFrom line (c :: cs) =
      let whole := c :: cs.takeWhile Char.isDigit
      emit ⟨.number, String.ofList whole, .number (numberValue whole []), line⟩
        (tokensFrom line (cs.dropWhile Char.isDigit)) := by
  have hn : c ≠ '\n' := fun h => by rw [h] at hc; cases hc
  have hb : ¬(c = ' ' ∨ c = '\t' ∨ c = '\r') := by
    rintro (rfl | rfl | rfl) <;> cases hc
  rw [tokensFrom.eq_def]
  dsimp only
  rw [if_neg hn, if_neg hb, if_pos hc]
  split
  · next d more h =>
    rw [if_neg (by simp [hr d more h])]
    simp [h]
  · rfl

theorem tokensFrom_string (cs rest : List Char) (hr : cs.dropWhile (· != '"') = '"' :: rest) :
    tokensFrom line ('"' :: cs) =
      let body := cs.takeWhile (· != '"')
      let endLine := line + body.count '\n'
      emit ⟨.string, String.ofList ('"' :: body ++ ['"']), .text (String.ofList body), endLine⟩
        (tokensFrom endLine rest) := by
  rw [tokensFrom.eq_def]
  dsimp only
  rw [if_neg (by decide), if_neg (by decide), if_neg (by decide), if_pos rfl]
  split
  · next h => rw [hr] at h; cases h
  · next q rest' h =>
    rw [hr] at h
    obtain ⟨-, rfl⟩ := List.cons.inj h
    push_cast
    rfl

theorem tokensFrom_unterminated (cs : List Char) (hr : cs.dropWhile (· != '"') = []) :
    tokensFrom line ('"' :: cs) =
      let endLine := line + (cs.takeWhile (· != '"')).count '\n'
      fail ⟨endLine, .unterminatedString⟩ (tokensFrom endLine []) := by
  rw [tokensFrom.eq_def]
  dsimp only
  rw [if_neg (by decide), if_neg (by decide), if_neg (by decide), if_pos rfl]
  split
  · push_cast
    rfl
  · next q rest' h => rw [hr] at h; cases h

theorem tokensFrom_word {c : Char} (cs : List Char) (hc : isIdentStart c = true) :
    tokensFrom line (c :: cs) =
      let word := String.ofList (c :: cs.takeWhile isIdentChar)
      emit (match keyword? word with
        | some k => ⟨k, word, .absent, line⟩
        | none => ⟨.identifier, word, .text word, line⟩)
        (tokensFrom line (cs.dropWhile isIdentChar)) := by
  have hhigh : ¬c.toNat < 0x41 := fun h =>
    Munch.not_wordStart_of_lt h (by simpa [isIdentStart] using hc)
  have hn : c ≠ '\n' := fun h => hhigh (by rw [h]; decide)
  have hb : ¬(c = ' ' ∨ c = '\t' ∨ c = '\r') := by
    rintro (rfl | rfl | rfl) <;> exact hhigh (by decide)
  have hd : c.isDigit = false := by
    cases h : c.isDigit
    · rfl
    · exact absurd (by have := Munch.digit_bounds h; omega) hhigh
  have hq : c ≠ '"' := fun h => hhigh (by rw [h]; decide)
  rw [tokensFrom.eq_def]
  dsimp only
  rw [if_neg hn, if_neg hb, if_neg (by simp [hd]), if_neg hq]
  exact if_pos hc

theorem tokensFrom_comment (cs : List Char) :
    tokensFrom line ('/' :: '/' :: cs) = tokensFrom line (cs.dropWhile (· != '\n')) := by
  rw [tokensFrom.eq_def]
  dsimp only
  rw [if_neg (by decide), if_neg (by decide), if_neg (by decide), if_neg (by decide),
    if_neg (by decide), if_pos (by simp)]
  simp

section Operators

variable {c : Char} {cs : List Char} (hb : ¬(c = ' ' ∨ c = '\t' ∨ c = '\r' ∨ c = '\n'))
  (hw : ¬(c = '_' ∨ Text.isLetter c = true)) (hd : c.isDigit = false) (hq : c ≠ '"')
  (hc : ¬(c = '/' ∧ cs.head? = some '/'))

include hb hw hd hq hc in
theorem tokensFrom_operator :
    tokensFrom line (c :: cs) =
      match cs with
      | d :: more =>
        match pairKind? c d with
        | some k => emit ⟨k, String.ofList [c, d], .absent, line⟩ (tokensFrom line more)
        | none =>
          match singleKind? c with
          | some k => emit ⟨k, String.singleton c, .absent, line⟩ (tokensFrom line cs)
          | none => fail ⟨line, .unexpectedChar⟩ (tokensFrom line cs)
      | [] =>
        match singleKind? c with
        | some k => emit ⟨k, String.singleton c, .absent, line⟩ (tokensFrom line [])
        | none => fail ⟨line, .unexpectedChar⟩ (tokensFrom line []) := by
  have hn : c ≠ '\n' := fun h => hb (.inr (.inr (.inr h)))
  have hb3 : ¬(c = ' ' ∨ c = '\t' ∨ c = '\r') := fun h =>
    hb (by rcases h with h | h | h <;> simp [h])
  have hi : isIdentStart c = false := by simpa [isIdentStart] using hw
  rw [tokensFrom.eq_def]
  dsimp only
  rw [if_neg hn, if_neg hb3, if_neg (by simp [hd]), if_neg hq, if_neg (by simp [hi]), if_neg hc]
  rcases cs with _ | ⟨d, more⟩ <;> rfl

end Operators

/-! ## The two readings agree -/

/-- Each case of the scanner is the piece the munch reading picks, and the rest is shorter. -/
theorem tokensFrom_eq_tokenize (line : Nat) (cs : List Char) :
    tokensFrom line cs = Munch.tokenize line cs := by
  induction hn : cs.length using Nat.strongRecOn generalizing line cs with
  | _ n ih =>
  have IH : ∀ line (r : List Char), r.length < n → tokensFrom line r = Munch.tokenize line r :=
    fun line r hr => ih _ hr line r rfl
  rcases cs with _ | ⟨c, cs⟩
  · rw [tokensFrom_nil, Munch.tokenize_nil]
  simp only [List.length_cons] at hn
  have hdrop : ∀ p : Char → Bool, (cs.dropWhile p).length < n := fun p => by
    have := length_dropWhile_le p cs
    omega
  by_cases hnl : c = '\n'
  · subst hnl
    rw [tokensFrom_newline, Munch.tokenize_blank _ _ (.inr (.inr (.inr rfl))), IH _ _ (by omega)]
    rfl
  by_cases hbl : c = ' ' ∨ c = '\t' ∨ c = '\r'
  · have hcount : [c].count '\n' = 0 := by simp [hnl]
    rw [tokensFrom_blank _ _ hbl, Munch.tokenize_blank _ _ (by rcases hbl with h | h | h <;> simp [h]),
      hcount, Nat.add_zero, IH _ _ (by omega)]
  by_cases hdig : c.isDigit = true
  · -- a point belongs to the numeral exactly when a digit follows it
    by_cases hfrac : ∃ d more, cs.dropWhile Char.isDigit = '.' :: d :: more ∧ d.isDigit = true
    · obtain ⟨d, more, hr, hd⟩ := hfrac
      have hlen : (more.dropWhile Char.isDigit).length < n := by
        have h1 := length_dropWhile_le Char.isDigit more
        have h2 := hdrop Char.isDigit
        rw [hr] at h2
        simp only [List.length_cons] at h2
        omega
      rw [tokensFrom_numeral_frac _ _ _ hdig hr hd, Munch.tokenize_numeral_frac _ _ _ hdig hr hd]
      dsimp only
      rw [Munch.numeral_output_point (Munch.isDigits_cons_takeWhile hdig cs)
        (Munch.isDigits_cons_takeWhile hd more), IH _ _ hlen]
      rfl
    · have hr : ∀ d more, cs.dropWhile Char.isDigit = '.' :: d :: more → d.isDigit = false :=
        fun d more h => by
          cases hd : d.isDigit
          · rfl
          · exact absurd ⟨d, more, h, hd⟩ hfrac
      rw [tokensFrom_numeral_whole _ _ hdig hr, Munch.tokenize_numeral_whole _ _ hdig hr]
      dsimp only
      rw [Munch.numeral_output_whole (Munch.isDigits_cons_takeWhile hdig cs), IH _ _ (hdrop _)]
      rfl
  by_cases hq : c = '"'
  · subst hq
    cases hr : cs.dropWhile (· != '"') with
    | nil =>
      rw [tokensFrom_unterminated _ _ hr, Munch.tokenize_unterminated _ _ hr]
      dsimp only
      rw [tokensFrom_nil, Munch.tokenize_nil]
    | cons x rest =>
      have hx : x = '"' := by simpa using Munch.head_dropWhile _ hr
      subst hx
      have hlen : rest.length < n := by
        have := hdrop (· != '"')
        rw [hr] at this
        simp only [List.length_cons] at this
        omega
      rw [tokensFrom_string _ _ _ hr, Munch.tokenize_string _ _ _ hr]
      dsimp only
      rw [IH _ _ hlen]
  by_cases hid : isIdentStart c = true
  · rw [tokensFrom_word _ _ hid, Munch.tokenize_word _ _ hid]
    dsimp only
    exact congrArg _ (IH _ _ (hdrop _))
  by_cases hcm : c = '/' ∧ cs.head? = some '/'
  · obtain ⟨rfl, hh⟩ := hcm
    obtain ⟨cs', rfl⟩ : ∃ cs', cs = '/' :: cs' := by
      cases cs with
      | nil => cases hh
      | cons y cs' => exact ⟨cs', by rw [Option.some.inj hh]⟩
    have hlen := length_dropWhile_le (· != '\n') cs'
    simp only [List.length_cons] at hn
    rw [tokensFrom_comment, Munch.tokenize_comment, IH _ _ (by omega)]
  -- what is left is an operator, or a character that starts no piece
  have hb : ¬(c = ' ' ∨ c = '\t' ∨ c = '\r' ∨ c = '\n') := by
    rintro (h | h | h | h)
    · exact hbl (.inl h)
    · exact hbl (.inr (.inl h))
    · exact hbl (.inr (.inr h))
    · exact hnl h
  have hw : ¬(c = '_' ∨ Text.isLetter c = true) := by simpa [isIdentStart] using hid
  have hd : c.isDigit = false := by simpa using hdig
  rw [tokensFrom_operator line hb hw hd hq hcm]
  cases cs with
  | nil =>
    have hpair : ∀ d more, ([] : List Char) = d :: more → pairKind? c d = none :=
      fun _ _ h => by cases h
    cases hs : singleKind? c with
    | some k =>
      simp only
      rw [Munch.tokenize_single line hb hw hd hq hcm hpair hs, IH _ _ (by omega)]
    | none =>
      simp only
      rw [Munch.tokenize_unexpected line hb hw hd hq hcm hpair hs, IH _ _ (by omega)]
  | cons d more =>
    simp only [List.length_cons] at hn
    cases hp : pairKind? c d with
    | some k =>
      simp only [hp]
      rw [Munch.tokenize_pair line hb hw hd hq hcm rfl hp, IH _ _ (by omega)]
    | none =>
      have hpair : ∀ d' more', d :: more = d' :: more' → pairKind? c d' = none :=
        fun d' more' h => by rw [← (List.cons.inj h).1]; exact hp
      cases hs : singleKind? c with
      | some k =>
        simp only [hp]
        rw [Munch.tokenize_single line hb hw hd hq hcm hpair hs, IH _ _ (by simp only [List.length_cons]; omega)]
      | none =>
        simp only [hp]
        rw [Munch.tokenize_unexpected line hb hw hd hq hcm hpair hs,
          IH _ _ (by simp only [List.length_cons]; omega)]

end Scan

/-- The scanner is the maximal-munch reading of the source from its first line. -/
theorem scan_eq_maximal_munch (source : String) : scan source = Munch.tokenize 1 source.toList :=
  Scan.tokensFrom_eq_tokenize 1 source.toList

end MiniLox
