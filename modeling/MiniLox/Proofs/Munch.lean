import MiniLox.Token.Scan

/-!
# Maximal munch

A declarative reading of source text into tokens. At each place, the kinds of piece are tried
in order: a blank, a `//` comment up to the end of its line, a word, a numeral, a string, a
string that runs to the end of the input, an operator, any other character. The first kind that
some prefix of the rest makes is taken, with its longest such prefix. A piece's token or fault is
on line one plus the line feeds up to its end, and the tokens end with an end-of-input token.

Each kind is a property of a whole piece (`Kind.fits`), so the choice of a piece is a search over
the prefixes of what is left (`pick`), with no lookahead of its own.
-/

set_option autoImplicit false

namespace MiniLox.Munch

/-- The kinds of piece, in the order they are tried. -/
inductive Kind where
  | blank | comment | word | numeral | string | unterminated | operator | other
deriving DecidableEq, Repr

def Kind.all : List Kind :=
  [.blank, .comment, .word, .numeral, .string, .unterminated, .operator, .other]

def operator? : List Char → Option TokenKind
  | [c] => Scan.singleKind? c
  | [c, d] => Scan.pairKind? c d
  | _ => none

def isDigits (w : List Char) : Bool := !w.isEmpty && w.all Char.isDigit

def fractionOk : List Char → Bool
  | [] => true
  | '.' :: frac => isDigits frac
  | _ => false

/-- Whether `p`, with `rest` after it, is a piece of the kind: a space, tab, carriage return or
line feed; `//` and no line feed; a letter or `_` followed by letters, digits and `_`;
`[0-9]+('.'[0-9]+)?`; a double quote, no double quote, a double quote; a double quote and no
double quote up to the end of the input; an operator; one character. -/
def Kind.fits : Kind → List Char → List Char → Bool
  | .blank, p, _ => p == [' '] || p == ['\t'] || p == ['\r'] || p == ['\n']
  | .comment, p, _ => match p with
    | '/' :: '/' :: body => body.all (· != '\n')
    | _ => false
  | .word, p, _ => match p with
    | c :: body =>
      (c == '_' || Text.isLetter c) && body.all fun d => (d == '_' || Text.isLetter d) || d.isDigit
    | [] => false
  | .numeral, p, _ => isDigits (p.takeWhile Char.isDigit) && fractionOk (p.dropWhile Char.isDigit)
  | .string, p, _ => match p with
    | '"' :: q => q.getLast? == some '"' && q.dropLast.all (· != '"')
    | _ => false
  | .unterminated, p, rest => rest.isEmpty && match p with
    | '"' :: body => body.all (· != '"')
    | _ => false
  | .operator, p, _ => (operator? p).isSome
  | .other, p, _ => p.length == 1

def longestUpTo (ok : Nat → Bool) : Nat → Option Nat
  | 0 => none
  | n + 1 => if ok (n + 1) then some (n + 1) else longestUpTo ok n

def Kind.longest (k : Kind) (cs : List Char) : Option Nat :=
  longestUpTo (fun m => k.fits (cs.take m) (cs.drop m)) cs.length

/-- The first kind that some prefix of `cs` makes, and the length of its longest such prefix. -/
def pick (cs : List Char) : Option (Kind × Nat) :=
  Kind.all.findSome? fun k => (k.longest cs).map (k, ·)

def Kind.output (k : Kind) (p : List Char) (line : Nat) : List Token × List LexError :=
  let text := String.ofList p
  match k with
  | .blank | .comment => ([], [])
  | .word => match Scan.keyword? text with
    | some kw => ([⟨kw, text, .absent, line⟩], [])
    | none => ([⟨.identifier, text, .text text, line⟩], [])
  | .numeral => match Decimal.Numeral.read? text with
    | some n => ([⟨.number, text, .number n.toFloat, line⟩], [])
    | none => ([], [])
  | .string => ([⟨.string, text, .text (String.ofList (p.drop 1).dropLast), line⟩], [])
  | .unterminated => ([], [⟨line, .unterminatedString⟩])
  | .operator => match operator? p with
    | some kind => ([⟨kind, text, .absent, line⟩], [])
    | none => ([], [])
  | .other => ([], [⟨line, .unexpectedChar⟩])

theorem longestUpTo_eq_some {ok : Nat → Bool} {n m : Nat} :
    longestUpTo ok n = some m ↔
      0 < m ∧ m ≤ n ∧ ok m = true ∧ ∀ j, m < j → j ≤ n → ok j = false := by
  induction n with
  | zero => simp [longestUpTo]; omega
  | succ n ih =>
    rw [longestUpTo]
    by_cases hn : ok (n + 1) = true
    · rw [if_pos hn]
      constructor
      · rintro ⟨⟩
        exact ⟨by omega, Nat.le_refl _, hn, fun j h1 h2 => absurd h2 (by omega)⟩
      · rintro ⟨-, hm, hok, hmax⟩
        by_cases hmn : m = n + 1
        · rw [hmn]
        · rw [hmax (n + 1) (by omega) (Nat.le_refl _)] at hn
          cases hn
    · rw [if_neg hn, ih]
      constructor
      · rintro ⟨h0, hm, hok, hmax⟩
        refine ⟨h0, by omega, hok, fun j h1 h2 => ?_⟩
        by_cases hj : j = n + 1
        · rw [hj]
          simpa using hn
        · exact hmax j h1 (by omega)
      · rintro ⟨h0, hm, hok, hmax⟩
        have hmn : m ≠ n + 1 := fun h => hn (h ▸ hok)
        exact ⟨h0, by omega, hok, fun j h1 h2 => hmax j h1 (by omega)⟩

theorem longestUpTo_eq_none {ok : Nat → Bool} {n : Nat} :
    longestUpTo ok n = none ↔ ∀ j, 0 < j → j ≤ n → ok j = false := by
  induction n with
  | zero => simp [longestUpTo]; omega
  | succ n ih =>
    rw [longestUpTo]
    by_cases hn : ok (n + 1) = true
    · rw [if_pos hn]
      constructor
      · rintro ⟨⟩
      · intro h
        rw [h (n + 1) (by omega) (Nat.le_refl _)] at hn
        cases hn
    · rw [if_neg hn, ih]
      constructor
      · intro h j h0 hj
        by_cases hjn : j = n + 1
        · rw [hjn]
          simpa using hn
        · exact h j h0 (by omega)
      · exact fun h j h0 hj => h j h0 (by omega)

theorem pick_length {cs : List Char} {k : Kind} {n : Nat} (h : pick cs = some (k, n)) :
    0 < n ∧ n ≤ cs.length := by
  obtain ⟨k', -, hk'⟩ := List.exists_of_findSome?_eq_some h
  obtain ⟨m, hm, hkm⟩ := Option.map_eq_some_iff.1 hk'
  obtain ⟨-, rfl⟩ := Prod.mk.inj hkm
  obtain ⟨h0, hle, -⟩ := longestUpTo_eq_some.1 hm
  exact ⟨h0, hle⟩

/-- The tokens and faults of `cs`, read from line `line` on: the first kind of piece that a
prefix makes, its longest prefix, what it shows, then the rest; at the end an end-of-input
token. -/
def tokenize (line : Nat) (cs : List Char) : List Token × List LexError :=
  match _h : pick cs with
  | none => ([⟨.eof, "", .absent, line⟩], [])
  | some (k, n) =>
    let p := cs.take n
    let line' := line + p.count '\n'
    let after := tokenize line' (cs.drop n)
    ((k.output p line').1 ++ after.1, (k.output p line').2 ++ after.2)
termination_by cs.length
decreasing_by
  have := pick_length _h
  simp only [List.length_drop]
  omega

theorem tokenize_nil (line : Nat) : tokenize line [] = ([⟨.eof, "", .absent, line⟩], []) := by
  rw [tokenize]
  split
  · rfl
  · next k n h =>
    have := pick_length h
    simp only [List.length_nil] at this
    omega

theorem tokenize_of_pick {cs : List Char} {k : Kind} {n : Nat} (line : Nat)
    (h : pick cs = some (k, n)) :
    tokenize line cs =
      let line' := line + (cs.take n).count '\n'
      ((k.output (cs.take n) line').1 ++ (tokenize line' (cs.drop n)).1,
        (k.output (cs.take n) line').2 ++ (tokenize line' (cs.drop n)).2) := by
  rw [tokenize]
  split
  · next h' => rw [h] at h'; cases h'
  · next k' n' h' =>
    rw [h] at h'
    obtain ⟨rfl, rfl⟩ := Prod.mk.inj (Option.some.inj h')
    rfl

/-! ## Choosing a piece -/

theorem Kind.longest_eq_some {k : Kind} {cs : List Char} {n : Nat} (h0 : 0 < n)
    (hn : n ≤ cs.length) (hfit : k.fits (cs.take n) (cs.drop n) = true)
    (hmax : ∀ j, n < j → j ≤ cs.length → k.fits (cs.take j) (cs.drop j) = false) :
    k.longest cs = some n :=
  longestUpTo_eq_some.2 ⟨h0, hn, hfit, hmax⟩

theorem Kind.longest_eq_none_of_head {k : Kind} {c : Char} (r : List Char)
    (h : ∀ q rest, k.fits (c :: q) rest = false) : k.longest (c :: r) = none := by
  refine longestUpTo_eq_none.2 fun j h0 _ => ?_
  obtain ⟨j, rfl⟩ : ∃ i, j = i + 1 := ⟨j - 1, by omega⟩
  exact h _ _

theorem pick_eq_some {cs : List Char} {k : Kind} {n : Nat} (hk : k.longest cs = some n)
    (hb : ∀ k' ∈ Kind.all.takeWhile (· != k), k'.longest cs = none) :
    pick cs = some (k, n) := by
  cases k <;> simp [Kind.all] at hb <;> simp [pick, Kind.all, hk, hb]

/-! ## Prefixes and runs -/

section Runs

variable {α : Type} (p : α → Bool)

theorem take_all_iff : ∀ {l : List α} {j : Nat}, j ≤ l.length →
    ((l.take j).all p = true ↔ j ≤ (l.takeWhile p).length)
  | [], j, hj => by simp at hj; simp [hj]
  | a :: l, 0, _ => by simp
  | a :: l, j + 1, hj => by
    have ih := take_all_iff (l := l) (j := j) (by simpa using hj)
    by_cases ha : p a = true
    · simp [ha, ih]
    · simp [ha]

theorem take_length_takeWhile : ∀ l : List α, l.take (l.takeWhile p).length = l.takeWhile p
  | [] => rfl
  | a :: l => by
    by_cases ha : p a = true
    · simp [ha, take_length_takeWhile l]
    · simp [ha]

theorem drop_length_takeWhile : ∀ l : List α, l.drop (l.takeWhile p).length = l.dropWhile p
  | [] => rfl
  | a :: l => by
    by_cases ha : p a = true
    · simp [ha, drop_length_takeWhile l]
    · simp [ha]

theorem length_takeWhile_le (l : List α) : (l.takeWhile p).length ≤ l.length :=
  (List.takeWhile_prefix p).length_le

theorem head_dropWhile {l : List α} {a : α} {r : List α} (h : l.dropWhile p = a :: r) :
    p a = false := by
  have := List.head_dropWhile_not p (l := l) (by simp [h])
  simpa [h] using this

end Runs

theorem Text.isLetter_of_lt {c : Char} (h : c.toNat < 0x41) : Text.isLetter c = false := by
  have h80 : c.toNat < 0x80 := by omega
  have hv : c.val.toNat = c.toNat := rfl
  have hupper : c.isUpper = false := by
    show decide (c.val ≥ 'A'.val ∧ c.val ≤ 'Z'.val) = false
    simp only [decide_eq_false_iff_not, not_and, ge_iff_le, UInt32.le_iff_toNat_le]
    intro h'
    simp at h'
    omega
  have hlower : c.isLower = false := by
    show (c.val ≥ 'a'.val && c.val ≤ 'z'.val) = false
    simp only [Bool.and_eq_false_iff, decide_eq_false_iff_not, ge_iff_le, UInt32.le_iff_toNat_le]
    left
    simp
    omega
  unfold Text.isLetter
  rw [if_pos h80]
  show (c.isUpper || c.isLower) = false
  rw [hupper, hlower]
  rfl

/-! ## How each kind of piece starts -/

section Heads

variable {c : Char} {q rest : List Char}

theorem fits_blank (h : Kind.blank.fits (c :: q) rest = true) :
    q = [] ∧ (c = ' ' ∨ c = '\t' ∨ c = '\r' ∨ c = '\n') := by
  simp [Kind.fits] at h
  rcases h with ((⟨rfl, rfl⟩ | ⟨rfl, rfl⟩) | ⟨rfl, rfl⟩) | ⟨rfl, rfl⟩ <;> simp

theorem fits_comment (h : Kind.comment.fits (c :: q) rest = true) :
    c = '/' ∧ ∃ body, q = '/' :: body := by
  simp only [Kind.fits] at h
  split at h
  · next body heq => exact ⟨(List.cons.inj heq).1, body, (List.cons.inj heq).2⟩
  · cases h

theorem fits_word (h : Kind.word.fits (c :: q) rest = true) : c = '_' ∨ Text.isLetter c = true := by
  simp only [Kind.fits, Bool.and_eq_true, Bool.or_eq_true, beq_iff_eq] at h
  exact h.1

theorem fits_numeral (h : Kind.numeral.fits (c :: q) rest = true) : c.isDigit = true := by
  cases hc : c.isDigit
  · simp [Kind.fits, isDigits, hc] at h
  · rfl

theorem fits_string (h : Kind.string.fits (c :: q) rest = true) : c = '"' := by
  simp only [Kind.fits] at h
  split at h
  · next heq => exact (List.cons.inj heq).1
  · cases h

theorem fits_unterminated (h : Kind.unterminated.fits (c :: q) rest = true) : c = '"' := by
  simp only [Kind.fits, Bool.and_eq_true] at h
  obtain ⟨-, h⟩ := h
  split at h
  · next heq => exact (List.cons.inj heq).1
  · cases h

end Heads

/-! ## Reading one piece -/

section Pieces

variable (line : Nat)

theorem not_wordStart_of_lt {c : Char} (h : c.toNat < 0x41) : ¬(c = '_' ∨ Text.isLetter c = true) := by
  rintro (rfl | hl)
  · simp at h
  · rw [Text.isLetter_of_lt h] at hl
    cases hl

theorem tokenize_blank {c : Char} (cs : List Char)
    (hc : c = ' ' ∨ c = '\t' ∨ c = '\r' ∨ c = '\n') :
    tokenize line (c :: cs) = tokenize (line + [c].count '\n') cs := by
  have hfit : Kind.blank.fits [c] cs = true := by
    rcases hc with rfl | rfl | rfl | rfl <;> rfl
  have hpick : pick (c :: cs) = some (.blank, 1) := by
    refine pick_eq_some (Kind.longest_eq_some (by omega) (by simp) hfit fun j hj hle => ?_)
      (by simp [Kind.all])
    obtain ⟨i, rfl⟩ : ∃ i, j = i + 2 := ⟨j - 2, by omega⟩
    refine Bool.eq_false_iff.2 fun h => ?_
    rw [List.take_succ_cons] at h
    have hnil := (fits_blank h).1
    simp only [List.take_eq_nil_iff] at hnil
    simp only [List.length_cons] at hle
    rcases hnil with h0 | rfl
    · omega
    · simp at hle
  rw [tokenize_of_pick line hpick]
  simp [Kind.output]

theorem tokenize_word {c : Char} (cs : List Char) (hc : Scan.isIdentStart c = true) :
    tokenize line (c :: cs) =
      let word := String.ofList (c :: cs.takeWhile Scan.isIdentChar)
      Scan.emit (match Scan.keyword? word with
        | some k => ⟨k, word, .absent, line⟩
        | none => ⟨.identifier, word, .text word, line⟩)
        (tokenize line (cs.dropWhile Scan.isIdentChar)) := by
  have hc' : c = '_' ∨ Text.isLetter c = true := by simpa [Scan.isIdentStart] using hc
  have hhigh : ¬c.toNat < 0x41 := fun h => not_wordStart_of_lt h hc'
  have hblank : ∀ q rest, Kind.blank.fits (c :: q) rest = false := fun q rest =>
    Bool.eq_false_iff.2 fun h => hhigh (by rcases (fits_blank h).2 with rfl | rfl | rfl | rfl <;> decide)
  have hcomment : ∀ q rest, Kind.comment.fits (c :: q) rest = false := fun q rest =>
    Bool.eq_false_iff.2 fun h => hhigh (by rw [(fits_comment h).1]; decide)
  have hle := length_takeWhile_le Scan.isIdentChar cs
  have hpick : pick (c :: cs) = some (.word, (cs.takeWhile Scan.isIdentChar).length + 1) := by
    refine pick_eq_some (Kind.longest_eq_some (by omega) (by simp; omega) ?_ fun j hj hj' => ?_) ?_
    · rw [List.take_succ_cons, take_length_takeWhile]
      simp only [Kind.fits, Bool.and_eq_true]
      exact ⟨hc, List.all_takeWhile⟩
    · obtain ⟨i, rfl⟩ : ∃ i, j = i + 1 := ⟨j - 1, by omega⟩
      simp only [List.length_cons] at hj'
      have hall : (cs.take i).all Scan.isIdentChar = false :=
        Bool.eq_false_iff.2 fun h => by rw [take_all_iff _ (by omega)] at h; omega
      rw [List.take_succ_cons]
      simp only [Kind.fits, Bool.and_eq_false_iff]
      exact .inr hall
    · simp [Kind.all]
      exact ⟨Kind.longest_eq_none_of_head cs hblank, Kind.longest_eq_none_of_head cs hcomment⟩
  have hnl : Scan.isIdentChar '\n' = false := by
    simp [Scan.isIdentChar, Scan.isIdentStart, Text.isLetter_of_lt (show '\n'.toNat < 0x41 by decide)]
  have hcount : (c :: cs.takeWhile Scan.isIdentChar).count '\n' = 0 := by
    refine List.count_eq_zero.2 fun hm => ?_
    rcases List.mem_cons.1 hm with h | h
    · exact hhigh (by rw [← h]; decide)
    · rw [List.all_eq_true.1 List.all_takeWhile _ h] at hnl
      cases hnl
  rw [tokenize_of_pick line hpick]
  simp only [List.take_succ_cons, take_length_takeWhile, List.drop_succ_cons, drop_length_takeWhile,
    hcount, Nat.add_zero, Kind.output, Scan.emit]
  split <;> rfl

theorem tokenize_comment (cs : List Char) :
    tokenize line ('/' :: '/' :: cs) = tokenize line (cs.dropWhile (· != '\n')) := by
  have hle := length_takeWhile_le (· != '\n') cs
  have hblank : ∀ q rest, Kind.blank.fits ('/' :: q) rest = false := fun q rest =>
    Bool.eq_false_iff.2 fun h => by rcases (fits_blank h).2 with h | h | h | h <;> cases h
  have hpick : pick ('/' :: '/' :: cs) =
      some (.comment, (cs.takeWhile (· != '\n')).length + 2) := by
    refine pick_eq_some (Kind.longest_eq_some (by omega) (by simp; omega) ?_ fun j hj hj' => ?_) ?_
    · rw [List.take_succ_cons, List.take_succ_cons, take_length_takeWhile]
      exact List.all_takeWhile
    · obtain ⟨i, rfl⟩ : ∃ i, j = i + 2 := ⟨j - 2, by omega⟩
      simp only [List.length_cons] at hj'
      rw [List.take_succ_cons, List.take_succ_cons]
      exact Bool.eq_false_iff.2 fun h => by
        rw [Kind.fits, take_all_iff _ (by omega)] at h
        omega
    · simp [Kind.all]
      exact Kind.longest_eq_none_of_head _ hblank
  have hcount : ('/' :: '/' :: cs.takeWhile (· != '\n')).count '\n' = 0 := by
    refine List.count_eq_zero.2 fun hm => ?_
    rcases List.mem_cons.1 hm with h | hm
    · cases h
    rcases List.mem_cons.1 hm with h | h
    · cases h
    · simpa using List.all_eq_true.1 List.all_takeWhile _ h
  rw [tokenize_of_pick line hpick]
  simp only [List.take_succ_cons, take_length_takeWhile, List.drop_succ_cons,
    drop_length_takeWhile, hcount, Nat.add_zero, Kind.output, List.nil_append]

theorem longest_quote {k : Kind} {cs : List Char} (hk : k ∈ [Kind.blank, .comment, .word, .numeral]) :
    k.longest ('"' :: cs) = none := by
  refine Kind.longest_eq_none_of_head cs fun q r => Bool.eq_false_iff.2 fun h => ?_
  simp only [List.mem_cons, List.not_mem_nil, or_false] at hk
  rcases hk with rfl | rfl | rfl | rfl
  · rcases (fits_blank h).2 with h | h | h | h <;> cases h
  · cases (fits_comment h).1
  · exact not_wordStart_of_lt (by decide) (fits_word h)
  · cases fits_numeral h

theorem tokenize_string (cs rest : List Char) (hr : cs.dropWhile (· != '"') = '"' :: rest) :
    tokenize line ('"' :: cs) =
      let body := cs.takeWhile (· != '"')
      let endLine := line + body.count '\n'
      Scan.emit ⟨.string, String.ofList ('"' :: body ++ ['"']), .text (String.ofList body), endLine⟩
        (tokenize endLine rest) := by
  dsimp only
  generalize hb : cs.takeWhile (· != '"') = body
  have hcs : cs = body ++ '"' :: rest := by
    rw [← hb, ← hr]
    exact List.takeWhile_append_dropWhile.symm
  have hall : body.all (· != '"') = true := hb ▸ List.all_takeWhile
  have hlen : cs.length = body.length + rest.length + 1 := by rw [hcs]; simp; omega
  have hpick : pick ('"' :: cs) = some (.string, body.length + 2) := by
    refine pick_eq_some (Kind.longest_eq_some (by omega) (by simp; omega) ?_ fun j hj hj' => ?_) ?_
    · rw [List.take_succ_cons, hcs, List.take_append, List.take_of_length_le (by omega)]
      simp only [Kind.fits, Nat.add_sub_cancel_left, List.take_succ_cons, List.take_zero]
      simp [hall]
    -- a longer prefix reaches past the closing quote, which then stands inside it
    · obtain ⟨i, rfl⟩ : ∃ i, j = i + 1 := ⟨j - 1, by omega⟩
      simp only [List.length_cons] at hj'
      rw [List.take_succ_cons]
      refine Bool.eq_false_iff.2 fun h => ?_
      simp only [Kind.fits, Bool.and_eq_true] at h
      have hdrop : (cs.take i).dropLast = cs.take (i - 1) := by
        rw [List.dropLast_eq_take, List.take_take, List.length_take]
        congr 1
        omega
      rw [hdrop, take_all_iff _ (by omega), hb] at h
      omega
    · simp [Kind.all]
      exact ⟨longest_quote (by simp), longest_quote (by simp), longest_quote (by simp),
        longest_quote (by simp)⟩
  have htake : ('"' :: cs).take (body.length + 2) = '"' :: body ++ ['"'] := by
    rw [List.take_succ_cons, hcs, List.take_append, List.take_of_length_le (by omega)]
    simp
  have hdrop : ('"' :: cs).drop (body.length + 2) = rest := by
    rw [List.drop_succ_cons, hcs, List.drop_append]
    simp
  rw [tokenize_of_pick line hpick, htake, hdrop]
  simp [Kind.output, Scan.emit]

theorem tokenize_unterminated (cs : List Char) (hr : cs.dropWhile (· != '"') = []) :
    tokenize line ('"' :: cs) =
      let endLine := line + (cs.takeWhile (· != '"')).count '\n'
      Scan.fail ⟨endLine, .unterminatedString⟩ (tokenize endLine []) := by
  have hcs : cs.takeWhile (· != '"') = cs := by
    simpa [hr] using (List.takeWhile_append_dropWhile (p := (· != '"')) (l := cs))
  have hall : cs.all (· != '"') = true := hcs ▸ List.all_takeWhile
  have hstring : Kind.string.longest ('"' :: cs) = none := by
    refine longestUpTo_eq_none.2 fun j hj _ => ?_
    obtain ⟨i, rfl⟩ : ∃ i, j = i + 1 := ⟨j - 1, by omega⟩
    rw [List.take_succ_cons]
    refine Bool.eq_false_iff.2 fun h => ?_
    simp only [Kind.fits, Bool.and_eq_true, beq_iff_eq] at h
    have hmem : '"' ∈ cs := List.mem_of_mem_take (List.mem_of_getLast? h.1)
    simpa using List.all_eq_true.1 hall _ hmem
  have hpick : pick ('"' :: cs) = some (.unterminated, cs.length + 1) := by
    refine pick_eq_some (Kind.longest_eq_some (by omega) (by simp) ?_ fun j hj hj' => ?_) ?_
    · rw [List.take_of_length_le (by simp), List.drop_of_length_le (by simp)]
      simp [Kind.fits, hall]
    · simp at hj'
      omega
    · simp [Kind.all]
      exact ⟨longest_quote (by simp), longest_quote (by simp), longest_quote (by simp),
        longest_quote (by simp), hstring⟩
  dsimp only
  rw [tokenize_of_pick line hpick, List.take_of_length_le (by simp),
    List.drop_of_length_le (by simp), hcs]
  simp [Kind.output, Scan.fail]

theorem digit_bounds {c : Char} (hc : c.isDigit = true) : 48 ≤ c.toNat ∧ c.toNat ≤ 57 := by
  have hv : c.val.toNat = c.toNat := rfl
  simp only [Char.isDigit, Bool.and_eq_true, decide_eq_true_eq, ge_iff_le,
    UInt32.le_iff_toNat_le] at hc
  simp at hc
  omega

theorem longest_digit {k : Kind} {c : Char} {cs : List Char}
    (hk : k ∈ [Kind.blank, .comment, .word]) (hc : c.isDigit = true) : k.longest (c :: cs) = none := by
  have hb := digit_bounds hc
  refine Kind.longest_eq_none_of_head cs fun q r => Bool.eq_false_iff.2 fun h => ?_
  simp only [List.mem_cons, List.not_mem_nil, or_false] at hk
  rcases hk with rfl | rfl | rfl
  · rcases (fits_blank h).2 with rfl | rfl | rfl | rfl <;> simp at hb
  · rw [(fits_comment h).1] at hb
    simp at hb
  · rcases fits_word h with rfl | hl
    · simp at hb
    · rw [Text.isLetter_of_lt (by omega)] at hl
      cases hl

theorem fits_numeral_append {w r rest : List Char} (hw : isDigits w = true)
    (hr : ∀ x ∈ r.head?, x.isDigit = false) : Kind.numeral.fits (w ++ r) rest = fractionOk r := by
  have hwall : ∀ x ∈ w, x.isDigit = true := by
    simp only [isDigits, Bool.and_eq_true, List.all_eq_true] at hw
    exact hw.2
  have htake : (w ++ r).takeWhile Char.isDigit = w := by
    rw [List.takeWhile_append_of_pos hwall]
    cases r with
    | nil => simp
    | cons x r => simp [hr x rfl]
  have hdrop : (w ++ r).dropWhile Char.isDigit = r := by
    rw [List.dropWhile_append_of_pos hwall]
    cases r with
    | nil => simp
    | cons x r => simp [hr x rfl]
  simp only [Kind.fits, htake, hdrop, hw, Bool.true_and]

theorem fits_numeral_take {w r rest : List Char} (hw : isDigits w = true)
    (hr : ∀ x ∈ r.head?, x.isDigit = false) {j : Nat} (hj : 0 < j) :
    Kind.numeral.fits ((w ++ r).take j) rest =
      if j ≤ w.length then true else fractionOk (r.take (j - w.length)) := by
  split
  · next hle =>
    rw [List.take_append_of_le_length hle, ← List.append_nil (w.take j),
      fits_numeral_append _ (by simp)]
    · rfl
    · have hwall := hw
      simp only [isDigits, Bool.and_eq_true, List.all_eq_true, Bool.not_eq_true',
        List.isEmpty_eq_false_iff] at hwall ⊢
      refine ⟨fun h => ?_, fun x hx => hwall.2 x (List.mem_of_mem_take hx)⟩
      rcases List.take_eq_nil_iff.1 h with h | h
      · omega
      · exact hwall.1 h
  · next hgt =>
    rw [List.take_append, List.take_of_length_le (by omega)]
    refine fits_numeral_append hw fun x hx => hr x ?_
    rw [List.head?_take, if_neg (by omega)] at hx
    exact hx

theorem count_newline_of_digits {w : List Char} (hw : ∀ x ∈ w, x.isDigit = true ∨ x = '.') :
    w.count '\n' = 0 :=
  List.count_eq_zero.2 fun hm => by rcases hw _ hm with h | h <;> cases h

theorem isDigits_cons_takeWhile {c : Char} (hc : c.isDigit = true) (cs : List Char) :
    isDigits (c :: cs.takeWhile Char.isDigit) = true := by
  simp [isDigits, hc, List.all_takeWhile]

theorem mem_of_isDigits {w : List Char} (hw : isDigits w = true) : ∀ x ∈ w, x.isDigit = true := by
  simp only [isDigits, Bool.and_eq_true, List.all_eq_true] at hw
  exact hw.2

theorem tokenize_numeral_frac {c d : Char} (cs more : List Char) (hc : c.isDigit = true)
    (hr : cs.dropWhile Char.isDigit = '.' :: d :: more) (hd : d.isDigit = true) :
    tokenize line (c :: cs) =
      let text := c :: cs.takeWhile Char.isDigit ++ '.' :: d :: more.takeWhile Char.isDigit
      ((Kind.numeral.output text line).1 ++ (tokenize line (more.dropWhile Char.isDigit)).1,
        (Kind.numeral.output text line).2 ++ (tokenize line (more.dropWhile Char.isDigit)).2) := by
  have hw := isDigits_cons_takeWhile hc cs
  have hf := isDigits_cons_takeWhile hd more
  have hfrun : (d :: more).takeWhile Char.isDigit = d :: more.takeWhile Char.isDigit := by
    simp [hd]
  dsimp only
  generalize hW : c :: cs.takeWhile Char.isDigit = w at hw
  generalize d :: more.takeWhile Char.isDigit = f at hf hfrun
  have hsplit : c :: cs = w ++ '.' :: d :: more := by
    rw [← hW, ← hr, List.cons_append, List.takeWhile_append_dropWhile]
  have hflen : f.length ≤ more.length + 1 := by
    have := length_takeWhile_le Char.isDigit (d :: more)
    rw [hfrun] at this
    simpa using this
  have hlen : (c :: cs).length = w.length + more.length + 2 := by
    rw [hsplit]
    simp
    omega
  have hpoint : ∀ x ∈ ('.' :: d :: more).head?, x.isDigit = false := by simp
  have hfront : ('.' :: d :: more).take (f.length + 1) = '.' :: f := by
    rw [List.take_succ_cons, ← hfrun, take_length_takeWhile]
  have hpick : pick (c :: cs) = some (.numeral, w.length + (f.length + 1)) := by
    refine pick_eq_some (Kind.longest_eq_some (by omega) (by omega) ?_ fun j hj hj' => ?_) ?_
    · rw [hsplit, fits_numeral_take hw hpoint (by omega), if_neg (by omega),
        Nat.add_sub_cancel_left, hfront]
      exact hf
    -- a longer prefix takes a character past the fraction's digits, which is no digit
    · rw [hsplit, fits_numeral_take hw hpoint (by omega), if_neg (by omega)]
      obtain ⟨i, hi⟩ : ∃ i, j - w.length = i + 1 := ⟨j - w.length - 1, by omega⟩
      rw [hi, List.take_succ_cons]
      refine Bool.eq_false_iff.2 fun h => ?_
      simp only [fractionOk, isDigits, Bool.and_eq_true] at h
      rw [take_all_iff _ (by simp; omega), hfrun] at h
      omega
    · simp [Kind.all]
      exact ⟨longest_digit (by simp) hc, longest_digit (by simp) hc, longest_digit (by simp) hc⟩
  have htake : (c :: cs).take (w.length + (f.length + 1)) = w ++ '.' :: f := by
    rw [hsplit, List.take_append, List.take_of_length_le (by omega), Nat.add_sub_cancel_left,
      hfront]
  have hdrop : (c :: cs).drop (w.length + (f.length + 1)) = more.dropWhile Char.isDigit := by
    rw [hsplit, List.drop_append, List.drop_of_length_le (by omega), Nat.add_sub_cancel_left,
      List.nil_append, List.drop_succ_cons, ← hfrun, drop_length_takeWhile,
      List.dropWhile_cons_of_pos hd]
  have hcount : (w ++ '.' :: f).count '\n' = 0 := by
    refine count_newline_of_digits fun x hx => ?_
    rcases List.mem_append.1 hx with hx | hx
    · exact .inl (mem_of_isDigits hw x hx)
    rcases List.mem_cons.1 hx with rfl | hx
    · exact .inr rfl
    · exact .inl (mem_of_isDigits hf x hx)
  rw [tokenize_of_pick line hpick, htake, hdrop]
  simp only [hcount, Nat.add_zero]

theorem tokenize_numeral_whole {c : Char} (cs : List Char) (hc : c.isDigit = true)
    (hr : ∀ d more, cs.dropWhile Char.isDigit = '.' :: d :: more → d.isDigit = false) :
    tokenize line (c :: cs) =
      let text := c :: cs.takeWhile Char.isDigit
      ((Kind.numeral.output text line).1 ++ (tokenize line (cs.dropWhile Char.isDigit)).1,
        (Kind.numeral.output text line).2 ++ (tokenize line (cs.dropWhile Char.isDigit)).2) := by
  have hw := isDigits_cons_takeWhile hc cs
  have hstop : ∀ x ∈ (cs.dropWhile Char.isDigit).head?, x.isDigit = false := by
    intro x hx
    obtain ⟨r, hr'⟩ : ∃ r, cs.dropWhile Char.isDigit = x :: r := by
      cases h : cs.dropWhile Char.isDigit with
      | nil => simp [h] at hx
      | cons y r => simp [h] at hx; exact ⟨r, hx ▸ rfl⟩
    exact head_dropWhile Char.isDigit hr'
  have hsplit : c :: cs = (c :: cs.takeWhile Char.isDigit) ++ cs.dropWhile Char.isDigit := by
    rw [List.cons_append, List.takeWhile_append_dropWhile]
  dsimp only
  generalize c :: cs.takeWhile Char.isDigit = w at hw hsplit
  generalize hR : cs.dropWhile Char.isDigit = R at hstop hsplit hr
  have hlen : (c :: cs).length = w.length + R.length := by rw [hsplit]; simp
  have hpick : pick (c :: cs) = some (.numeral, w.length) := by
    have hw0 : 0 < w.length := by
      have := (mem_of_isDigits hw)
      cases w with
      | nil => simp [isDigits] at hw
      | cons => simp
    refine pick_eq_some (Kind.longest_eq_some hw0 (by omega) ?_ fun j hj hj' => ?_) ?_
    · rw [hsplit, fits_numeral_take hw hstop hw0, if_pos (Nat.le_refl _)]
    -- a longer prefix takes what follows the digits: a point with no digit after it at best
    · rw [hsplit, fits_numeral_take hw hstop (by omega), if_neg (by omega)]
      obtain ⟨i, hi⟩ : ∃ i, j - w.length = i + 1 := ⟨j - w.length - 1, by omega⟩
      obtain ⟨x, R', rfl⟩ : ∃ x R', R = x :: R' := by
        cases R with
        | nil => simp only [List.length_cons, List.length_nil] at hlen hj'; omega
        | cons x R' => exact ⟨x, R', rfl⟩
      rw [hi, List.take_succ_cons]
      unfold fractionOk
      split
      · next heq => cases heq
      · next frac heq =>
        obtain ⟨rfl, rfl⟩ := List.cons.inj heq
        cases i with
        | zero => rfl
        | succ i =>
          cases R' with
          | nil => rfl
          | cons d more =>
            have hd := hr d more rfl
            simp [List.take_succ_cons, isDigits, hd]
      · rfl
    · simp [Kind.all]
      exact ⟨longest_digit (by simp) hc, longest_digit (by simp) hc, longest_digit (by simp) hc⟩
  have hcount : w.count '\n' = 0 := count_newline_of_digits fun x hx => .inl (mem_of_isDigits hw x hx)
  rw [tokenize_of_pick line hpick, hsplit, List.take_left' rfl, List.drop_left' rfl]
  simp only [hcount, Nat.add_zero]

theorem operator?_long {p : List Char} (h : 3 ≤ p.length) : operator? p = none := by
  match p, h with
  | _ :: _ :: _ :: _, _ => rfl

theorem eq_of_pairKind {c d : Char} {k : TokenKind} (h : Scan.pairKind? c d = some k) : d = '=' := by
  unfold Scan.pairKind? at h
  split at h <;> first | rfl | cases h

section Operators

variable {c : Char} {cs : List Char} (hb : ¬(c = ' ' ∨ c = '\t' ∨ c = '\r' ∨ c = '\n'))
  (hw : ¬(c = '_' ∨ Text.isLetter c = true)) (hd : c.isDigit = false) (hq : c ≠ '"')
  (hc : ¬(c = '/' ∧ cs.head? = some '/'))

include hb hw hd hq hc in
theorem longest_before_operator :
    ∀ k ∈ Kind.all.takeWhile (· != .operator), k.longest (c :: cs) = none := by
  have hcomment : Kind.comment.longest (c :: cs) = none := by
    refine longestUpTo_eq_none.2 fun j hj _ => ?_
    obtain ⟨i, rfl⟩ : ∃ i, j = i + 1 := ⟨j - 1, by omega⟩
    rw [List.take_succ_cons]
    refine Bool.eq_false_iff.2 fun h => ?_
    obtain ⟨rfl, body, hbody⟩ := fits_comment h
    refine hc ⟨rfl, ?_⟩
    cases cs with
    | nil => simp at hbody
    | cons x r =>
      cases i with
      | zero => simp at hbody
      | succ i => simp only [List.take_succ_cons, List.cons.injEq] at hbody; simp [hbody.1]
  have hhead : ∀ k ∈ [Kind.blank, .word, .numeral, .string, .unterminated],
      k.longest (c :: cs) = none := by
    intro k hk
    refine Kind.longest_eq_none_of_head cs fun q r => Bool.eq_false_iff.2 fun h => ?_
    simp only [List.mem_cons, List.not_mem_nil, or_false] at hk
    rcases hk with rfl | rfl | rfl | rfl | rfl
    · exact hb (fits_blank h).2
    · exact hw (fits_word h)
    · rw [fits_numeral h] at hd; cases hd
    · exact hq (fits_string h)
    · exact hq (fits_unterminated h)
  simp only [Kind.all]
  simp
  exact ⟨hhead _ (by simp), hcomment, hhead _ (by simp), hhead _ (by simp), hhead _ (by simp),
    hhead _ (by simp)⟩

include hb hw hd hq hc in
theorem tokenize_pair {d : Char} {more : List Char} {k : TokenKind} (hcs : cs = d :: more)
    (hp : Scan.pairKind? c d = some k) :
    tokenize line (c :: cs) = Scan.emit ⟨k, String.ofList [c, d], .absent, line⟩ (tokenize line more) := by
  have hpick : pick (c :: cs) = some (.operator, 2) := by
    refine pick_eq_some (Kind.longest_eq_some (by omega) (by simp [hcs]) ?_ fun j hj hj' => ?_)
      (longest_before_operator hb hw hd hq hc)
    · simp [hcs, Kind.fits, operator?, hp]
    · simp only [Kind.fits, Option.isSome_eq_false_iff, Option.isNone_iff_eq_none]
      exact operator?_long (by simp at hj' ⊢; omega)
  have hcount : [c, d].count '\n' = 0 := by
    rw [eq_of_pairKind hp]
    simp only [List.count_cons, List.count_nil]
    have : c ≠ '\n' := fun h => hb (.inr (.inr (.inr h)))
    simp [this]
  rw [tokenize_of_pick line hpick]
  simp [hcs, hcount, Kind.output, operator?, hp, Scan.emit]

include hb hw hd hq hc in
theorem tokenize_single {k : TokenKind} (hpair : ∀ d more, cs = d :: more → Scan.pairKind? c d = none)
    (hs : Scan.singleKind? c = some k) :
    tokenize line (c :: cs) = Scan.emit ⟨k, String.singleton c, .absent, line⟩ (tokenize line cs) := by
  have hpick : pick (c :: cs) = some (.operator, 1) := by
    refine pick_eq_some (Kind.longest_eq_some (by omega) (by simp) ?_ fun j hj hj' => ?_)
      (longest_before_operator hb hw hd hq hc)
    · simp [Kind.fits, operator?, hs]
    · simp only [Kind.fits, Option.isSome_eq_false_iff, Option.isNone_iff_eq_none]
      by_cases hj2 : j = 2
      · subst hj2
        obtain ⟨d, more, rfl⟩ : ∃ d more, cs = d :: more := by
          cases cs with
          | nil => simp at hj'
          | cons d more => exact ⟨d, more, rfl⟩
        simp [operator?, hpair d more rfl]
      · exact operator?_long (by simp at hj' ⊢; omega)
  have hcount : [c].count '\n' = 0 := by
    have : c ≠ '\n' := fun h => hb (.inr (.inr (.inr h)))
    simp [this]
  rw [tokenize_of_pick line hpick]
  simp [hcount, Kind.output, operator?, hs, Scan.emit]

include hb hw hd hq hc in
theorem tokenize_unexpected (hpair : ∀ d more, cs = d :: more → Scan.pairKind? c d = none)
    (hs : Scan.singleKind? c = none) :
    tokenize line (c :: cs) = Scan.fail ⟨line, .unexpectedChar⟩ (tokenize line cs) := by
  have hop : Kind.operator.longest (c :: cs) = none := by
    refine longestUpTo_eq_none.2 fun j hj hj' => ?_
    simp only [Kind.fits, Option.isSome_eq_false_iff, Option.isNone_iff_eq_none]
    by_cases hj1 : j = 1
    · subst hj1
      simp [operator?, hs]
    by_cases hj2 : j = 2
    · subst hj2
      obtain ⟨d, more, rfl⟩ : ∃ d more, cs = d :: more := by
        cases cs with
        | nil => simp at hj'
        | cons d more => exact ⟨d, more, rfl⟩
      simp [operator?, hpair d more rfl]
    · exact operator?_long (by simp at hj' ⊢; omega)
  have hpick : pick (c :: cs) = some (.other, 1) := by
    refine pick_eq_some (Kind.longest_eq_some (by omega) (by simp) (by simp [Kind.fits])
      fun j hj hj' => ?_) ?_
    · simp only [Kind.fits, beq_eq_false_iff_ne, ne_eq, List.length_take, List.length_cons]
      simp only [List.length_cons] at hj'
      omega
    · have hbefore := longest_before_operator hb hw hd hq hc
      simp [Kind.all] at hbefore ⊢
      exact ⟨hbefore.1, hbefore.2.1, hbefore.2.2.1, hbefore.2.2.2.1, hbefore.2.2.2.2.1,
        hbefore.2.2.2.2.2, hop⟩
  have hcount : [c].count '\n' = 0 := by
    have : c ≠ '\n' := fun h => hb (.inr (.inr (.inr h)))
    simp [this]
  rw [tokenize_of_pick line hpick]
  simp [hcount, Kind.output, Scan.fail]

end Operators

end Pieces

end MiniLox.Munch
