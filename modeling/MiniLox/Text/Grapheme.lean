import MiniLox.Text.ClusterBreak

/-!
# Grapheme clusters

Unicode's extended grapheme clusters (UAX #29, Unicode 15.0) are read by a machine over break
classes. Its state is what the characters read so far allow next, and each step says whether a
cluster ends before the next character.

The rules are numbered as in UAX #29, times ten. A state has rules for particular classes and
possibly one for every class; a class has rules that apply in any state. When both kinds apply,
the class rule gives the state, and the lower-numbered rule says whether a cluster ends. So a
Prepend joins a following Hangul syllable (rule 92 beats 9990) but not a control (rule 50 beats
92).
-/

set_option autoImplicit false

namespace MiniLox.Text

/-- What the characters read so far of a cluster allow next. -/
inductive ClusterState where
  | any | cr | controlOrLf | l | lvOrV | lvtOrT | prepend | pictographic | pictographicZwj
  | regionalOdd | regionalEven
deriving DecidableEq, Repr

/-- The rule for a state and a class, when there is one: the next state, whether a cluster ends
before the character, and the rule's number. `other` as the class stands for every class: a
rule about the state alone. -/
def ClusterState.rule : ClusterState → BreakClass → Option (ClusterState × Bool × Nat)
  | .any, .cr => some (.cr, true, 50)
  | .any, .lf => some (.controlOrLf, true, 50)
  | .any, .control => some (.controlOrLf, true, 50)
  | .cr, .other => some (.any, true, 40)
  | .controlOrLf, .other => some (.any, true, 40)
  | .cr, .lf => some (.controlOrLf, false, 30)
  | .any, .l => some (.l, true, 9990)
  | .l, .l => some (.l, false, 60)
  | .l, .v => some (.lvOrV, false, 60)
  | .l, .lv => some (.lvOrV, false, 60)
  | .l, .lvt => some (.lvtOrT, false, 60)
  | .any, .lv => some (.lvOrV, true, 9990)
  | .any, .v => some (.lvOrV, true, 9990)
  | .lvOrV, .v => some (.lvOrV, false, 70)
  | .lvOrV, .t => some (.lvtOrT, false, 70)
  | .any, .lvt => some (.lvtOrT, true, 9990)
  | .any, .t => some (.lvtOrT, true, 9990)
  | .lvtOrT, .t => some (.lvtOrT, false, 80)
  | .any, .extend => some (.any, false, 90)
  | .any, .zwj => some (.any, false, 90)
  | .any, .spacingMark => some (.any, false, 91)
  | .any, .prepend => some (.prepend, true, 9990)
  | .prepend, .other => some (.any, false, 92)
  | .any, .pictographic => some (.pictographic, true, 9990)
  | .pictographic, .extend => some (.pictographic, false, 110)
  | .pictographic, .zwj => some (.pictographicZwj, false, 110)
  | .pictographicZwj, .pictographic => some (.pictographic, false, 110)
  | .any, .regional => some (.regionalOdd, true, 9990)
  | .regionalOdd, .regional => some (.regionalEven, false, 120)
  | .regionalEven, .regional => some (.regionalOdd, true, 120)
  | _, _ => none

def ClusterState.step (s : ClusterState) (k : BreakClass) : ClusterState × Bool :=
  match s.rule k with
  | some (next, ends, _) => (next, ends)
  | none =>
    match s.rule .other, ClusterState.any.rule k with
    | some (_, ends₁, n₁), some (next, ends₂, n₂) => (next, if n₁ < n₂ then ends₁ else ends₂)
    | some (next, ends, _), none => (next, ends)
    | none, some (next, ends, _) => (next, ends)
    | none, none => (.any, true)

def clusterRest (s : ClusterState) : List Char → List Char × List Char
  | [] => ([], [])
  | c :: cs =>
    let (next, ends) := s.step (breakClass c)
    if ends then ([], c :: cs)
    else
      let (more, rest) := clusterRest next cs
      (c :: more, rest)

/-- The first grapheme cluster of a text, and what follows it. -/
def firstCluster : List Char → List Char × List Char
  | [] => ([], [])
  | c :: cs =>
    let (more, rest) := clusterRest (ClusterState.any.step (breakClass c)).1 cs
    (c :: more, rest)

theorem firstCluster_rest_length (c : Char) (cs : List Char) :
    (firstCluster (c :: cs)).2.length ≤ cs.length := by
  suffices h : ∀ (s : ClusterState) (l : List Char), (clusterRest s l).2.length ≤ l.length by
    exact h _ cs
  intro s l
  induction l generalizing s with
  | nil => simp [clusterRest]
  | cons d ds ih =>
    simp only [clusterRest]
    split
    · simp
    · exact Nat.le_succ_of_le (ih _)

end MiniLox.Text
