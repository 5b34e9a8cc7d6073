/-!
# Shortest decimal digits of a double

A finite double stands for the interval of reals that round to it (to nearest, ties to even).
`Binary.shortest` returns a decimal of that interval with the fewest significant digits; of the
two candidates on the same grid it takes the one nearer to the double, and an exact tie goes to
the even one. All arithmetic is exact, on naturals.
-/

set_option autoImplicit false

namespace MiniLox.Decimal

/-- A finite non-negative double, `m * 2^q`. -/
structure Binary where
  m : Nat
  q : Int
  /-- The gap to the double below is half the gap to the double above. -/
  narrowBelow : Bool
deriving Repr, DecidableEq

def Binary.ofBits (b : UInt64) : Binary :=
  let e := ((b >>> 52) &&& 0x7FF).toNat
  let f := (b &&& 0xFFFFFFFFFFFFF).toNat
  if e = 0 then ⟨f, -1074, false⟩ else ⟨Nat.pow 2 52 + f, (e : Int) - 1075, f == 0 && e > 1⟩

structure Dec where
  digits : Nat
  exp : Int
deriving Repr, DecidableEq

def cmpScaled (a : Nat) (i : Int) (n : Nat) (j : Int) : Ordering :=
  compare (a * Nat.pow 10 i.toNat * Nat.pow 2 (-j).toNat) (n * Nat.pow 2 j.toNat * Nat.pow 10 (-i).toNat)

/-- `d` rounds to `x`: it lies strictly between the midpoints to the neighbours of `x`, or on
one of them when `m` is even. -/
def Binary.readsBack (x : Binary) (d : Dec) : Bool :=
  let lo := if x.narrowBelow then 4 * x.m - 1 else 4 * x.m - 2
  let hi := 4 * x.m + 2
  let incl := x.m % 2 == 0
  let cl := cmpScaled d.digits d.exp lo (x.q - 2)
  let ch := cmpScaled d.digits d.exp hi (x.q - 2)
  (cl == .gt || (incl && cl == .eq)) && (ch == .lt || (incl && ch == .eq))

def digitCount (n : Nat) : Nat := (Nat.toDigits 10 n).length

def Binary.exact (x : Binary) : Dec :=
  if 0 ≤ x.q then ⟨x.m * Nat.pow 2 x.q.toNat, 0⟩ else ⟨x.m * Nat.pow 5 (-x.q).toNat, x.q⟩

def Binary.scale (x : Binary) : Int := (digitCount x.exact.digits : Int) + x.exact.exp

def Binary.neighbours (x : Binary) (s : Int) : Dec × Dec :=
  let v := x.exact
  let n := v.digits * Nat.pow 10 (v.exp - s).toNat
  let unit := Nat.pow 10 (s - v.exp).toNat
  let q := n / unit
  let lower : Dec := ⟨q, s⟩
  let upper : Dec := ⟨q + 1, s⟩
  match compare (2 * (n % unit)) unit with
  | .lt => (lower, upper)
  | .gt => (upper, lower)
  | .eq => if q % 2 = 0 then (lower, upper) else (upper, lower)

def Binary.pickAt (x : Binary) (s : Int) : Option Dec :=
  let (a, b) := x.neighbours s
  if x.readsBack a then some a else if x.readsBack b then some b else none

def Dec.trim (d : Dec) : Dec :=
  if h : d.digits ≠ 0 ∧ d.digits % 10 = 0 then Dec.trim ⟨d.digits / 10, d.exp + 1⟩ else d
termination_by d.digits
decreasing_by exact Nat.div_lt_self (Nat.pos_of_ne_zero h.1) (by decide)

/-- The shortest decimal that reads back as `x`, found on the grids of one to seventeen
significant digits; zero is `0`. -/
def Binary.shortest (x : Binary) : Dec :=
  if x.m = 0 then ⟨0, 0⟩ else
  let found := (List.range 17).findSome? fun i => x.pickAt (x.scale - ((i + 1 : Nat) : Int))
  (found.getD x.exact).trim

end MiniLox.Decimal
