/-!
# Reading a number text

`Numeral.read?` accepts the texts of numeric literals: an optional sign, then decimal digits
with at most one point and an optional exponent `e`, or `0x` and hexadecimal digits with at
most one point and a required binary exponent `p`. Underscores may separate digits, and may
follow the `0x`. `inf`, `infinity` (either with a sign) and `nan` are read in any case.

`nearestBits` rounds an exact ratio of naturals to the nearest double, ties to even; past the
largest double it gives infinity, below half the least one zero.
-/

set_option autoImplicit false

namespace MiniLox.Decimal

/-- What a number text denotes, before rounding. -/
inductive Numeral where
  | finite (neg : Bool) (num den : Nat)
  | infinite (neg : Bool)
  | nan
deriving Repr, DecidableEq

def quotAt (num den : Nat) (q : Int) : Nat × Nat × Nat :=
  let n := num * Nat.pow 2 (-q).toNat
  let d := den * Nat.pow 2 q.toNat
  (n / d, n % d, d)

/-- The bits of the non-negative double nearest to `num / den`, ties to even. -/
def nearestBits (num den : Nat) : UInt64 :=
  if num = 0 ∨ den = 0 then 0 else
  let k : Int := (num.log2 : Int) - den.log2
  if k > 1025 then 0x7FF0000000000000 else
  if k < -1080 then 0 else
  -- the ratio lies in (2^(k-1), 2^(k+1)); pick q with the quotient in [2^52, 2^53), q ≥ -1074
  let q0 : Int := max (k - 52) (-1074)
  let q1 := if (quotAt num den q0).1 < Nat.pow 2 52 ∧ q0 > -1074 then q0 - 1 else q0
  let (m, r, d) := quotAt num den q1
  let m := match compare (2 * r) d with
    | .lt => m
    | .gt => m + 1
    | .eq => m + m % 2
  let (m, q) := if m = Nat.pow 2 53 then (Nat.pow 2 52, q1 + 1) else (m, q1)
  if q > 971 then 0x7FF0000000000000
  else if m < Nat.pow 2 52 then m.toUInt64
  else ((q + 1075).toNat.toUInt64 <<< 52) ||| (m - Nat.pow 2 52).toUInt64

def Numeral.toBits : Numeral → UInt64
  | .finite neg num den => (if neg then 0x8000000000000000 else 0) ||| nearestBits num den
  | .infinite neg => if neg then 0xFFF0000000000000 else 0x7FF0000000000000
  | .nan => 0x7FF8000000000001

def Numeral.toFloat (n : Numeral) : Float := Float.ofBits n.toBits

def digitValue (hex : Bool) (c : Char) : Option Nat :=
  if c.isDigit then some (c.toNat - '0'.toNat)
  else if hex && 'a' ≤ c.toLower && c.toLower ≤ 'f' then some (c.toLower.toNat - 'a'.toNat + 10)
  else none

structure Mantissa where
  value : Nat := 0
  count : Nat := 0
  afterPoint : Nat := 0
  point : Bool := false

/-- Reads digits, underscores and one point; stops at anything else or a second point. -/
def Mantissa.read (hex : Bool) (m : Mantissa) : List Char → Mantissa × List Char
  | [] => (m, [])
  | c :: cs =>
    if c = '_' then m.read hex cs
    else if c = '.' then
      if m.point then (m, c :: cs) else { m with point := true }.read hex cs
    else match digitValue hex c with
      | some v =>
        { value := m.value * (if hex then 16 else 10) + v, count := m.count + 1,
          afterPoint := if m.point then m.afterPoint + 1 else m.afterPoint,
          point := m.point : Mantissa }.read hex cs
      | none => (m, c :: cs)

def readExponent (e : Nat) : List Char → Nat × List Char
  | [] => (e, [])
  | c :: cs =>
    if c = '_' then readExponent e cs
    else if c.isDigit then readExponent (if e < 10000 then e * 10 + (c.toNat - '0'.toNat) else e) cs
    else (e, c :: cs)

def underscoresFit (cs : List Char) : Bool :=
  let body := match cs with
    | '+' :: r => r
    | '-' :: r => r
    | r => r
  let (hex, start, digits) := match body with
    | '0' :: b :: r =>
      if b.toLower = 'x' then (true, '0', r)
      else if b.toLower = 'b' ∨ b.toLower = 'o' then (false, '0', r)
      else (false, '^', body)
    | _ => (false, '^', body)
  -- the class of the last character: '0' a digit or prefix, '_' an underscore, '!' other
  let step (saw : Option Char) (c : Char) : Option Char :=
    match saw with
    | none => none
    | some s =>
      if c.isDigit || (hex && 'a' ≤ c.toLower && c.toLower ≤ 'f') then some '0'
      else if c = '_' then (if s = '0' then some '_' else none)
      else if s = '_' then none
      else some '!'
  let last := digits.foldl step (some start)
  match last with
  | some s => s != '_'
  | none => false

def readSign : List Char → Bool × List Char
  | '+' :: r => (false, r)
  | '-' :: r => (true, r)
  | r => (false, r)

def readSpecial (cs : List Char) : Option Numeral :=
  let (neg, body) := readSign cs
  let word := String.ofList (body.map Char.toLower)
  if word = "inf" ∨ word = "infinity" then some (.infinite neg)
  else if cs.length = body.length ∧ word = "nan" then some .nan
  else none

/-- A decimal or hexadecimal numeral that spans the whole text. -/
def readFinite (cs : List Char) : Option Numeral :=
  let (neg, r0) := readSign cs
  let (hex, r1) := match r0 with
    | '0' :: x :: r@(_ :: _) => if x.toLower = 'x' then (true, r) else (false, r0)
    | _ => (false, r0)
  let (m, r2) := Mantissa.read hex {} r1
  let expMark := if hex then 'p' else 'e'
  let exponent : Option Int := match r2 with
    | [] => if hex then none else some 0
    | c :: r3 =>
      if c.toLower ≠ expMark then none else
      let (eneg, r4) := readSign r3
      match r4 with
      | d :: _ =>
        if d.isDigit then
          let (e, r5) := readExponent 0 r4
          if r5.isEmpty then some (if eneg then -(e : Int) else e) else none
        else none
      | [] => none
  if m.count = 0 then none else
  if cs.contains '_' && !underscoresFit cs then none else
  match exponent with
  | none => none
  | some e =>
    if hex then
      let p := e - 4 * (m.afterPoint : Int)
      some (.finite neg (m.value * Nat.pow 2 p.toNat) (Nat.pow 2 (-p).toNat))
    else
      let p := e - (m.afterPoint : Int)
      some (.finite neg (m.value * Nat.pow 10 p.toNat) (Nat.pow 10 (-p).toNat))

/-- The numeral a whole text spells, if it spells one. -/
def Numeral.read? (s : String) : Option Numeral :=
  let cs := s.toList
  match readSpecial cs with
  | some n => some n
  | none => readFinite cs

end MiniLox.Decimal
