import MiniLox.Decimal.Shortest

/-!
# Writing a double as text

`Dec.positional` writes the digits with a point only where the value needs one and never an
exponent; `Dec.scientific` writes one digit before the point and a signed exponent of at least
two digits. A `Layout` chooses between the two by the exponent of the leading digit and names
the texts of the infinities and of NaN; `Layout.render` adds the sign, which `-0` keeps.
-/

set_option autoImplicit false

namespace MiniLox.Decimal

def Dec.leadExp (d : Dec) : Int := (digitCount d.digits : Int) + d.exp - 1

def Dec.positional (d : Dec) : String :=
  let ds := Nat.toDigits 10 d.digits
  let point : Int := ds.length + d.exp
  if point ≤ 0 then String.ofList ('0' :: '.' :: (List.replicate (-point).toNat '0' ++ ds))
  else if (ds.length : Int) ≤ point then String.ofList (ds ++ List.replicate (point - ds.length).toNat '0')
  else String.ofList (ds.take point.toNat ++ '.' :: ds.drop point.toNat)

def Dec.scientific (d : Dec) : String :=
  let mantissa := match Nat.toDigits 10 d.digits with
    | c :: rest@(_ :: _) => String.ofList (c :: '.' :: rest)
    | ds => String.ofList ds
  let e := d.leadExp
  let ed := Nat.toDigits 10 e.natAbs
  mantissa ++ (if e < 0 then "e-" else "e+") ++ String.ofList (List.replicate (2 - ed.length) '0' ++ ed)

/-- How a family of outputs writes doubles. -/
structure Layout where
  /-- The leading-digit exponents `e` with `lo ≤ e < hi` that are written positionally; with
  `none` every finite value is. -/
  plain : Option (Int × Int)
  posInf : String
  negInf : String
  nan : String

/-- The text of the double with these bits. -/
def Layout.renderBits (n : Layout) (b : UInt64) : String :=
  let neg := b >>> 63 == 1
  if (b >>> 52) &&& 0x7FF == 0x7FF then
    if b &&& 0xFFFFFFFFFFFFF != 0 then n.nan else if neg then n.negInf else n.posInf
  else
    let d := (Binary.ofBits b).shortest
    let body := match n.plain with
      | none => d.positional
      | some (lo, hi) => if lo ≤ d.leadExp ∧ d.leadExp < hi then d.positional else d.scientific
    if neg then "-" ++ body else body

def Layout.render (n : Layout) (x : Float) : String := n.renderBits x.toBits

end MiniLox.Decimal
