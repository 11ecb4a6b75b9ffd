/-!
Binary floating point of 64 bits, by exact arithmetic on natural numbers. A finite magnitude is
m · 2^q; a quotient is rounded to the nearest such number, a half to the even one.
-/

namespace SearchIndex

/-- A finite number of 64 bits. -/
structure Binary64 where
  bits : UInt64
  deriving DecidableEq, Repr, Inhabited

namespace Binary64

/-- Whether the sign is set (also of zero). -/
def isNegative (x : Binary64) : Bool := x.bits.toNat ≥ 0x8000000000000000

/-- The place of the leading one of a normal mantissa, 2⁵². -/
def leadingBit : Nat := 0x10000000000000

/-- The mantissa without its leading one. -/
def fraction (x : Binary64) : Nat := x.bits.toNat % leadingBit

/-- The biased exponent. -/
def biased (x : Binary64) : Nat := x.bits.toNat / leadingBit % 0x800

/-- The magnitude is `mantissa` · 2 ^ `exponent`. -/
def mantissa (x : Binary64) : Nat :=
  x.fraction + if x.biased = 0 then 0 else leadingBit

def exponent (x : Binary64) : Int := if x.biased = 0 then -1074 else x.biased - 1075

/-- Whether the magnitude is zero. -/
def isZero (x : Binary64) : Bool := x.mantissa = 0

/-- The number with its sign turned. -/
def neg (x : Binary64) : Binary64 := ⟨x.bits ^^^ 0x8000000000000000⟩

/-- Twice the remainder against the divisor decides which way a quotient goes. -/
def roundHalfEven (n d : Nat) : Nat :=
  let q := n / d
  let r := 2 * (n % d)
  if r < d then q else if r = d then q + q % 2 else q + 1

/-- `n · 2 ^ k` over `d`, as a pair of natural numbers. -/
def shifted (n d : Nat) (k : Int) : Nat × Nat := (n <<< k.toNat, d <<< (-k).toNat)

/-- The number nearest to `n / d`; none if that is beyond the largest. -/
def ofRatio (n d : Nat) : Option Binary64 :=
  if n = 0 then some ⟨0⟩ else
    let guess : Int := max (-1074) ((n.log2 : Int) - d.log2 - 53)
    let scaled (q : Int) : Nat × Nat := shifted n d (-q)
    let q := if 2 * leadingBit ≤ (scaled guess).1 / (scaled guess).2 then guess + 1 else guess
    let bits := (q + 1074).toNat * leadingBit + roundHalfEven (scaled q).1 (scaled q).2
    if bits < 0x7ff * leadingBit then some ⟨bits.toUInt64⟩ else none

/-- The number nearest to a natural number. -/
def ofNat? (n : Nat) : Option Binary64 := ofRatio n 1

/-- The magnitude as a quotient. -/
def ratio (x : Binary64) : Nat × Nat := shifted x.mantissa 1 x.exponent

/-- The rounded product of two magnitudes. -/
def times (x y : Binary64) : Option Binary64 :=
  ofRatio (x.ratio.1 * y.ratio.1) (x.ratio.2 * y.ratio.2)

/-- The rounded quotient of two magnitudes. -/
def quotient (x y : Binary64) : Option Binary64 :=
  ofRatio (x.ratio.1 * y.ratio.2) (x.ratio.2 * y.ratio.1)

/-- The number nearest to a power of ten. -/
def powerOfTen (k : Nat) : Option Binary64 := ofNat? (Nat.pow 10 k)

/-- Divides by `10 ^ k`, by `10 ^ 308` at a time. -/
def downBy (x : Binary64) (k : Nat) : Option Binary64 :=
  if k ≤ 308 then (powerOfTen k).bind x.quotient
  else if x.isZero then some x
  else ((powerOfTen 308).bind x.quotient).bind fun y => downBy y (k - 308)
  termination_by k
  decreasing_by omega

/-- The number nearest to `significand · 10 ^ k`; none if that is beyond the largest. No power of ten
is made where any significand of that many bits gives zero or too much. -/
def nearest? (significand : Nat) (k : Int) : Option Binary64 :=
  if significand = 0 then some ⟨0⟩
  else if 308 < k then none
  else if (significand.log2 : Int) + 1076 ≤ 3 * -k then some ⟨0⟩
  else ofRatio (significand * Nat.pow 10 k.toNat) (Nat.pow 10 (-k).toNat)

/-- `significand · 10 ^ k`: the significand is rounded first and then scaled by a rounded power of
ten. None if the result is too large. -/
def ofDecimal? (significand : Nat) (k : Int) : Option Binary64 :=
  (ofNat? significand).bind fun x =>
    if k < 0 then x.downBy k.natAbs
    else if k ≤ 308 then (powerOfTen k.toNat).bind x.times
    else if x.isZero then some x else none

end Binary64

end SearchIndex
