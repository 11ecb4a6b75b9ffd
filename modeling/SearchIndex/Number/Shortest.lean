import SearchIndex.Number.Binary64

/-!
The shortest decimal of a floating-point number: the fewest significant digits that read back as
the same number, and among those the nearest to it.
-/

namespace SearchIndex

/-- The magnitude `digits · 10 ^ exponent`; the digits do not end in zero. -/
structure ShortDecimal where
  digits : Nat
  exponent : Int
  deriving DecidableEq, Repr

namespace Binary64

/-- The reals that round to a number lie between `low / (2 · unit)` and `high / (2 · unit)`; the
number itself is `middle / (2 · unit)`. All four are natural numbers. -/
structure Neighbourhood where
  low : Nat
  middle : Nat
  high : Nat
  unit : Nat
  closed : Bool

/-- Half a step to either side; below a power of two the step is half as long. -/
def neighbourhood (x : Binary64) : Neighbourhood :=
  let m := x.mantissa
  let below := if x.fraction = 0 ∧ 1 < x.biased then 1 else 2
  let (up, down) := shifted 1 1 (x.exponent - 2)
  ⟨(4 * m - below) * up, 4 * m * up, (4 * m + 2) * up, down, m % 2 = 0⟩

/-- Whether `n / d` rounds to the number. -/
def Neighbourhood.holds (v : Neighbourhood) (n d : Nat) : Bool :=
  if v.closed then v.low * d ≤ n * v.unit && n * v.unit ≤ v.high * d
  else v.low * d < n * v.unit && n * v.unit < v.high * d

/-- The exponent of the leading digit of `n / d`. -/
def leadingExponent (n d : Nat) : Int :=
  if d ≤ n then (Nat.toDigits 10 (n / d)).length - 1
  else
    let k := (Nat.toDigits 10 (d / n)).length
    if d ≤ n * Nat.pow 10 (k - 1) then -((k - 1 : Nat) : Int) else -(k : Int)

/-- On the grid of multiples of `10 ^ e`: the multiple next to the number that reads back, if there
is one; of two the nearer, of two equally near the even one. -/
def Neighbourhood.onGrid (v : Neighbourhood) (e : Int) : Option Nat :=
  let up := Nat.pow 10 e.toNat
  let down := Nat.pow 10 (-e).toNat
  let k := v.middle * down / (v.unit * up)
  let floor := v.holds (k * up) down
  let ceil := v.holds ((k + 1) * up) down
  let twice := 2 * (v.middle * down % (v.unit * up))
  let nearerBelow := twice < v.unit * up || (twice = v.unit * up && k % 2 = 0)
  if floor && (nearerBelow || ! ceil) then some k else if ceil then some (k + 1) else none

/-- Takes the zeros off the end of the digits. -/
def stripZeros : Nat → Nat → Int → ShortDecimal
  | 0, n, e => ⟨n, e⟩
  | fuel + 1, n, e => if n % 10 = 0 ∧ n ≠ 0 then stripZeros fuel (n / 10) (e + 1) else ⟨n, e⟩

/-- The shortest decimal of the magnitude of a number other than zero. Seventeen digits are always
enough. -/
def shortest (x : Binary64) : ShortDecimal :=
  let v := x.neighbourhood
  let lead := leadingExponent v.middle v.unit
  match (List.range 17).findSome? fun (n : Nat) => (v.onGrid (lead - n)).map fun k => (k, lead - n) with
  | some (k, e) => stripZeros 18 k e
  | none => ⟨0, 0⟩

end Binary64

end SearchIndex
