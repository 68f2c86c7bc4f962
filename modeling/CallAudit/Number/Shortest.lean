import CallAudit.Number.Double

/-!
# Shortest decimal text of a double

`shortest d` is a decimal that rounds to `d`: the one on the coarsest decimal grid that has a point
in the interval of reals rounding to `d`, and of the points of that grid the nearest to `d`, or of
two that are equally near the even one.
-/

namespace CallAudit

/-- The number `digits * 10 ^ exponent`. -/
structure Decimal where
  digits : Nat
  exponent : Int
deriving DecidableEq, Repr

namespace Double

/-- The reals that round to a positive double, in quarters of a unit. The ends round to it as well
    exactly when its significand is even. -/
structure Neighbourhood where
  low : Nat
  value : Nat
  high : Nat
  closed : Bool
deriving Repr

/-- Below a power of two the next double is only half as far away as above it. -/
def neighbourhood (d : Double) : Neighbourhood :=
  let gap := Nat.pow 2 d.shift
  let below := if d.fraction = 0 ∧ 1 < d.exponentField then gap else 2 * gap
  { low := 4 * d.magnitude - below
    value := 4 * d.magnitude
    high := 4 * d.magnitude + 2 * gap
    closed := d.significand % 2 == 0 }

namespace Neighbourhood

/-- Whether a point, given in quarters of a unit as `point / scale`, rounds to the double. -/
def holds (n : Neighbourhood) (point scale : Nat) : Bool :=
  if n.closed then n.low * scale ≤ point && point ≤ n.high * scale
  else n.low * scale < point && point < n.high * scale

/-- The point nearest to the double on the grid of multiples of `10 ^ exponent`, if it rounds to the
    double: of the two neighbours on the grid no other point can be nearer. -/
def onGrid (n : Neighbourhood) (exponent : Int) : Option Nat :=
  let one := 4 * oneInUnits
  let step := one * Nat.pow 10 exponent.toNat
  let scale := Nat.pow 10 (-exponent).toNat
  let below := n.value * scale / step
  let rest := n.value * scale % step
  let takesBelow := if 2 * rest = step then below % 2 = 0 else 2 * rest < step
  let nearer := if takesBelow then below else below + 1
  let farther := if takesBelow then below + 1 else below
  if n.holds (nearer * step) scale then some nearer
  else if n.holds (farther * step) scale then some farther
  else none

/-- The first grid with a point in the neighbourhood, from `exponent` down to finer ones. -/
def search (n : Neighbourhood) (exponent : Int) : Nat → Decimal
  | 0 => ⟨n.value, exponent⟩
  | fuel + 1 =>
    match n.onGrid exponent with
    | some digits => ⟨digits, exponent⟩
    | none => search n (exponent - 1) fuel

end Neighbourhood

/-- A decimal exponent above that of the double: a bit is worth less than a third of a digit. -/
def coarsest (d : Double) : Nat := Nat.log2 (d.magnitude / oneInUnits) / 3 + 1

/-- The decimal with the fewest digits that rounds to a finite double other than zero. Every double
    lies on the grid of `10 ^ -1074`, so the search ends. -/
def shortest (d : Double) : Decimal :=
  d.neighbourhood.search d.coarsest (d.coarsest + unitExponent + 1)

end Double

end CallAudit
