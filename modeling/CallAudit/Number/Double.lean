/-!
# Binary64 numbers

A double is its 64 bits. Every finite double is a whole multiple of `2 ^ -1074`, so its exact
value is the integer `scaled`, and comparing doubles with each other and with integers is
comparing integers.
-/

namespace CallAudit

/-- A binary64 number, given by its bits. -/
structure Double where
  bits : UInt64
deriving DecidableEq, Repr, Inhabited

namespace Double

/-- The exponent of the unit in which every finite double is a whole number. -/
def unitExponent : Nat := 1074

/-- The number one, counted in that unit. -/
def oneInUnits : Nat := Nat.pow 2 unitExponent

/-- The highest of 64 bits. -/
def signBit : Nat := 0x8000000000000000

/-- The lowest of the exponent bits, which is also the leading one of a significand. -/
def implicitBit : Nat := 0x10000000000000

def isNegative (d : Double) : Bool := signBit ≤ d.bits.toNat

/-- The eleven exponent bits. -/
def exponentField (d : Double) : Nat := d.bits.toNat / implicitBit % 2048

/-- The 52 bits below the exponent. -/
def fraction (d : Double) : Nat := d.bits.toNat % implicitBit

def isFinite (d : Double) : Bool := d.exponentField < 2047

def isNaN (d : Double) : Bool := d.exponentField = 2047 ∧ d.fraction ≠ 0

/-- The whole number that the exponent scales: subnormal numbers lack the leading one. -/
def significand (d : Double) : Nat :=
  if d.exponentField = 0 then d.fraction else implicitBit + d.fraction

/-- The power of two, in units, that the significand counts. -/
def shift (d : Double) : Nat := d.exponentField - 1

/-- The absolute value of a finite double in units of `2 ^ -1074`. -/
def magnitude (d : Double) : Nat := d.significand * Nat.pow 2 d.shift

/-- The value of a finite double in units of `2 ^ -1074`. -/
def scaled (d : Double) : Int := if d.isNegative then -(d.magnitude : Int) else d.magnitude

/-- The integer that a finite double is, when it is one. -/
def toInt? (d : Double) : Option Int :=
  if d.isFinite && d.scaled % oneInUnits == 0 then some (d.scaled / oneInUnits)
  else none

/-- The double with the given sign and the given 63 other bits. -/
def ofSignAndRest (negative : Bool) (rest : Nat) : Double :=
  ⟨UInt64.ofNat (if negative then signBit + rest else rest)⟩

/-- The 63 bits of infinity below the sign; every larger pattern is not a number. -/
def infinityRest : Nat := 2047 * implicitBit

def infinity (negative : Bool) : Double := ofSignAndRest negative infinityRest

def nan : Double := ofSignAndRest false (infinityRest + implicitBit / 2)

/-- The whole number nearest to `num / den`; a half goes to the even neighbour. -/
def roundQuotient (num den : Nat) : Nat :=
  let quotient := num / den
  let rest := num % den
  if 2 * rest < den then quotient
  else if den < 2 * rest then quotient + 1
  else quotient + quotient % 2

/-- The double nearest to `num / den`, ties to the even significand. A significand that rounds up to
    the next power of two carries into the exponent, because the two stand side by side. -/
def ofQuotient (negative : Bool) (num den : Nat) : Double :=
  let scaledNum := num * oneInUnits
  let drop := Nat.log2 (scaledNum / den) - 52
  let rest := drop * implicitBit + roundQuotient scaledNum (den * Nat.pow 2 drop)
  ofSignAndRest negative (min rest infinityRest)

/-- The double nearest to `digits * 10 ^ exponent`. Exponents far outside the range of doubles are
    settled without computing the power. -/
def ofDecimal (negative : Bool) (digits : Nat) (exponent : Int) : Double :=
  if digits = 0 then ofSignAndRest negative 0
  else if 400 < exponent then infinity negative
  else if exponent + (Nat.log2 digits : Int) < -1200 then ofSignAndRest negative 0
  else if 0 ≤ exponent then ofQuotient negative (digits * Nat.pow 10 exponent.toNat) 1
  else ofQuotient negative digits (Nat.pow 10 (-exponent).toNat)

/-- An integer as a double, rounded to nearest. -/
def ofInt (i : Int) : Double := ofQuotient (decide (i < 0)) i.natAbs 1

end Double

/-- The value of a number: finite values in units of `2 ^ -1074`, so that all finite numbers, whole
    or not, are compared exactly. -/
inductive Magnitude where
  | finite (units : Int)
  | infinite (negative : Bool)
  | notANumber
deriving DecidableEq, Repr

namespace Magnitude

def ofInt (i : Int) : Magnitude := .finite (i * Double.oneInUnits)

def ofDouble (d : Double) : Magnitude :=
  if d.isFinite then .finite d.scaled
  else if d.isNaN then .notANumber
  else .infinite d.isNegative

/-- Numeric equality: equal values, and nothing equals what is not a number. -/
def equal : Magnitude → Magnitude → Bool
  | .finite a, .finite b => a == b
  | .infinite a, .infinite b => a == b
  | _, _ => false

/-- Numeric order, false whenever a side is not a number. -/
def less : Magnitude → Magnitude → Bool
  | .finite a, .finite b => a < b
  | .finite _, .infinite negative => !negative
  | .infinite negative, .finite _ => negative
  | .infinite a, .infinite b => a && !b
  | _, _ => false

theorem equal_comm (a b : Magnitude) : a.equal b = b.equal a := by
  cases a <;> cases b <;> simp [equal, Bool.beq_comm]

end Magnitude

end CallAudit
