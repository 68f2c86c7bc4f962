import CallAudit.Number.Shortest

/-!
# Number text

Whole numbers are written in decimal. Doubles are written with their shortest digits, positionally
for a range of exponents that the style fixes and with an exponent outside of it.
-/

namespace CallAudit

/-- A whole number in decimal, with a minus sign if negative. -/
def integerText (i : Int) : List Char :=
  if i < 0 then '-' :: Nat.toDigits 10 i.natAbs else Nat.toDigits 10 i.natAbs

/-- How doubles are written: which exponents are written positionally, and the least number of
    digits of an exponent that is written out. -/
structure NumberStyle where
  positionalFrom : Int
  positionalBelow : Int
  exponentWidth : Nat
deriving Repr

namespace NumberStyle

/-- Values shown to people: positional from `0.0001` up to below `10 ^ 16`, exponents of at least two
    digits. -/
def display : NumberStyle := ⟨-4, 16, 2⟩

/-- JSON output: positional from `0.00001` up to below `10 ^ 16`, exponents as short as they are. -/
def json : NumberStyle := ⟨-5, 16, 1⟩

/-- Digits with the point after the first `whole` of them. At least one digit stands on each side. -/
def positional (digits : List Char) (whole : Int) : List Char :=
  let count := whole.toNat
  if whole ≤ 0 then '0' :: '.' :: (List.replicate (-whole).toNat '0' ++ digits)
  else if digits.length ≤ count then
    digits ++ List.replicate (count - digits.length) '0' ++ ['.', '0']
  else digits.take count ++ '.' :: digits.drop count

/-- One digit, the others after a point, and the signed exponent. -/
def scientific (style : NumberStyle) (digits : List Char) (exponent : Int) : List Char :=
  let lead := digits.take 1
  let rest := digits.drop 1
  let size := Nat.toDigits 10 exponent.natAbs
  lead ++ (if rest.isEmpty then [] else '.' :: rest)
    ++ 'e' :: (if exponent < 0 then '-' else '+')
    :: (List.replicate (style.exponentWidth - size.length) '0' ++ size)

/-- The digits of a decimal without the zeros at their end. -/
def significant (digits : List Char) : List Char := (digits.reverse.dropWhile (· == '0')).reverse

/-- The text of a positive decimal number. -/
def decimalText (style : NumberStyle) (decimal : Decimal) : List Char :=
  let all := Nat.toDigits 10 decimal.digits
  let whole := (all.length : Int) + decimal.exponent
  let digits := significant all
  let exponent := whole - 1
  if style.positionalFrom ≤ exponent && exponent < style.positionalBelow then
    positional digits whole
  else style.scientific digits exponent

/-- The text of a finite double. Zero keeps its sign. -/
def finiteText (style : NumberStyle) (d : Double) : List Char :=
  let body := if d.magnitude = 0 then ['0', '.', '0'] else style.decimalText d.shortest
  if d.isNegative then '-' :: body else body

end NumberStyle

end CallAudit
