import CallAudit.Number.Shortest
import Mathlib.Tactic.Ring
import Mathlib.Tactic.Linarith

/-!
# Rounding to a double

Every point of the neighbourhood of a double rounds to that double, in whatever way the point is given
as a quotient or as a decimal.
-/

namespace CallAudit.Double

/-- A quotient that lies within a half of a whole number rounds to it, and one that lies exactly a half
    away does if the number is even. -/
theorem roundQuotient_eq {num den whole : Nat} (hden : 0 < den)
    (hlow : 2 * (whole * den) ≤ 2 * num + den) (hhigh : 2 * num ≤ 2 * (whole * den) + den)
    (htie : whole % 2 = 0 ∨
      (2 * (whole * den) < 2 * num + den ∧ 2 * num < 2 * (whole * den) + den)) :
    roundQuotient num den = whole := by
  have hparts : num / den * den + num % den = num := Nat.div_add_mod' num den
  have hrest : num % den < den := Nat.mod_lt num hden
  unfold roundQuotient
  dsimp only
  generalize num / den = quotient at *
  generalize num % den = rest at *
  have hle : quotient ≤ whole := by
    by_contra hlt
    have hmul : (whole + 1) * den ≤ quotient * den := Nat.mul_le_mul_right den (by omega)
    rw [Nat.add_one_mul] at hmul
    omega
  have hge : whole ≤ quotient + 1 := by
    by_contra hlt
    have hmul : (quotient + 2) * den ≤ whole * den := Nat.mul_le_mul_right den (by omega)
    rw [Nat.add_mul] at hmul
    omega
  obtain rfl | rfl : whole = quotient ∨ whole = quotient + 1 := by omega
  · split_ifs <;> omega
  · have hnext : (quotient + 1) * den = quotient * den + den := Nat.add_one_mul quotient den
    rw [hnext] at hlow hhigh htie
    split_ifs <;> omega

section Bits

variable (d : Double)

/-- The 63 bits below the sign: the exponent and, beside it, the fraction. -/
def rest : Nat := d.bits.toNat % signBit

theorem ofSignAndRest_rest : ofSignAndRest d.isNegative d.rest = d := by
  have hbits : d.bits.toNat < 2 ^ 64 := d.bits.toNat_lt
  have hvalue : (if d.isNegative then signBit + d.rest else d.rest) = d.bits.toNat := by
    unfold isNegative rest signBit
    split_ifs with h
    · have := of_decide_eq_true h
      omega
    · have : ¬(0x8000000000000000 ≤ d.bits.toNat) := by simpa using h
      omega
  rw [ofSignAndRest, hvalue]
  simp

/-- The exponent counts the shift and adds the leading one of the significand. -/
theorem rest_eq : d.rest = d.shift * implicitBit + d.significand := by
  unfold rest shift significand exponentField fraction signBit implicitBit
  split_ifs <;> omega

theorem rest_lt_infinityRest (hfinite : d.isFinite = true) : d.rest < infinityRest := by
  have hfield : d.exponentField < 2047 := of_decide_eq_true hfinite
  unfold rest infinityRest signBit implicitBit
  unfold exponentField implicitBit at hfield
  omega

theorem significand_lt : d.significand < 2 * implicitBit := by
  unfold significand fraction implicitBit
  split_ifs <;> omega

/-- Only the significand of a number that is not shifted lacks the leading one. -/
theorem implicitBit_le_significand (hshift : d.shift ≠ 0) : implicitBit ≤ d.significand := by
  unfold significand
  unfold shift at hshift
  split_ifs <;> omega

end Bits

/-- A quotient in the binade that a shift stands for drops as many bits, and then its significand is
    rounded. -/
theorem ofQuotient_eq {negative : Bool} {num den shift : Nat} (hden : 0 < den)
    (hlow : shift = 0 ∨ implicitBit * (2 ^ shift * den) ≤ num * oneInUnits)
    (hhigh : num * oneInUnits < 2 * implicitBit * (2 ^ shift * den)) :
    ofQuotient negative num den =
      ofSignAndRest negative (min (shift * implicitBit +
        roundQuotient (num * oneInUnits) (2 ^ shift * den)) infinityRest) := by
  have hdrop : Nat.log2 (num * oneInUnits / den) - 52 = shift := by
    have hlt : num * oneInUnits / den < 2 ^ (53 + shift) := by
      rw [Nat.div_lt_iff_lt_mul hden, Nat.pow_add, Nat.mul_assoc]
      simpa [implicitBit] using hhigh
    by_cases hzero : num * oneInUnits / den = 0
    · have hnum : num * oneInUnits < den := (Nat.div_eq_zero_iff_lt hden).mp hzero
      have hscale : den ≤ 2 ^ shift * den := Nat.le_mul_of_pos_left den (Nat.two_pow_pos shift)
      simp only [hzero, Nat.log2_zero]
      unfold implicitBit at hlow
      omega
    · have hbelow := (Nat.log2_lt hzero).mpr hlt
      obtain rfl | hlow := hlow
      · omega
      · have hle : 2 ^ (52 + shift) ≤ num * oneInUnits / den := by
          rw [Nat.le_div_iff_mul_le hden, Nat.pow_add, Nat.mul_assoc]
          simpa [implicitBit] using hlow
        have habove := (Nat.le_log2 hzero).mpr hle
        omega
  rw [ofQuotient, hdrop, Nat.mul_comm (2 ^ shift)]
  rfl

namespace Neighbourhood

/-- A point that rounds to a double lies between the ends, and on neither of them if they are left out. -/
theorem bounds_of_holds {n : Neighbourhood} {point scale : Nat} (h : n.holds point scale = true) :
    n.low * scale ≤ point ∧ point ≤ n.high * scale ∧
      (n.closed = true ∨ (n.low * scale < point ∧ point < n.high * scale)) := by
  unfold holds at h
  split_ifs at h with hclosed <;> simp only [Bool.and_eq_true, decide_eq_true_eq] at h
  · exact ⟨h.1, h.2, .inl hclosed⟩
  · exact ⟨h.1.le, h.2.le, .inr h⟩

end Neighbourhood

/-- Whether the next double below is half as far away as the next one above. -/
def IsUneven (d : Double) : Prop := d.significand = implicitBit ∧ d.shift ≠ 0

theorem isUneven_iff (d : Double) : d.IsUneven ↔ d.fraction = 0 ∧ 1 < d.exponentField := by
  unfold IsUneven significand shift
  split_ifs <;> omega

/-- A neighbourhood reaches half a gap in both directions, and half as far downwards if the next double
    there is nearer. Its ends belong to it if the significand is even. All is multiplied by four times a
    denominator here. -/
theorem bounds_of_holds {d : Double} (hpos : d.magnitude ≠ 0) {point den gap : Nat}
    (hgap : gap = 2 ^ d.shift * den) (h : d.neighbourhood.holds point den = true) :
    4 * (d.significand * gap) ≤ point + 2 * gap ∧ point ≤ 4 * (d.significand * gap) + 2 * gap ∧
      (d.significand % 2 = 0 ∨ (4 * (d.significand * gap) < point + 2 * gap ∧
        point < 4 * (d.significand * gap) + 2 * gap)) ∧
      (d.IsUneven → 4 * (d.significand * gap) ≤ point + gap) := by
  obtain ⟨hlow, hhigh, hstrict⟩ := Neighbourhood.bounds_of_holds h
  have hclosed : d.neighbourhood.closed = true ↔ d.significand % 2 = 0 := beq_iff_eq
  have hvalue : d.magnitude * den = d.significand * gap := by
    rw [hgap, ← Nat.mul_assoc]
    rfl
  have hup : d.neighbourhood.high * den = 4 * (d.significand * gap) + 2 * gap := by
    rw [← hvalue, hgap, ← Nat.mul_assoc, ← Nat.mul_assoc, ← Nat.add_mul]
    rfl
  have hdown {below : Nat} (hlow : d.neighbourhood.low = 4 * d.magnitude - below * 2 ^ d.shift)
      (hbelow : below ≤ 2) : d.neighbourhood.low * den + below * gap = 4 * (d.significand * gap) := by
    have hle : below * 2 ^ d.shift ≤ 4 * d.magnitude := by
      have hshift : 2 ^ d.shift ≤ d.magnitude :=
        Nat.le_mul_of_pos_left _ (Nat.pos_of_ne_zero (Nat.ne_zero_of_mul_ne_zero_left hpos))
      exact Nat.mul_le_mul (by omega) hshift
    rw [hlow, hgap, ← Nat.mul_assoc, ← Nat.add_mul, Nat.sub_add_cancel hle, Nat.mul_assoc, hvalue,
      hgap]
  rw [hclosed] at hstrict
  by_cases huneven : d.IsUneven
  · have hlow' : d.neighbourhood.low = 4 * d.magnitude - 1 * 2 ^ d.shift := by
      rw [neighbourhood, if_pos ((isUneven_iff d).mp huneven), Nat.one_mul]
      rfl
    have hsum := hdown hlow' (by omega)
    omega
  · have hlow' : d.neighbourhood.low = 4 * d.magnitude - 2 * 2 ^ d.shift := by
      rw [neighbourhood, if_neg (mt (isUneven_iff d).mpr huneven)]
      rfl
    have hsum := hdown hlow' le_rfl
    exact ⟨by omega, by omega, by omega, fun h => absurd h huneven⟩

/-- A quotient in the neighbourhood of a double rounds to it. -/
theorem ofQuotient_of_holds {d : Double} (hfinite : d.isFinite = true) (hpos : d.magnitude ≠ 0)
    {num den : Nat} (hden : 0 < den)
    (h : d.neighbourhood.holds (num * (4 * oneInUnits)) den = true) :
    ofQuotient d.isNegative num den = d := by
  rw [show num * (4 * oneInUnits) = 4 * (num * oneInUnits) from Nat.mul_left_comm ..] at h
  obtain ⟨hlow, hhigh, hstrict, huneven⟩ := bounds_of_holds hpos rfl h
  have hgap : 0 < 2 ^ d.shift * den := Nat.mul_pos (Nat.two_pow_pos _) hden
  have hrest : min d.rest infinityRest = d.rest :=
    Nat.min_eq_left (d.rest_lt_infinityRest hfinite).le
  by_cases hbinade : d.shift = 0 ∨ implicitBit * (2 ^ d.shift * den) ≤ num * oneInUnits
  · have hround : roundQuotient (num * oneInUnits) (2 ^ d.shift * den) = d.significand :=
      roundQuotient_eq hgap (by omega) (by omega) (by omega)
    have hbelow := Nat.mul_le_mul_right (2 ^ d.shift * den) d.significand_lt
    rw [Nat.succ_mul] at hbelow
    rw [ofQuotient_eq hden hbinade (by omega), hround, ← rest_eq, hrest, ofSignAndRest_rest]
  · -- The quotient is below the power of two that the double is, so it drops one bit less and is
    -- rounded up to that power.
    obtain ⟨hshift, hbinade⟩ := not_or.mp hbinade
    have hleast : d.significand = implicitBit := by
      by_contra hne
      have hmore : implicitBit + 1 ≤ d.significand :=
        Nat.lt_of_le_of_ne (d.implicitBit_le_significand hshift) (Ne.symm hne)
      have hmul := Nat.mul_le_mul_right (2 ^ d.shift * den) hmore
      rw [Nat.add_one_mul] at hmul
      omega
    have hnear := huneven ⟨hleast, hshift⟩
    obtain ⟨shift, hsucc⟩ : ∃ shift, d.shift = shift + 1 := Nat.exists_eq_succ_of_ne_zero hshift
    have hdouble (k : Nat) : k * (2 ^ d.shift * den) = 2 * (k * (2 ^ shift * den)) := by
      rw [hsucc]
      ring
    have hrest' : shift * implicitBit + 2 * implicitBit = d.rest := by
      rw [rest_eq, hleast, hsucc]
      ring
    have hone := hdouble 1
    have hhalf : 0 < 2 ^ shift * den := Nat.mul_pos (Nat.two_pow_pos _) hden
    rw [hleast, hdouble] at hnear
    rw [hdouble] at hbinade
    have hround : roundQuotient (num * oneInUnits) (2 ^ shift * den) = 2 * implicitBit := by
      refine roundQuotient_eq hhalf ?_ ?_ (.inl rfl)
      · rw [Nat.mul_assoc]
        omega
      · rw [Nat.mul_assoc]
        omega
    have hbelow : num * oneInUnits < 2 * implicitBit * (2 ^ shift * den) := by
      rw [Nat.mul_assoc]
      omega
    have habove : implicitBit * (2 ^ shift * den) ≤ num * oneInUnits := by
      have hscale : 1 * (2 ^ shift * den) ≤ implicitBit * (2 ^ shift * den) :=
        Nat.mul_le_mul_right _ (by decide)
      omega
    rw [ofQuotient_eq hden (.inr habove) hbelow, hround, hrest', hrest, ofSignAndRest_rest]

end CallAudit.Double
