import CallAudit.Proofs.Number.Rounding

/-!
# Decimals that round to a double

The search for the shortest decimal ends on a grid with a point in the neighbourhood, and every decimal
there, however its digits and its exponent share the value, rounds to the double.
-/

namespace CallAudit.Double

theorem oneInUnits_pos : 0 < oneInUnits := by
  unfold oneInUnits
  generalize unitExponent = exponent
  exact Nat.two_pow_pos exponent

namespace Neighbourhood

/-- Whether a decimal rounds to the double. -/
def holdsDecimal (n : Neighbourhood) (decimal : Decimal) : Bool :=
  n.holds (decimal.digits * (4 * oneInUnits * 10 ^ decimal.exponent.toNat))
    (10 ^ (-decimal.exponent).toNat)

variable {n : Neighbourhood}

/-- Only the quotient of a point and its scale matters. -/
theorem holds_eq_holds {point scale point' scale' : Nat} (hscale : 0 < scale) (hscale' : 0 < scale')
    (h : point * scale' = point' * scale) : n.holds point scale = n.holds point' scale' := by
  have hbelow (low : Nat) : low * scale ≤ point ↔ low * scale' ≤ point' := by
    rw [← Nat.mul_le_mul_right_iff hscale', h, Nat.mul_right_comm, Nat.mul_le_mul_right_iff hscale]
  have habove (high : Nat) : point ≤ high * scale ↔ point' ≤ high * scale' := by
    rw [← Nat.mul_le_mul_right_iff hscale', h, Nat.mul_right_comm, Nat.mul_le_mul_right_iff hscale]
  unfold holds
  simp only [← Nat.not_le, hbelow, habove]

/-- Zeros at the end of the digits may be counted in the exponent. -/
theorem holdsDecimal_mul_pow (digits zeros : Nat) (exponent : Int) :
    n.holdsDecimal ⟨digits * 10 ^ zeros, exponent⟩ = n.holdsDecimal ⟨digits, exponent + zeros⟩ := by
  refine holds_eq_holds (Nat.pow_pos (by decide)) (Nat.pow_pos (by decide)) ?_
  dsimp only
  have hexponent : zeros + exponent.toNat + (-(exponent + zeros)).toNat =
      (exponent + zeros).toNat + (-exponent).toNat := by
    omega
  calc digits * 10 ^ zeros * (4 * oneInUnits * 10 ^ exponent.toNat) *
        10 ^ (-(exponent + zeros)).toNat
    _ = digits * (4 * oneInUnits) *
        10 ^ (zeros + exponent.toNat + (-(exponent + zeros)).toNat) := by
      rw [Nat.pow_add, Nat.pow_add]
      ring
    _ = digits * (4 * oneInUnits * 10 ^ (exponent + zeros).toNat) * 10 ^ (-exponent).toNat := by
      rw [hexponent, Nat.pow_add]
      ring

theorem holdsDecimal_of_onGrid {exponent : Int} {digits : Nat}
    (h : n.onGrid exponent = some digits) : n.holdsDecimal ⟨digits, exponent⟩ = true := by
  unfold onGrid at h
  extract_lets one step scale below rest takesBelow nearer farther at h
  split_ifs at h with hnearer hfarther
  · obtain rfl := Option.some.inj h
    exact hnearer
  · obtain rfl := Option.some.inj h
    exact hfarther

/-- A grid that the double itself lies on has a point. -/
theorem isSome_onGrid_of_value {exponent : Int} {digits : Nat}
    (hvalue : n.value * 10 ^ (-exponent).toNat = digits * (4 * oneInUnits * 10 ^ exponent.toNat))
    (hholds : n.holdsDecimal ⟨digits, exponent⟩ = true) : (n.onGrid exponent).isSome := by
  have hstep : 0 < 4 * oneInUnits * 10 ^ exponent.toNat :=
    Nat.mul_pos (Nat.mul_pos (by decide) oneInUnits_pos) (Nat.pow_pos (by decide))
  have hbelow := Nat.mul_div_cancel digits hstep
  have hrest := Nat.mul_mod_left digits (4 * oneInUnits * 10 ^ exponent.toNat)
  rw [← hvalue] at hbelow hrest
  unfold onGrid
  extract_lets one step scale below rest takesBelow nearer farther
  have hnearer : nearer = digits := by
    have htakes : takesBelow := by
      have hzero : rest = 0 := hrest
      have hpos : 0 < step := hstep
      simp [takesBelow, hzero, hpos, hpos.ne]
    simp only [nearer, if_pos htakes]
    exact hbelow
  have hfound : n.holds (nearer * step) scale = true := hnearer.symm ▸ hholds
  rw [if_pos hfound]
  rfl

/-- The search takes a decimal that rounds to the double if one of the grids it comes to has one. -/
theorem holdsDecimal_search {fuel : Nat} {exponent : Int}
    (hgrid : ∃ steps < fuel, (n.onGrid (exponent - (steps : Int))).isSome) :
    n.holdsDecimal (n.search exponent fuel) = true := by
  induction fuel generalizing exponent with
  | zero =>
    obtain ⟨steps, hsteps, _⟩ := hgrid
    omega
  | succ fuel ih =>
    unfold search
    cases hhere : n.onGrid exponent with
    | some digits => exact holdsDecimal_of_onGrid hhere
    | none =>
      obtain ⟨steps, hsteps, hsome⟩ := hgrid
      cases steps with
      | zero => simp [hhere] at hsome
      | succ steps =>
        refine ih ⟨steps, by omega, ?_⟩
        rwa [show exponent - 1 - (steps : Int) = exponent - ((steps + 1 : Nat) : Int) by omega]

end Neighbourhood

section Finite

variable {d : Double}

theorem neighbourhood_value (d : Double) : d.neighbourhood.value = 4 * d.magnitude := rfl

/-- A neighbourhood reaches out from the double in both directions. -/
theorem neighbourhood_bounds (hpos : d.magnitude ≠ 0) :
    0 < d.neighbourhood.low ∧ d.neighbourhood.low < 4 * d.magnitude ∧
      4 * d.magnitude < d.neighbourhood.high := by
  have hgap : 0 < Nat.pow 2 d.shift := Nat.two_pow_pos _
  have hshift : Nat.pow 2 d.shift ≤ d.magnitude :=
    Nat.le_mul_of_pos_left _ (Nat.pos_of_ne_zero (Nat.ne_zero_of_mul_ne_zero_left hpos))
  unfold neighbourhood
  dsimp only
  generalize Nat.pow 2 d.shift = gap at *
  split_ifs <;> omega

/-- A double is in its own neighbourhood. -/
theorem holds_value (hpos : d.magnitude ≠ 0) {scale : Nat} (hscale : 0 < scale) :
    d.neighbourhood.holds (d.neighbourhood.value * scale) scale = true := by
  obtain ⟨_, hlow, hhigh⟩ := neighbourhood_bounds hpos
  have hbelow := Nat.mul_lt_mul_of_pos_right hlow hscale
  have habove := Nat.mul_lt_mul_of_pos_right hhigh hscale
  unfold Neighbourhood.holds
  rw [neighbourhood_value]
  split_ifs <;> simp [hbelow, habove, hbelow.le, habove.le]

/-- Every double is a whole number of steps of the finest grid. -/
theorem isSome_onGrid_finest (hpos : d.magnitude ≠ 0) :
    (d.neighbourhood.onGrid (-(unitExponent : Int))).isSome := by
  have hpow : 10 ^ unitExponent = oneInUnits * 5 ^ unitExponent := by
    unfold oneInUnits
    generalize unitExponent = exponent
    rw [Nat.pow_eq, ← Nat.mul_pow]
  have hexponent : (-(-(unitExponent : Int))).toNat = unitExponent := by omega
  have hvalue : d.neighbourhood.value * 10 ^ (-(-(unitExponent : Int))).toNat =
      d.magnitude * 5 ^ unitExponent * (4 * oneInUnits * 10 ^ (-(unitExponent : Int)).toNat) := by
    rw [hexponent, hpow, neighbourhood_value, show (-(unitExponent : Int)).toNat = 0 by omega]
    ring
  refine Neighbourhood.isSome_onGrid_of_value hvalue ?_
  rw [Neighbourhood.holdsDecimal, ← hvalue]
  exact holds_value hpos (Nat.pow_pos (by decide))

/-- The shortest decimal rounds to the double. -/
theorem holdsDecimal_shortest (hpos : d.magnitude ≠ 0) :
    d.neighbourhood.holdsDecimal d.shortest = true := by
  refine Neighbourhood.holdsDecimal_search ⟨d.coarsest + unitExponent, by omega, ?_⟩
  have hfinest := isSome_onGrid_finest hpos
  rwa [show (d.coarsest : Int) - ((d.coarsest + unitExponent : Nat) : Int) = -(unitExponent : Int)
    by omega]

section Range

variable {digits : Nat} {exponent : Int}

theorem mul_pow_toNat_of_nonpos (factor : Nat) (h : exponent ≤ 0) :
    factor * 10 ^ exponent.toNat = factor := by
  rw [Int.toNat_of_nonpos h, Nat.pow_zero, Nat.mul_one]

theorem two_pow_le_ten_pow (n : Nat) : 2 ^ (3 * n) ≤ 10 ^ n := by
  rw [Nat.pow_mul]
  exact Nat.pow_le_pow_left (by decide) n

theorem four_mul_oneInUnits : 4 * oneInUnits = 2 ^ (2 + unitExponent) := by
  unfold oneInUnits
  generalize unitExponent = exponent
  rw [Nat.pow_add, Nat.pow_eq]

theorem neighbourhood_high_le (d : Double) : d.neighbourhood.high ≤ 2 ^ (55 + d.shift) := by
  have hmagnitude : d.magnitude ≤ (2 * implicitBit - 1) * Nat.pow 2 d.shift :=
    Nat.mul_le_mul_right _ (Nat.le_sub_one_of_lt d.significand_lt)
  change 4 * d.magnitude + 2 * 2 ^ d.shift ≤ _
  rw [Nat.pow_eq, implicitBit] at hmagnitude
  rw [Nat.pow_add]
  generalize 2 ^ d.shift = gap at *
  omega

theorem digits_ne_zero_of_holdsDecimal (hpos : d.magnitude ≠ 0)
    (h : d.neighbourhood.holdsDecimal ⟨digits, exponent⟩ = true) : digits ≠ 0 := by
  rintro rfl
  obtain ⟨hlow, _⟩ := Neighbourhood.bounds_of_holds h
  have hleast : 0 < d.neighbourhood.low * 10 ^ (-exponent).toNat :=
    Nat.mul_pos (neighbourhood_bounds hpos).1 (Nat.pow_pos (by decide))
  dsimp only at hlow
  rw [Nat.zero_mul] at hlow
  omega

/-- No power of ten above this one is as small as a double. -/
theorem exponent_le_of_holdsDecimal (hfinite : d.isFinite = true) (hpos : d.magnitude ≠ 0)
    (h : d.neighbourhood.holdsDecimal ⟨digits, exponent⟩ = true) : exponent ≤ 400 := by
  by_contra hlarge
  have hdigits : 0 < digits := Nat.pos_of_ne_zero (digits_ne_zero_of_holdsDecimal hpos h)
  obtain ⟨_, hhigh, _⟩ := Neighbourhood.bounds_of_holds h
  dsimp only at hhigh
  rw [mul_pow_toNat_of_nonpos _ (by omega : -exponent ≤ 0)] at hhigh
  have hpower : 2 ^ (2 + unitExponent + 3 * exponent.toNat) ≤ 2 ^ (55 + d.shift) :=
    calc 2 ^ (2 + unitExponent + 3 * exponent.toNat)
      _ = 4 * oneInUnits * 2 ^ (3 * exponent.toNat) := by rw [Nat.pow_add, four_mul_oneInUnits]
      _ ≤ 4 * oneInUnits * 10 ^ exponent.toNat := Nat.mul_le_mul_left _ (two_pow_le_ten_pow _)
      _ ≤ digits * (4 * oneInUnits * 10 ^ exponent.toNat) := Nat.le_mul_of_pos_left _ hdigits
      _ ≤ d.neighbourhood.high := hhigh
      _ ≤ 2 ^ (55 + d.shift) := neighbourhood_high_le d
  have hexponents := (Nat.pow_le_pow_iff_right (by decide)).mp hpower
  have hfield : d.exponentField < 2047 := of_decide_eq_true hfinite
  unfold unitExponent shift at hexponents
  omega

/-- No decimal that starts after so many zeros is as large as a double. -/
theorem le_exponent_of_holdsDecimal (hpos : d.magnitude ≠ 0)
    (h : d.neighbourhood.holdsDecimal ⟨digits, exponent⟩ = true) :
    -1200 ≤ exponent + (Nat.log2 digits : Int) := by
  by_contra hsmall
  obtain ⟨hlow, _⟩ := Neighbourhood.bounds_of_holds h
  dsimp only at hlow
  rw [mul_pow_toNat_of_nonpos _ (by omega : exponent ≤ 0)] at hlow
  have hpower : 2 ^ (3 * (-exponent).toNat) < 2 ^ (Nat.log2 digits + 1 + (2 + unitExponent)) :=
    calc 2 ^ (3 * (-exponent).toNat)
      _ ≤ 10 ^ (-exponent).toNat := two_pow_le_ten_pow _
      _ ≤ d.neighbourhood.low * 10 ^ (-exponent).toNat :=
        Nat.le_mul_of_pos_left _ (neighbourhood_bounds hpos).1
      _ ≤ digits * (4 * oneInUnits) := hlow
      _ < 2 ^ (Nat.log2 digits + 1) * (4 * oneInUnits) :=
        Nat.mul_lt_mul_of_pos_right Nat.lt_log2_self (Nat.mul_pos (by decide) oneInUnits_pos)
      _ = 2 ^ (Nat.log2 digits + 1 + (2 + unitExponent)) := by
        rw [Nat.pow_add 2 (_ + 1), four_mul_oneInUnits]
  have hexponents := (Nat.pow_lt_pow_iff_right (by decide)).mp hpower
  unfold unitExponent at hexponents
  omega

/-- A decimal in the neighbourhood of a double is read as that double. -/
theorem ofDecimal_of_holdsDecimal (hfinite : d.isFinite = true) (hpos : d.magnitude ≠ 0)
    (h : d.neighbourhood.holdsDecimal ⟨digits, exponent⟩ = true) :
    ofDecimal d.isNegative digits exponent = d := by
  have hdigits := digits_ne_zero_of_holdsDecimal hpos h
  have hlarge := exponent_le_of_holdsDecimal hfinite hpos h
  have hsmall := le_exponent_of_holdsDecimal hpos h
  unfold Neighbourhood.holdsDecimal at h
  dsimp only at h
  rw [ofDecimal, if_neg hdigits, if_neg (by omega), if_neg (by omega)]
  split_ifs with hsign
  · refine ofQuotient_of_holds hfinite hpos (by decide) ?_
    rw [Int.toNat_of_nonpos (by omega : -exponent ≤ 0), Nat.pow_zero] at h
    rwa [Nat.mul_assoc, Nat.mul_comm (Nat.pow 10 _)]
  · refine ofQuotient_of_holds hfinite hpos (Nat.pow_pos (by decide)) ?_
    rwa [mul_pow_toNat_of_nonpos _ (by omega : exponent ≤ 0)] at h

end Range

end Finite

end CallAudit.Double
